import PitchDesk.Access.Permission
import PitchDesk.Access.Rule
import PitchDesk.ActionMenu.Basic
import PitchDesk.ActionMenu.Dropdown
import PitchDesk.ActionMenu.Placement
import PitchDesk.Calendar
import PitchDesk.Command.Credentials
import PitchDesk.Command.Machine
import PitchDesk.Command.Options
import PitchDesk.Command.Start
import PitchDesk.Config
import PitchDesk.Desk.Basic
import PitchDesk.Desk.Keys
import PitchDesk.Desk.Mouse
import PitchDesk.Desk.News
import PitchDesk.Desk.Row
import PitchDesk.Desk.Start
import PitchDesk.Duration
import PitchDesk.Failure
import PitchDesk.File.Making
import PitchDesk.File.Path
import PitchDesk.File.Tree
import PitchDesk.Forest
import PitchDesk.Form
import PitchDesk.Json.Basic
import PitchDesk.Json.Data
import PitchDesk.Json.Double
import PitchDesk.Json.Reader
import PitchDesk.Json.Token
import PitchDesk.Json.Wire
import PitchDesk.Json.Writer
import PitchDesk.Listing
import PitchDesk.Log.Directive
import PitchDesk.Log.Filter
import PitchDesk.Log.Rule
import PitchDesk.Main
import PitchDesk.Menu.Hierarchy
import PitchDesk.Menu.Preset
import PitchDesk.Menu.Resolved
import PitchDesk.Pattern.Basic
import PitchDesk.Pattern.Check
import PitchDesk.Pattern.Cursor
import PitchDesk.Pattern.Escape
import PitchDesk.Pattern.Fault
import PitchDesk.Pattern.Reader
import PitchDesk.Pattern.SetReader
import PitchDesk.Record.Basic
import PitchDesk.Record.Wire
import PitchDesk.Resource
import PitchDesk.Role
import PitchDesk.RowAction
import PitchDesk.Sample.Accounts
import PitchDesk.Sample.Generator
import PitchDesk.Sample.Records
import PitchDesk.Sample.Visit
import PitchDesk.Screen.Area
import PitchDesk.Screen.Canvas
import PitchDesk.Screen.Draw
import PitchDesk.Service.Backend
import PitchDesk.Service.Client
import PitchDesk.Service.Envelope
import PitchDesk.Service.Error
import PitchDesk.Setting
import PitchDesk.Sidebar
import PitchDesk.Store.Basic
import PitchDesk.Store.Location
import PitchDesk.Store.Place
import PitchDesk.Table.Cell
import PitchDesk.Table.Spec
import PitchDesk.Table.Views
import PitchDesk.Text.Alphabetic
import PitchDesk.Text.Blank
import PitchDesk.Text.CharWidth
import PitchDesk.Text.Cluster
import PitchDesk.Text.Combining
import PitchDesk.Text.Composition
import PitchDesk.Text.Decimal
import PitchDesk.Text.Direction
import PitchDesk.Text.Emoji
import PitchDesk.Text.Joining
import PitchDesk.Text.Mark
import PitchDesk.Text.Numeric
import PitchDesk.Text.Printable
import PitchDesk.Text.Quoted
import PitchDesk.Text.Width
import PitchDesk.Toml.Basic
import PitchDesk.Toml.Reader
import PitchDesk.Toml.Scalar
import PitchDesk.Url.Basic
import PitchDesk.Url.Host
import PitchDesk.Url.Name
import PitchDesk.Url.NameMapping
import PitchDesk.Url.Percent
import PitchDesk.Url.Punycode
import PitchDesk.Url.Reader
import PitchDesk.Workspace
import PitchDesk.Proofs.Text.Blank
import PitchDesk.Proofs.Json.Reader
import PitchDesk.Proofs.Listing.Run
import PitchDesk.Proofs.Forest
import PitchDesk.Proofs.Menu.Parents
import PitchDesk.Proofs.Menu.Preorder
import PitchDesk.Proofs.Desk.Moves
import PitchDesk.Proofs.Desk.Turns
import PitchDesk.Proofs.Desk.Access
import PitchDesk.Proofs.Desk.Requests
import PitchDesk.Proofs.Desk.Delivery
import PitchDesk.Proofs.Listing.Pages
import PitchDesk.Proofs.Menu.Siblings
import PitchDesk.Proofs.Desk.Session
import PitchDesk.Proofs.Desk.Tidy
import PitchDesk.Proofs.RowAction
import PitchDesk.Proofs.Desk.Press
import PitchDesk.Proofs.Desk.Questions
import PitchDesk.Proofs.Desk.Changes
import PitchDesk.Proofs.Service.Envelope
import PitchDesk.Proofs.Service.Operation
import PitchDesk.Proofs.Service.Refusal
import PitchDesk.Proofs.Desk.History
import PitchDesk.Proofs.Desk.Loading
import PitchDesk.Proofs.Desk.SignedOut
import PitchDesk.Proofs.Desk.Notices
import PitchDesk.Proofs.Text.Decimal
import PitchDesk.Proofs.Calendar
import PitchDesk.Proofs.Json.Token
import PitchDesk.Proofs.Json.Writer
import PitchDesk.Proofs.Json.Wire
import PitchDesk.Proofs.Record.Wire
import PitchDesk.Proofs.Store.Settings
import PitchDesk.Proofs.Menu.Cache
import PitchDesk.Proofs.Command.Step
import PitchDesk.Proofs.Config
import PitchDesk.Proofs.Command.Check
import PitchDesk.Proofs.Focus
import PitchDesk.Proofs.Sidebar
import PitchDesk.Proofs.Screen.Canvas
import PitchDesk.Proofs.Screen.OpenMenu
import PitchDesk.Proofs.Screen.Table
import PitchDesk.Proofs.Screen.Sidebar
import PitchDesk.Proofs.Sidebar.Reach
import PitchDesk.Proofs.Desk.Typing
import PitchDesk.Proofs.Desk.MouseKeys
import PitchDesk.Proofs.Desk.Routes
import PitchDesk.Proofs.Desk.FirstView
import PitchDesk.Proofs.Forest.Place
import PitchDesk.Proofs.Sidebar.Visible
import PitchDesk.Proofs.Menu.Relisting
import PitchDesk.Proofs.Sidebar.Fold
import PitchDesk.Proofs.Access
import PitchDesk.Proofs.ActionMenu
import PitchDesk.Proofs.Table
import PitchDesk.Proofs.Text.Affix
import PitchDesk.Proofs.Duration
import PitchDesk.Proofs.Table.Money
import PitchDesk.Proofs.Listing.Turning
import PitchDesk.Proofs.Command.Options
import PitchDesk.Proofs.Calendar.Counting
import PitchDesk.Proofs.Sample.Records
import PitchDesk.Proofs.Sample.Calls
import PitchDesk.Proofs.Store.Location
import PitchDesk.Proofs.Resource
import PitchDesk.Proofs.Screen.Clipping

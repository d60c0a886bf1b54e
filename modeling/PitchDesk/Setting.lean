import PitchDesk.Json.Wire
import PitchDesk.Text.Blank

/-!
# Settings

The preferences that outlive a session: whether the sidebar is collapsed, and the address that was
last used to sign in. Each setting has a kind, and is stored as text.

Reading is wider than writing: a switch is stored as one of two words, and read from eight. The
kind of a value is part of it, and a value of another kind than its setting is not stored.
-/

namespace PitchDesk

/-- What kind of value a setting has. -/
inductive SettingKind where
  | bool
  | text
  deriving DecidableEq, Repr

/-- The name of a kind. -/
def SettingKind.name : SettingKind → String
  | .bool => "Bool"
  | .text => "Text"

/-- A setting. -/
inductive SettingKey where
  | sidebarCollapsed
  | lastEmail
  deriving DecidableEq, Repr

namespace SettingKey

/-- The settings in the order in which they are listed. -/
def all : List SettingKey := [.sidebarCollapsed, .lastEmail]

/-- The key under which a setting is stored. -/
def code : SettingKey → String
  | .sidebarCollapsed => "ui.sidebar_collapsed"
  | .lastEmail => "auth.last_email"

/-- The setting with a key. -/
def ofCode? (s : String) : Option SettingKey :=
  all.find? (·.code == s)

/-- The kind of value that a setting has. -/
def kind : SettingKey → SettingKind
  | .sidebarCollapsed => .bool
  | .lastEmail => .text

end SettingKey

/-- The value of a setting. -/
inductive SettingValue where
  | bool (value : Bool)
  | text (value : String)
  deriving DecidableEq, Repr

namespace SettingValue

/-- Reads a switch as a person may write it. -/
def switch? (raw : String) : Option Bool :=
  match Text.lowerAscii (Text.trim raw) with
  | "1" | "true" | "on" | "yes" => some true
  | "0" | "false" | "off" | "no" => some false
  | _ => none

/-- Reads the stored text of a setting. -/
def read? (key : SettingKey) (raw : String) : Option SettingValue :=
  match key.kind with
  | .bool => (switch? raw).map .bool
  | .text => some (.text raw)

/-- The text under which a value is stored, if the setting has values of its kind. -/
def stored? (key : SettingKey) (value : SettingValue) : Option String :=
  match key.kind, value with
  | .bool, .bool b => some (if b then "true" else "false")
  | .text, .text s => some s
  | _, _ => none

end SettingValue

instance : Wire SettingValue where
  toJson
    | .bool b => .ofFields [("Bool", Wire.toJson b)]
    | .text s => .ofFields [("Text", Wire.toJson s)]
  ofJson?
    | .object [(name, v)] =>
      match Json.textOf? name with
      | some "Bool" => (Wire.ofJson? v).map .bool
      | some "Text" => (Wire.ofJson? v).map .text
      | _ => none
    | _ => none

instance : Wire SettingKind where
  toJson k := .text k.name
  ofJson? := Wire.choice? fun
    | "Bool" => some .bool
    | "Text" => some .text
    | _ => none

instance : Wire SettingKey where
  toJson
    | .sidebarCollapsed => .text "UiSidebarCollapsed"
    | .lastEmail => .text "AuthLastEmail"
  ofJson? := Wire.choice? fun
    | "UiSidebarCollapsed" => some .sidebarCollapsed
    | "AuthLastEmail" => some .lastEmail
    | _ => none

end PitchDesk

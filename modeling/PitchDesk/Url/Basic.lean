import PitchDesk.Text.Blank
import PitchDesk.Url.Percent

/-!
# Web addresses

An address under `http` or `https` in its parts, each in its written form. The path always has at
least one segment; a path that ends in a slash has an empty last one.
-/

namespace PitchDesk

/-- A web address. -/
structure Url where
  secure : Bool
  /-- The name of the user, and the password if there is one. -/
  user : List Char
  password : List Char
  host : List Char
  /-- The port, unless it is the usual one. -/
  port : Option Nat
  path : List (List Char)
  query : Option (List Char)
  fragment : Option (List Char)
  deriving DecidableEq, Repr

namespace Url

/-- The scheme of an address. -/
def scheme (u : Url) : List Char :=
  (if u.secure then "https" else "http").toList

/-- The user with a password, as it stands before the host. -/
def userInfo (u : Url) : List Char :=
  if u.user.isEmpty && u.password.isEmpty then []
  else u.user ++ (if u.password.isEmpty then [] else ':' :: u.password) ++ ['@']

/-- The path with a slash before each segment. -/
def pathText (u : Url) : List Char :=
  u.path.flatMap ('/' :: ·)

/-- The path and the query, as a request line has them. -/
def target (u : Url) : String :=
  String.ofList (u.pathText ++ (u.query.map ('?' :: ·)).getD [])

/-- The whole address. -/
def toText (u : Url) : String :=
  String.ofList (u.scheme ++ [':', '/', '/'] ++ u.userInfo ++ u.host ++
    (u.port.map fun p ↦ ':' :: (toString p).toList).getD [] ++ u.pathText ++
    (u.query.map ('?' :: ·)).getD [] ++ (u.fragment.map ('#' :: ·)).getD [])

/-! ### Segments -/

/-- A segment that leads nowhere else: a dot, plain or encoded. -/
def isDot (segment : List Char) : Bool :=
  [['.'], ['%', '2', 'e']].contains (segment.map Char.toLower)

/-- A segment that leads back: two dots, plain or encoded. -/
def isDoubleDot (segment : List Char) : Bool :=
  [['.', '.'], ['.', '%', '2', 'e'], ['%', '2', 'e', '.'],
   ['%', '2', 'e', '%', '2', 'e']].contains (segment.map Char.toLower)

/-- Adds a segment to the ones before it. Two dots take the segment before them away. At the end of
a path dots leave an empty segment behind. -/
def pushSegment (path : List (List Char)) (segment : List Char) (last : Bool) : List (List Char) :=
  if isDoubleDot segment then path.dropLast ++ (if last then [[]] else [])
  else if isDot segment then path ++ (if last then [[]] else [])
  else path ++ [segment]

/-- The path of some segments. -/
def pathOf (segments : List (List Char)) : List (List Char) :=
  let path := segments.dropLast.foldl (pushSegment · · false) []
  pushSegment path ((segments.getLast?).getD []) true

/-- Characters that are dropped wherever they stand in an address. -/
def isDropped (c : Char) : Bool :=
  c == '\t' || c == '\n' || c == '\r'

/-- Adds a segment to the path of an address. Plain dots are left out, and an empty path is
replaced. -/
def addSegment (path : List (List Char)) (segment : String) : List (List Char) :=
  if segment == "." || segment == ".." then path
  else
    let cs := percentEncode escapedInSegment (segment.toList.filter (!isDropped ·))
    pushSegment (if path = [[]] then [] else path) cs true

/-- The address that some segments below an address lead to. An empty last segment is replaced. -/
def endpoint (u : Url) (segments : List String) : Url :=
  let base := if 1 < u.path.length && u.path.getLast? == some [] then u.path.dropLast else u.path
  { u with path := segments.foldl addSegment base }

/-- An address with a parameter added to its query. -/
def addParameter (u : Url) (name value : String) : Url :=
  let pair := formEncode name ++ '=' :: formEncode value
  { u with
    query := some <|
      match u.query with
      | some (c :: cs) => c :: cs ++ '&' :: pair
      | _ => pair }

/-- A text without the blanks at its ends and then without the slashes at its end. -/
def withoutSlashes (text : String) : String :=
  String.ofList (Text.dropEndWhile (· == '/') (Text.trim text).toList)

/-- An address without the user. -/
def anonymous (u : Url) : Url :=
  { u with user := [], password := [] }

end Url

end PitchDesk

import PitchDesk.Url.Basic
import PitchDesk.Url.Host

/-!
# Reading web addresses

An address is read in its parts, and each part is brought to its written form: scheme and host in
lower case, the usual port left out, dots in the path resolved, and characters that must not stand
in a part percent-encoded. Of addresses that are not for the web only the scheme is told.
-/

namespace PitchDesk

namespace Url

/-- An address that was read. -/
inductive Address where
  | web (url : Url)
  | other (scheme : String)
  deriving DecidableEq, Repr

/-- Controls and blanks are dropped from the ends of an address. -/
def isMargin (c : Char) : Bool :=
  c.toNat ≤ 0x20

/-- The characters of an address that count. -/
def significant (cs : List Char) : List Char :=
  (Text.stripWhile isMargin cs).filter (!isDropped ·)

/-- The scheme of an address in lower case, and what follows its colon. -/
def scheme? (cs : List Char) : Option (List Char × List Char) :=
  let name := cs.takeWhile fun c ↦ c.isAlphanum || ['+', '-', '.'].contains c
  match cs.drop name.length with
  | ':' :: rest =>
    if (name.head?).any Char.isAlpha then some (name.map Char.toLower, rest) else none
  | _ => none

/-- The schemes whose addresses have a host as web addresses have, with their usual ports. -/
def usualPort? (scheme : List Char) : Option Nat :=
  match String.ofList scheme with
  | "http" => some 80
  | "https" => some 443
  | "ws" => some 80
  | "wss" => some 443
  | "ftp" => some 21
  | _ => none

/-- A character that separates the segments of a path. -/
def isSlash (special : Bool) (c : Char) : Bool :=
  c == '/' || (special && c == '\\')

/-- A character that ends the part with the host. -/
def endsAuthority (special : Bool) (c : Char) : Bool :=
  isSlash special c || c == '?' || c == '#'

/-- The pieces of a path between its slashes. -/
def segments (special : Bool) : List Char → List (List Char)
  | [] => [[]]
  | c :: cs =>
    if isSlash special c then [] :: segments special cs
    else
      match segments special cs with
      | [] => [[c]]
      | s :: ss => (c :: s) :: ss

/-- A port number, if it is one; an empty one stands for the usual port. A backslash ends it. -/
def port? (usual : Option Nat) (cs : List Char) : Option (Option Nat) :=
  let cs := cs.takeWhile (· != '\\')
  if cs.isEmpty then some none
  else if !cs.all Char.isDigit then none
  else
    let n := cs.foldl (fun n c ↦ n * 10 + (c.toNat - '0'.toNat)) 0
    if 65535 < n then none else some (if usual = some n then none else some n)

/-- The host, and what follows its colon. Colons inside brackets belong to the host. -/
def hostAndPort (inside : Bool) : List Char → List Char × Option (List Char)
  | [] => ([], none)
  | c :: cs =>
    if c = ':' ∧ !inside then ([], some cs)
    else
      let inside := if c = '[' then true else if c = ']' then false else inside
      let (host, port) := hostAndPort inside cs
      (c :: host, port)

/-- The name and password before the host, encoded. The password follows the first colon. -/
def userInfo? (cs : List Char) : List Char × List Char :=
  let name := cs.takeWhile (· != ':')
  (percentEncode escapedInUserInfo name,
    percentEncode escapedInUserInfo ((cs.drop name.length).drop 1))

/-- The part of an address with its host: user, password, host and port. -/
structure Authority where
  user : List Char
  password : List Char
  host : List Char
  port : Option Nat
  deriving DecidableEq, Repr

/-- Reads the part of an address with its host, at the beginning of what follows the slashes: the
host first, then the port. An address that is not for the web may have no host, but then it has no
port and nothing before the host. -/
def authority (special : Bool) (usual : Option Nat) (rest : List Char) :
    Except UrlError Authority := do
  let cs := rest.takeWhile (!endsAuthority special ·)
  let server := Text.afterLast '@' cs
  let before := cs.take (cs.length - server.length)
  let (user, password) := userInfo? before.dropLast
  let (hostText, portText) := hostAndPort false server
  let hasMore := !user.isEmpty || !password.isEmpty || portText.isSome ||
    (before == ['@'] && cs.length < rest.length)
  if !special && hostText.isEmpty && hasMore then
    throw .emptyHost
  let host ← if special then readHost hostText else readOpaqueHost hostText
  match port? usual (portText.getD []) with
  | some port => return ⟨user, password, host, port⟩
  | none => throw .badPort

/-- A drive letter may stand where a file address has its host. -/
def isDrive : List Char → Bool
  | [a, b] => a.isAlpha && (b == ':' || b == '|')
  | _ => false

/-- Checks a file address: a host after two slashes must be one. -/
def checkFile : List Char → Except UrlError Unit
  | a :: b :: rest =>
    if isSlash true a && isSlash true b then
      let hostText := rest.takeWhile (!endsAuthority true ·)
      if hostText.isEmpty || isDrive hostText then .ok ()
      else (readHost hostText).map fun _ ↦ ()
    else .ok ()
  | _ => .ok ()

/-- Reads what follows the scheme and slashes of a web address. -/
def readWeb (secure : Bool) (cs : List Char) : Except UrlError Url := do
  let usual := if secure then 443 else 80
  let a ← authority true (some usual) cs
  let rest := cs.dropWhile (!endsAuthority true ·)
  let beforeFragment := rest.takeWhile (· != '#')
  let path := beforeFragment.takeWhile (· != '?')
  let query := beforeFragment.drop path.length
  let fragment := rest.drop beforeFragment.length
  let pieces := match path with
    | c :: cs => if isSlash true c then segments true cs else segments true path
    | [] => [[]]
  return {
    secure := secure
    user := a.user
    password := a.password
    host := a.host
    port := a.port
    path := pathOf (pieces.map (percentEncode escapedInPath))
    query := if query.isEmpty then none else some (percentEncode escapedInQuery (query.drop 1))
    fragment :=
      if fragment.isEmpty then none
      else some (percentEncode escapedInFragment (fragment.drop 1)) }

/-- Reads an address. -/
def read (text : String) : Except UrlError Address :=
  match scheme? (significant text.toList) with
  | none => .error .noScheme
  | some (scheme, rest) =>
    let name := String.ofList scheme
    if name = "file" then (checkFile rest).map fun _ ↦ .other name
    else
      -- an address that is not for the web is read all the same: its faults are told first
      match usualPort? scheme with
      | some usual =>
        let cs := rest.dropWhile (isSlash true)
        if name = "http" ∨ name = "https" then (readWeb (name == "https") cs).map .web
        else (authority true (some usual) cs).map fun _ ↦ .other name
      | none =>
        match rest with
        | '/' :: '/' :: cs =>
          (authority false none cs).map fun _ ↦ .other name
        | _ => .ok (.other name)

end Url

end PitchDesk

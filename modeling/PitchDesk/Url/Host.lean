import PitchDesk.File.Path
import PitchDesk.Text.Blank
import PitchDesk.Url.Name
import PitchDesk.Url.Percent

/-!
# Hosts

The host of a web address: a name, an IPv4 address in any of its spellings, or an IPv6 address in
brackets. Each is brought to one written form.
-/

namespace PitchDesk

/-- Why a text is not an address. -/
inductive UrlError where
  | noScheme
  | emptyHost
  | badName
  | badCharacter
  | badIpv4
  | badIpv6
  | badPort
  deriving DecidableEq, Repr

/-- The wording of each cause. -/
def UrlError.message : UrlError → String
  | .noScheme => "relative URL without a base"
  | .emptyHost => "empty host"
  | .badName => "invalid international domain name"
  | .badCharacter => "invalid domain character"
  | .badIpv4 => "invalid IPv4 address"
  | .badIpv6 => "invalid IPv6 address"
  | .badPort => "invalid port number"

namespace Url

/-! ### IPv4 -/

/-- The value of a digit in a number of an IPv4 address. -/
def digitIn? (base : Nat) (c : Char) : Option Nat :=
  (Text.hexValue? c).filter (· < base)

/-- The value of some digits. -/
def digitsIn? (base : Nat) (cs : List Char) : Option Nat :=
  cs.foldlM (fun n c ↦ (digitIn? base c).map (n * base + ·)) 0

/-- A number of an IPv4 address: hexadecimal after `0x`, octal after `0`, else decimal. -/
def ipv4Number? : List Char → Option Nat
  | [] => none
  | '0' :: 'x' :: ds => digitsIn? 16 ds
  | '0' :: 'X' :: ds => digitsIn? 16 ds
  | ['0'] => some 0
  | '0' :: ds => digitsIn? 8 ds
  | ds => digitsIn? 10 ds

/-- The labels of a host name, without an empty last one. -/
def labels (host : List Char) : List (List Char) :=
  let all := Path.pieces '.' host
  if all.getLast? == some [] && 1 < all.length then all.dropLast else all

/-- A host whose last label is a number must be an IPv4 address. -/
def endsInNumber (host : List Char) : Bool :=
  match (labels host).getLast? with
  | none => false
  | some last =>
    (!last.isEmpty && last.all Char.isDigit) ||
      match last with
      | '0' :: x :: ds => (x == 'x' || x == 'X') && (digitsIn? 16 ds).isSome
      | _ => false

/-- An IPv4 address: up to four numbers, of which the last fills the bytes that are left. -/
def ipv4? (host : List Char) : Option Nat := do
  let numbers ← (labels host).mapM ipv4Number?
  let last ← numbers.getLast?
  let first := numbers.dropLast
  if 3 < first.length ∨ first.any (255 < ·) ∨ Nat.pow 256 (4 - first.length) ≤ last then none
  else
    let high := first.zipIdx.map fun (n, i) ↦ n * Nat.pow 256 (3 - i)
    some (high.foldr (· + ·) last)

/-- An IPv4 address as four numbers. -/
def ipv4Text (address : Nat) : List Char :=
  ['.'].intercalate ([3, 2, 1, 0].map fun i ↦ (toString (address / Nat.pow 256 i % 256)).toList)

/-! ### IPv6 -/

/-- A group of an IPv6 address: one to four hexadecimal digits. -/
def group? (cs : List Char) : Option Nat :=
  if cs.isEmpty ∨ 4 < cs.length then none else digitsIn? 16 cs

/-- The four numbers at the end of an IPv6 address that is given partly as an IPv4 address. -/
def embeddedGroups? (cs : List Char) : Option (List Nat) := do
  let numbers ← (Path.pieces '.' cs).mapM fun ds ↦
    if ds.isEmpty ∨ 3 < ds.length ∨ (1 < ds.length ∧ ds.head? = some '0') then none
    else (digitsIn? 10 ds).filter (· < 256)
  match numbers with
  | [a, b, c, d] => some [a * 256 + b, c * 256 + d]
  | _ => none

/-- The groups of a part of an IPv6 address without a gap. An IPv4 address may come last. -/
def groups? (allowEmbedded : Bool) (cs : List Char) : Option (List Nat) := do
  if cs.isEmpty then some []
  else
    let parts := Path.pieces ':' cs
    let last := (parts.getLast?).getD []
    if allowEmbedded ∧ last.contains '.' then
      return (← parts.dropLast.mapM group?) ++ (← embeddedGroups? last)
    else parts.mapM group?

/-- The eight groups of an IPv6 address, in which two colons stand for a gap of zeros. -/
def ipv6? (cs : List Char) : Option (List Nat) := do
  match Text.cutAt? [':', ':'] cs with
  | none =>
    let groups ← groups? true cs
    if groups.length = 8 then some groups else none
  | some (before, after) =>
    let head ← groups? false before
    let tail ← groups? true after
    if head.length + tail.length < 8 then
      some (head ++ List.replicate (8 - head.length - tail.length) 0 ++ tail)
    else none

/-- How many zeros a list starts with. -/
def leadingZeros (groups : List Nat) : Nat :=
  (groups.takeWhile (· == 0)).length

/-- Where the first longest run of zeros starts, and how long it is. -/
def longestGap (groups : List Nat) : Nat × Nat :=
  (List.range groups.length).foldl (fun best i ↦
    let n := leadingZeros (groups.drop i)
    if best.2 < n then (i, n) else best) (0, 0)

/-- Groups with colons between them. -/
def groupsText (groups : List Nat) : List Char :=
  [':'].intercalate (groups.map fun g ↦ Nat.toDigits 16 g)

/-- An IPv6 address in brackets, with its first longest run of two zeros or more left out. -/
def ipv6Text (groups : List Nat) : List Char :=
  let (start, length) := longestGap groups
  let inner :=
    if length < 2 then groupsText groups
    else groupsText (groups.take start) ++ [':', ':'] ++ groupsText (groups.drop (start + length))
  '[' :: inner ++ [']']

/-! ### Names -/

/-- Characters that no host name may hold. -/
def forbiddenInHost (c : Char) : Bool :=
  c.toNat ≤ 0x20 || c.toNat == 0x7F ||
    ['#', '/', ':', '<', '>', '?', '@', '[', '\\', ']', '^', '|', '%'].contains c

/-- The written form of an IPv6 address whose opening bracket was read. -/
def readBracketed (inner : List Char) : Except UrlError (List Char) :=
  match if inner.getLast? = some ']' then ipv6? inner.dropLast else none with
  | some groups => .ok (ipv6Text groups)
  | none => .error .badIpv6

/-- The written form of a name in ASCII; a name that ends in a number is an IPv4 address. -/
def readName (name : List Char) : Except UrlError (List Char) :=
  if name.any forbiddenInHost then .error .badName
  else if name.isEmpty then .error .emptyHost
  else if endsInNumber name then
    match ipv4? name with
    | some address => .ok (ipv4Text address)
    | none => .error .badIpv4
  else .ok name

/-- The written form of a host. -/
def readHost (cs : List Char) : Except UrlError (List Char) :=
  match cs with
  | [] => .error .emptyHost
  | '[' :: inner => readBracketed inner
  | cs =>
    match String.fromUTF8? ⟨(percentDecode cs).toArray⟩ with
    | none => .error .badName
    | some name =>
      match asciiName? name.toList with
      | none => .error .badName
      | some name => readName name

/-- The host of an address that is not for the web is left as it stands. -/
def readOpaqueHost (cs : List Char) : Except UrlError (List Char) :=
  match cs with
  | '[' :: inner => readBracketed inner
  | cs =>
    let isAllowed (c : Char) := c == '%' || !forbiddenInHost c ||
      (c.toNat < 0x20 && c.toNat != 0) || c.toNat == 0x7F
    if cs.all isAllowed then .ok cs else .error .badCharacter

end Url

end PitchDesk

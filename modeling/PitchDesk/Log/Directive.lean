import PitchDesk.File.Path
import PitchDesk.Log.Rule
import PitchDesk.Pattern.Check

/-!
# Log directives

The written form of a log rule. A directive is a level, or names a target, a span in brackets, or
both, with or without a level after an equals sign. A span may list fields in braces, and a field
may have a value: a truth value, a number or a pattern.
-/

namespace PitchDesk.Log

/-- Why a directive is not accepted. -/
inductive DirectiveError where
  | malformed
  | level
  | field (cause : Pattern.Defect)
  deriving DecidableEq, Repr

/-- The wording of each cause. What the directive says is told once more by its part. -/
def DirectiveError.message : DirectiveError → String
  | .malformed => "invalid filter directive"
  | .level =>
    let text := "error parsing level filter: expected one of \"off\", \"error\", \"warn\", " ++
      "\"info\", \"debug\", \"trace\", or a number 0-5"
    text ++ ": " ++ text
  | .field cause =>
    let messages := cause.messages
    "invalid field filter: " ++ ": ".intercalate (messages.take 1 ++ messages)

/-! ### Fields -/

/-- What follows a sign, if there is one. -/
def withoutSign : List Char → List Char
  | '+' :: cs | '-' :: cs => cs
  | cs => cs

/-- Whether a text is an exponent or nothing. -/
def isExponent : List Char → Bool
  | [] => true
  | e :: cs =>
    let digits := withoutSign cs
    (e == 'e' || e == 'E') && !digits.isEmpty && digits.all Char.isDigit

/-- Whether a text is a number: digits, with a point anywhere and an exponent at the end, or the
name of what is not finite. -/
def isNumber (cs : List Char) : Bool :=
  let cs := withoutSign cs
  let (whole, rest) := cs.span Char.isDigit
  let (fraction, rest) :=
    if rest.head? = some '.' then (rest.drop 1).span Char.isDigit else ([], rest)
  ["inf", "infinity", "nan"].contains (Text.lowerAscii (String.ofList cs)) ||
    (!(whole.isEmpty && fraction.isEmpty) && isExponent rest)

/-- A field, and whether it has a value. -/
structure Field where
  name : String
  isValued : Bool
  deriving DecidableEq, Repr

/-- Reads a field, whose value ends at another equals sign. -/
def readField (cs : List Char) : Except DirectiveError Field := do
  let pieces := Path.pieces '=' cs
  let name := String.ofList (pieces.head?.getD [])
  match pieces[1]? with
  | none => return ⟨name, false⟩
  | some value =>
    if !isNumber value then (Pattern.check value).mapError .field
    return ⟨name, true⟩

/-! ### Directives -/

/-- Characters that a target may begin with. -/
def startsTarget (c : Char) : Bool :=
  Text.isAlphabetic c || Text.isNumeric c || ['_', ':', '-'].contains c

/-- A directive, as it stands between commas. -/
structure Directive where
  text : List Char
  /-- The text without the blanks around it. -/
  bare : List Char

namespace Directive

/-- Takes a directive. -/
def ofList (text : List Char) : Directive := ⟨text, Text.stripWhile Text.isBlank text⟩

/-- Whether there are no blanks around a directive. -/
def isTight (d : Directive) : Bool := d.bare.length == d.text.length

/-- The bytes of some characters. -/
def size (cs : List Char) : Nat := (String.ofList cs).utf8ByteSize

/-- The characters of a text from one byte to another. -/
def between (start stop : Nat) : List Char → List Char
  | [] => []
  | c :: cs =>
    if stop = 0 then []
    else if start = 0 then c :: between 0 (stop - c.utf8Size) cs
    else between (start - c.utf8Size) (stop - c.utf8Size) cs

/-- The part of a directive that begins where `rest` is left of the bare text, and ends where
`after` is left. It is counted off from the beginning of the text, with the blanks there. -/
def part (d : Directive) (rest after : List Char) : List Char :=
  between (size d.bare - size rest) (size d.bare - size after) d.text

/-- The level after a target or a span. Without one all messages are kept. There must be no blanks
around a directive with an equals sign. -/
def readLevel (d : Directive) : List Char → Except DirectiveError Level
  | [] => .ok .trace
  | '=' :: level =>
    if !d.isTight then .error .level
    else if level.isEmpty then .ok .trace
    else (Level.ofText? level).elim (.error .level) .ok
  | _ => .error .malformed

/-- The field in the braces of a span, with what follows the span. -/
def readFields (d : Directive) (cs : List Char) : Except DirectiveError (Field × List Char) := do
  let after := cs.dropWhile (· != '\x7d')
  if after.isEmpty || after.length == cs.length then throw .malformed
  let field ← readField (d.part cs after)
  match after with
  | _ :: ']' :: rest => return (field, rest)
  | _ => throw .malformed

/-- Reads a span and what follows it. -/
def readSpan (d : Directive) (target : Option String) (cs : List Char) :
    Except DirectiveError Rule := do
  let after := cs.dropWhile fun c ↦ c != ']' && c != '\x7b'
  match after with
  | ']' :: rest => return ⟨target, [], true, ← d.readLevel rest⟩
  | _ :: inner =>
    let (field, rest) ← d.readFields inner
    let isNamed := after.length < cs.length
    return ⟨target, [field.name], isNamed || field.isValued, ← d.readLevel rest⟩
  | [] => throw .malformed

/-- Reads a directive. A target without a level may be any text that is no level. -/
def read (d : Directive) : Except DirectiveError Rule := do
  match d.bare with
  | '[' :: rest => d.readSpan none rest
  | c :: rest =>
    if !startsTarget c then throw .malformed
    let after := rest.dropWhile fun c ↦ c != '=' && c != '['
    let target := some (String.ofList (d.part d.bare after))
    match after with
    | '[' :: rest => d.readSpan target rest
    | [] =>
      match Level.ofText? d.text with
      | some level => return ⟨none, [], false, level⟩
      | none => return ⟨some (String.ofList d.text), [], false, .trace⟩
    | rest => return ⟨target, [], false, ← d.readLevel rest⟩
  | [] => throw .malformed

end Directive

end PitchDesk.Log

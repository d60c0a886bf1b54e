import PitchDesk.Pattern.Reader

/-!
# Patterns that can be used

A pattern is of use if its parts are not nested too deeply, and if it needs no knowledge of Unicode:
neither kinds and properties of characters, nor upper and lower case. Where characters are bytes a
pattern must still not lead into the middle of a character.
-/

namespace PitchDesk.Pattern

/-! ### Depth -/

mutual

/-- The first part of a set that lies too deep, where the set lies at some depth. -/
def CharSet.tooDeep? (depth : Nat) : CharSet → Option Span
  | .empty _ | .atom _ | .range _ _ | .named _ _ => none
  | .bracketed span _ inner =>
    if depthLimit ≤ depth then some span else inner.tooDeep? (depth + 1)
  | .union span parts =>
    if depthLimit ≤ depth then some span else CharSet.anyTooDeep? (depth + 1) parts
  | .combined left right =>
    if depthLimit ≤ depth then some (left.span.through right.span)
    else (left.tooDeep? (depth + 1)).or (right.tooDeep? (depth + 1))

/-- The first part of some sets that lies too deep. -/
def CharSet.anyTooDeep? (depth : Nat) : List CharSet → Option Span
  | [] => none
  | s :: ss => (s.tooDeep? depth).or (CharSet.anyTooDeep? depth ss)

end

mutual

/-- The first part of a pattern that lies too deep, where the pattern lies at some depth. -/
def tooDeep? (depth : Nat) : Pattern → Option Span
  | .empty _ | .atom _ | .flags _ _ => none
  | .set s => s.tooDeep? depth
  | .repeated span p | .group span _ p =>
    if depthLimit ≤ depth then some span else p.tooDeep? (depth + 1)
  | .sequence span ps | .choice span ps =>
    if depthLimit ≤ depth then some span else anyTooDeep? (depth + 1) ps

/-- The first part of some patterns that lies too deep. -/
def anyTooDeep? (depth : Nat) : List Pattern → Option Span
  | [] => none
  | p :: ps => (p.tooDeep? depth).or (anyTooDeep? depth ps)

end

/-! ### Use -/

/-- What holds for a part of a pattern. -/
structure Scope where
  caseless : Bool
  /-- Whether characters are those of Unicode, and not bytes. -/
  unicode : Bool
  /-- Whether the pattern has needed to tell which characters of Unicode make words. -/
  words : Bool

namespace Scope

/-- What holds at the beginning of a pattern. -/
def start : Scope := ⟨false, true, false⟩

/-- What holds after changes of flags. -/
def change (s : Scope) (changes : List Change) : Scope :=
  { s with
    caseless := (switched? 'i' changes).getD s.caseless
    unicode := (switched? 'u' changes).getD s.unicode }

/-- Checks a kind of characters. The opposite of a kind holds parts of characters. -/
def checkKind (s : Scope) (span : Span) (negated : Bool) : Except Fault Unit :=
  if s.unicode then .error (.of span .unknownKind)
  else if negated then .error (.of span .notText)
  else .ok ()

/-- Checks a property of characters, all of which are unknown. -/
def checkProperty (s : Scope) (span : Span) : Except Fault Unit :=
  .error (.of span (if s.unicode then .unknownProperty else .notInBytes))

/-- Checks the number of a byte, which must be a character. -/
def checkByte (s : Scope) (l : Literal) : Except Fault Unit :=
  if !s.unicode && l.isByte && 0x7F < l.char.toNat then .error (.of l.span .notText) else .ok ()

/-- Checks an element of a set. -/
def checkElement (s : Scope) (l : Literal) : Except Fault Unit := do
  s.checkByte l
  if !s.unicode && 0x7F < l.char.toNat then throw (.of l.span .notInBytes)

/-- Checks that a set does not have to be extended by the other case of its characters, if it has
any. -/
def checkCase (s : Scope) (span : Span) (filled : Bool) : Except Fault Unit :=
  if s.unicode && s.caseless && filled then .error (.of span .unknownCase) else .ok ()

/-- Checks that a set is not one of bytes and the opposite of another. -/
def checkOpposite (s : Scope) (span : Span) (negated : Bool) : Except Fault Unit :=
  if !s.unicode && negated then .error (.of span .notText) else .ok ()

/-- Checks an element. -/
def checkAtom (s : Scope) (a : Atom) : Except Fault Scope := do
  match a with
  | .literal l =>
    s.checkCase l.span true
    s.checkByte l
  | .dot span => if !s.unicode then throw (.of span .notText)
  | .anchor _ => return s
  | .boundary _ => return { s with words := s.words || s.unicode }
  | .kind span negated => s.checkKind span negated
  | .property span => s.checkProperty span
  return s

mutual

/-- Checks a set, and tells whether it has any characters. -/
def checkSet (s : Scope) : CharSet → Except Fault Bool
  | .empty _ => .ok false
  | .atom a => do
    match a with
    | .literal l => s.checkElement l
    | _ => let _ ← s.checkAtom a
    return true
  | .range first last => do
    s.checkElement first
    s.checkElement last
    return true
  | .named span negated => do
    s.checkCase span true
    s.checkOpposite span negated
    return true
  | .bracketed span negated inner => do
    let filled ← s.checkSet inner
    s.checkCase span filled
    s.checkOpposite span negated
    return filled || negated
  | .union _ parts => s.checkSets parts
  | .combined left right => do
    let leftFilled ← s.checkSet left
    let rightFilled ← s.checkSet right
    s.checkCase right.span rightFilled
    s.checkCase left.span leftFilled
    return leftFilled || rightFilled

/-- Checks some sets, and tells whether any of them has characters. -/
def checkSets (s : Scope) : List CharSet → Except Fault Bool
  | [] => .ok false
  | part :: parts => do
    let filled ← s.checkSet part
    return (← s.checkSets parts) || filled

end

mutual

/-- Checks a part of a pattern, and gives what holds after it. -/
def checkPart (s : Scope) : Pattern → Except Fault Scope
  | .empty _ => .ok s
  | .atom a => s.checkAtom a
  | .flags _ changes => .ok (s.change changes)
  | .set part => do
    let _ ← s.checkSet part
    return s
  | .repeated _ p => s.checkPart p
  | .group _ changes p => do
    let inner ← (s.change changes).checkPart p
    return { s with words := inner.words }
  | .sequence _ ps | .choice _ ps => s.checkParts ps

/-- Checks parts of a pattern that follow each other. -/
def checkParts (s : Scope) : List Pattern → Except Fault Scope
  | [] => .ok s
  | p :: ps => do (← s.checkPart p).checkParts ps

end

end Scope

/-- Why a text is of no use as a pattern. -/
inductive Defect where
  | fault (pattern : String) (f : Fault)
  | words
  deriving DecidableEq, Repr

/-- The wording of each cause, from the outside to the inside. -/
def Defect.messages : Defect → List String
  | .fault pattern f => ["error building NFA", "error parsing regex", f.shown pattern]
  | .words =>
    ["unsupported regex feature for DFAs: cannot build DFAs for regexes with Unicode word " ++
      "boundaries; switch to ASCII word boundaries, or heuristically enable Unicode word " ++
      "boundaries or use a different regex engine"]

/-- Checks that a text is a pattern that can be used. -/
def check (text : List Char) : Except Defect Unit := do
  let judged : Except Fault Scope := do
    let p ← read text
    if let some span := p.tooDeep? 0 then throw (.of span .tooDeep)
    Scope.start.checkPart p
  match judged with
  | .error f => throw (.fault (String.ofList text) f)
  | .ok s => if s.words then throw .words

end PitchDesk.Pattern

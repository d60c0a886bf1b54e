import PitchDesk.Pattern.SetReader
import PitchDesk.Text.Alphabetic
import PitchDesk.Text.Decimal
import PitchDesk.Text.Numeric

/-!
# Reading patterns

The reader goes through a pattern once. It keeps what it has read of the group that it is in, and of
each group around that one. Every step passes a character, so as many steps as there are characters
are enough.
-/

namespace PitchDesk.Pattern

/-- What was read of a group, or of the whole pattern. -/
structure Level where
  /-- The column at which the first branch begins. -/
  first : Nat
  /-- The column at which the present branch begins. -/
  origin : Nat
  /-- The parts of the present branch, the last one first. -/
  parts : List Pattern
  /-- The branches before, the last one first. -/
  branches : List Pattern

namespace Level

/-- A group that begins at a column. -/
def start (column : Nat) : Level := ⟨column, column, [], []⟩

/-- Adds a part. -/
def add (l : Level) (part : Pattern) : Level :=
  { l with parts := part :: l.parts }

/-- The present branch, which ends at a column. -/
def branch (l : Level) (column : Nat) : Pattern :=
  match l.parts.reverse with
  | [] => .empty ⟨l.origin, column⟩
  | [part] => part
  | parts => .sequence ⟨l.origin, column⟩ parts

/-- Begins another branch after the bar at a column. -/
def divide (l : Level) (column : Nat) : Level :=
  ⟨l.first, column + 1, [], l.branch column :: l.branches⟩

/-- All branches, the last of which ends at a column. -/
def whole (l : Level) (column : Nat) : Pattern :=
  if l.branches.isEmpty then l.branch column
  else .choice ⟨l.first, column⟩ (l.branches.reverse ++ [l.branch column])

/-- Takes off the last part, if it can be repeated. -/
def takeLast? (l : Level) : Option (Pattern × Level) :=
  match l.parts with
  | [] | .flags _ _ :: _ => none
  | part :: parts => some (part, { l with parts := parts })

end Level

/-- A group that is being read. -/
structure OpenGroup where
  paren : Span
  changes : List Change
  /-- Whether the verbose form is read around it. -/
  verbose : Bool
  /-- What was read around it. -/
  outside : Level

/-! ### Openings of groups -/

/-- The flags that can be switched. -/
def flagLetters : List Char := ['i', 'm', 's', 'U', 'u', 'R', 'x']

/-- Reads changes of flags after some others, the last of which comes first, up to a colon or a
closing parenthesis. -/
def readChanges (changes : List Change) (column : Nat) : List Char → Except Fault (List Change)
  | [] => .error (.of ⟨column, column⟩ .endInFlags)
  | x :: xs =>
    let span : Span := ⟨column, column + 1⟩
    if x = ':' ∨ x = ')' then
      match changes with
      | ⟨'-', minus⟩ :: _ => .error (.of minus .lastMinus)
      | _ => .ok changes.reverse
    else if x != '-' && !flagLetters.contains x then .error (.of span .unknownFlag)
    else
      match changes.find? (·.flag == x) with
      | some before =>
        .error ⟨span, some before.span, if x = '-' then .repeatedMinus else .repeatedFlag⟩
      | none => readChanges (⟨x, span⟩ :: changes) (column + 1) xs

/-- Whether a character may stand in the name of a group. -/
def isNameCharacter (atStart : Bool) (x : Char) : Bool :=
  x == '_' || Text.isAlphabetic x ||
    (!atStart && (Text.isNumeric x || ['.', '[', ']'].contains x))

/-- Reads the name of a group up to its closing bracket. -/
def readName (c : Cursor) : Except Fault Cursor := do
  if c.rest.isEmpty then throw (.of c.here .openName)
  let name := c.rest.takeWhile (· != '>')
  let unfit := name.zipIdx.find? fun (x, i) ↦ !isNameCharacter (i == 0) x
  if let some (_, i) := unfit then throw (.of (c.drop i).next .nameCharacter)
  let d := c.drop name.length
  if d.rest.isEmpty then throw (.of d.here .openName)
  if name.isEmpty then throw (.of c.here .emptyName)
  let span := d.since c.column
  if let some before := c.names.lookup name then throw ⟨span, some before, .repeatedName⟩
  return { d.drop 1 with names := (name, span) :: c.names }

/-- What an opening parenthesis begins: a group, or changes of flags for what follows. -/
inductive Opening where
  | group (changes : List Change)
  | flags (span : Span) (changes : List Change)

/-- The changes of flags of an opening. -/
def Opening.changes : Opening → List Change
  | .group changes | .flags _ changes => changes

/-- The beginnings of groups that look around. -/
def lookArounds : List (List Char) :=
  [['?', '='], ['?', '!'], ['?', '<', '='], ['?', '<', '!']]

/-- Reads what follows an opening parenthesis. -/
def readOpening (c : Cursor) : Except Fault (Opening × Cursor) := do
  let paren := c.next
  let c := c.step
  if let some start := lookArounds.find? (·.isPrefixOf c.rest) then
    throw (.of ((c.drop start.length).since paren.start) .lookAround)
  if ['?', 'P', '<'].isPrefixOf c.rest then return (.group [], ← readName (c.drop 3))
  if ['?', '<'].isPrefixOf c.rest then return (.group [], ← readName (c.drop 2))
  if c.rest.head? != some '?' then return (.group [], c)
  let flags := c.drop 1
  if flags.rest.isEmpty then throw (.of paren .openGroup)
  let changes ← readChanges [] flags.column flags.rest
  let stop := flags.drop changes.length
  let d := stop.drop 1
  if stop.rest.head? = some ':' then return (.group changes, d)
  if changes.isEmpty then throw (.of c.here .nothingRepeated)
  return (.flags (d.since paren.start) changes, d)

/-! ### Repetitions -/

/-- What a number of repetitions must be below. -/
def countLimit : Nat := 0x100000000

/-- What is wrong with a number of repetitions, whose brace never closes. -/
def countFault (c : Cursor) : Fault :=
  let d := c.step
  if d.rest.isEmpty then .of (d.since c.column) .openCount
  else
    let d := d.drop (d.rest.takeWhile Text.isBlank).length
    let (digits, e) := d.stepAll Char.isDigit
    let (_, f) := e.stepAll Text.isBlank
    if f.rest.isEmpty then .of (f.since c.column) .openCount
    else if digits.isEmpty then .of (e.since d.column) .noNumber
    else if (Text.readNumber countLimit digits).isOk then .of (f.since c.column) .openCount
    else .of (e.since d.column) .largeNumber

/-- Reads the sign of a repetition, which a question mark may follow. -/
def readSign (c : Cursor) : Cursor :=
  let d := c.drop 1
  if d.rest.head? = some '?' then d.drop 1 else d

/-! ### The reader -/

/-- Reads an element that is no set. -/
def readAtom (c : Cursor) : Except Fault (Atom × Cursor) :=
  match c.rest with
  | '\\' :: _ => readEscape c
  | '.' :: _ => .ok (.dot c.next, c.drop 1)
  | '^' :: _ | '$' :: _ => .ok (.anchor c.next, c.drop 1)
  | x :: _ => .ok (.literal ⟨c.next, x, false⟩, c.drop 1)
  | [] => .error (.of c.here .endInEscape)

/-- Reads the rest of a pattern in at most some steps, where `groups` are open, the innermost
first. -/
def readRest (level : Level) (groups : List OpenGroup) (c : Cursor) : Nat → Except Fault Pattern
  | 0 => .ok (level.whole c.column)
  | n + 1 => do
    let c := c.settle
    match c.rest with
    | [] =>
      match groups with
      | [] => return level.whole c.column
      | inner :: _ => throw (.of inner.paren .openGroup)
    | '(' :: _ =>
      let (opening, d) ← readOpening c
      let d := { d with verbose := (switched? 'x' opening.changes).getD d.verbose }
      match opening with
      | .flags span changes => readRest (level.add (.flags span changes)) groups d n
      | .group changes =>
        readRest (.start d.column) (⟨c.next, changes, c.verbose, level⟩ :: groups) d n
    | ')' :: _ =>
      match groups with
      | [] => throw (.of c.next .unopenedGroup)
      | inner :: groups =>
        let d := { c.drop 1 with verbose := inner.verbose }
        let part := .group (d.since inner.paren.start) inner.changes (level.whole c.column)
        readRest (inner.outside.add part) groups d n
    | '|' :: _ => readRest (level.divide c.column) groups (c.drop 1) n
    | '[' :: _ =>
      let (draft, d) ← readSetOpening c
      let (s, d) ← readSet draft d (d.rest.length + 1)
      readRest (level.add (.set s)) groups d n
    | '?' :: _ | '*' :: _ | '+' :: _ =>
      match level.takeLast? with
      | none => throw (.of c.here .nothingRepeated)
      | some (part, level) =>
        let d := readSign c
        readRest (level.add (.repeated (d.since part.span.start) part)) groups d n
    | '\x7b' :: _ =>
      if level.takeLast?.isNone then throw (.of c.here .nothingRepeated)
      throw (countFault c)
    | _ =>
      let (a, d) ← readAtom c
      readRest (level.add (.atom a)) groups d n

/-- Reads a pattern. -/
def read (text : List Char) : Except Fault Pattern :=
  readRest (.start 0) [] (.start text) (text.length + 1)

end PitchDesk.Pattern

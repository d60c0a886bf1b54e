import PitchDesk.Text.Blank
import PitchDesk.Text.Decimal

/-!
# Log rules

Which messages go to the log. A message has a target, a level and fields. A rule is for the messages
of a target, and of all targets that begin like it; of the rules for a message the most particular
one decides up to which level it is kept.
-/

namespace PitchDesk.Log

/-- The levels of messages, each of which is less urgent than the one before. -/
inductive Level where
  | off
  | error
  | warn
  | info
  | debug
  | trace
  deriving DecidableEq, Repr

namespace Level

/-- All levels, in their order. -/
def all : List Level := [.off, .error, .warn, .info, .debug, .trace]

/-- The name of a level. -/
def name : Level → String
  | .off => "off"
  | .error => "error"
  | .warn => "warn"
  | .info => "info"
  | .debug => "debug"
  | .trace => "trace"

/-- The level of a name in upper or lower case, or of a place in the order. -/
def ofText? (cs : List Char) : Option Level :=
  match all.find? (·.name == Text.lowerAscii (String.ofList cs)) with
  | some level => some level
  | none => (Text.readNumber all.length cs).toOption.bind (all[·]?)

/-- Whether messages of a level are kept up to a level. -/
def keeps (limit level : Level) : Bool :=
  all.idxOf level ≤ all.idxOf limit

end Level

/-- What is known of a message before it is written. -/
structure Message where
  target : String
  fields : List String
  level : Level
  deriving DecidableEq, Repr

/-- Up to which level messages are kept. -/
structure Rule where
  /-- What the target begins with. -/
  target : Option String
  /-- The fields that the message must have. -/
  fields : List String
  /-- Whether the rule is for messages within a span only. -/
  inSpan : Bool
  limit : Level
  deriving DecidableEq, Repr

namespace Rule

/-- The rule if there are no others. -/
def fallback : Rule := ⟨none, [], false, .error⟩

/-- Whether a rule is for a message that is within no span. -/
def isFor (r : Rule) (m : Message) : Bool :=
  !r.inSpan && (r.target.elim true fun t ↦ t.toList.isPrefixOf m.target.toList) &&
    r.fields.all m.fields.contains

/-- Whether a rule is at least as particular as another: its target is longer, or as long with as
many fields. -/
def isFiner (r s : Rule) : Bool :=
  let size := fun (x : Rule) ↦ x.target.elim 0 (·.utf8ByteSize + 1)
  size s < size r || (size s == size r && s.fields.length ≤ r.fields.length)

/-- The rule that decides on a message. Of two that are as particular it is the later one. -/
def decisive? (rules : List Rule) (m : Message) : Option Rule :=
  (rules.filter (·.isFor m)).foldl
    (fun best r ↦ if best.elim true (r.isFiner ·) then some r else best) none

/-- Whether a message that is within no span is kept. -/
def keep (rules : List Rule) (m : Message) : Bool :=
  let rules := if rules.isEmpty then [fallback] else rules
  (decisive? rules m).elim false (·.limit.keeps m.level)

end Rule

end PitchDesk.Log

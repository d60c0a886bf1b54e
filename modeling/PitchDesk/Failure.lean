/-!
# Failures

What went wrong, told from the outside in: a message, and the messages of what caused it.

The causes are kept one by one, so that a message can be shown alone or with all of them.
-/

namespace PitchDesk

/-- A message with the messages of its causes, the nearest cause first. -/
structure Failure where
  message : String
  causes : List String := []
  deriving DecidableEq, Repr

namespace Failure

/-- The message and all its causes in one line. -/
def full (f : Failure) : String :=
  String.intercalate ": " (f.message :: f.causes)

/-- Puts a message around a failure. -/
def within (f : Failure) (context : String) : Failure :=
  ⟨context, f.message :: f.causes⟩

end Failure

end PitchDesk

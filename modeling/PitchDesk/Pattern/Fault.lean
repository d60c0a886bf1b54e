import PitchDesk.Pattern.Basic

/-!
# Faults of patterns

Why a text is not a pattern, or one that cannot be used. A fault is shown with the pattern, and with
marks below the columns that it is about.
-/

namespace PitchDesk.Pattern

/-- The most parts that a pattern may have inside each other. -/
def depthLimit : Nat := 250

/-- What is wrong with a part of a pattern. -/
inductive Cause where
  | escapeInSet
  | rangeOrder
  | rangeEnd
  | openSet
  | noNumber
  | largeNumber
  | openCount
  | hexDigit
  | noCharacter
  | endInEscape
  | unknownEscape
  | backreference
  | lookAround
  | lastMinus
  | repeatedMinus
  | repeatedFlag
  | unknownFlag
  | endInFlags
  | repeatedName
  | emptyName
  | nameCharacter
  | openName
  | openGroup
  | unopenedGroup
  | nothingRepeated
  | openBoundary
  | endInBoundary
  | propertyName
  | tooDeep
  | unknownProperty
  | unknownKind
  | unknownCase
  | notInBytes
  | notText
  deriving DecidableEq, Repr

/-- The wording of each cause. -/
def Cause.message : Cause → String
  | .escapeInSet => "invalid escape sequence found in character class"
  | .rangeOrder => "invalid character class range, the start must be <= the end"
  | .rangeEnd => "invalid range boundary, must be a literal"
  | .openSet => "unclosed character class"
  | .noNumber => "repetition quantifier expects a valid decimal"
  | .largeNumber => "decimal literal invalid"
  | .openCount => "unclosed counted repetition"
  | .hexDigit => "invalid hexadecimal digit"
  | .noCharacter => "hexadecimal literal is not a Unicode scalar value"
  | .endInEscape => "incomplete escape sequence, reached end of pattern prematurely"
  | .unknownEscape => "unrecognized escape sequence"
  | .backreference => "backreferences are not supported"
  | .lookAround => "look-around, including look-ahead and look-behind, is not supported"
  | .lastMinus => "dangling flag negation operator"
  | .repeatedMinus => "flag negation operator repeated"
  | .repeatedFlag => "duplicate flag"
  | .unknownFlag => "unrecognized flag"
  | .endInFlags => "expected flag but got end of regex"
  | .repeatedName => "duplicate capture group name"
  | .emptyName => "empty capture group name"
  | .nameCharacter => "invalid capture group character"
  | .openName => "unclosed capture group name"
  | .openGroup => "unclosed group"
  | .unopenedGroup => "unopened group"
  | .nothingRepeated => "repetition operator missing expression"
  | .openBoundary =>
    "special word boundary assertion is either unclosed or contains an invalid character"
  | .endInBoundary =>
    "found either the beginning of a special word boundary or a bounded repetition on a \\b " ++
      "with an opening brace, but no closing brace"
  | .propertyName => "invalid Unicode character class"
  | .tooDeep =>
    "exceed the maximum number of nested parentheses/brackets (" ++ toString depthLimit ++ ")"
  | .unknownProperty => "Unicode property not found"
  | .unknownKind =>
    "Unicode-aware Perl class not found (make sure the unicode-perl feature is enabled)"
  | .unknownCase =>
    "Unicode-aware case insensitivity matching is not available " ++
      "(make sure the unicode-case feature is enabled)"
  | .notInBytes => "Unicode not allowed here"
  | .notText => "pattern can match invalid UTF-8"

/-- What is wrong with a part, which may repeat another. -/
structure Fault where
  span : Span
  other : Option Span
  cause : Cause
  deriving DecidableEq, Repr

namespace Fault

/-- A fault of a single part. -/
def of (span : Span) (cause : Cause) : Fault := ⟨span, none, cause⟩

/-- Marks below parts that follow each other, from a column on. An empty part gets one mark. -/
def marks (column : Nat) : List Span → List Char
  | [] => []
  | part :: parts =>
    let blanks := part.start - column
    let width := max 1 (part.stop - part.start)
    List.replicate blanks ' ' ++ List.replicate width '^' ++ marks (column + blanks + width) parts

/-- A fault of a pattern, with the pattern and the marks. -/
def shown (f : Fault) (pattern : String) : String :=
  let parts := f.other.toList ++ [f.span]
  "regex parse error:\n    " ++ pattern ++ "\n    " ++ String.ofList (marks 0 parts) ++
    "\nerror: " ++ f.cause.message

end Fault

end PitchDesk.Pattern

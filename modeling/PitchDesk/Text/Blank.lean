/-!
# Blank characters

The characters with the Unicode property `White_Space`, and trimming by them. A text is trimmed by
dropping blank characters from both of its ends, so `trim` never changes what stands between the
first and the last character that is not blank.

What is dropped is a parameter of the functions on lists, so that trimming by blanks and dropping
the slashes at the ends of a route are one definition.
-/

namespace PitchDesk.Text

/-- The characters with the Unicode property `White_Space`. -/
def isBlank (c : Char) : Bool :=
  let n := c.toNat
  (9 ≤ n && n ≤ 13) || n == 0x20 || n == 0x85 || n == 0xA0 || n == 0x1680 ||
    (0x2000 ≤ n && n ≤ 0x200A) || n == 0x2028 || n == 0x2029 || n == 0x202F || n == 0x205F ||
    n == 0x3000

/-- Drops from the end of a list the longest run of elements with a property. -/
def dropEndWhile {α : Type} (p : α → Bool) (cs : List α) : List α :=
  (cs.reverse.dropWhile p).reverse

/-- Drops from both ends of a list the longest runs of elements with a property. -/
def stripWhile {α : Type} (p : α → Bool) (cs : List α) : List α :=
  dropEndWhile p (cs.dropWhile p)

/-- A text without the blank characters at its ends. -/
def trim (s : String) : String :=
  String.ofList (stripWhile isBlank s.toList)

/-- A text is blank if it holds blank characters only. -/
def isBlankText (s : String) : Bool :=
  s.toList.all isBlank

/-- Lower case for the letters `A` to `Z`; every other character stays. -/
def lowerAscii (s : String) : String :=
  String.ofList (s.toList.map Char.toLower)

/-- The rest of a list after a given beginning, if it begins so. -/
def dropPrefix? {α : Type} [BEq α] : List α → List α → Option (List α)
  | [], cs => some cs
  | _ :: _, [] => none
  | p :: ps, c :: cs => if p == c then dropPrefix? ps cs else none

/-- The rest of a list before a given end, if it ends so. -/
def dropSuffix? {α : Type} [BEq α] (suffix cs : List α) : Option (List α) :=
  (dropPrefix? suffix.reverse cs.reverse).map List.reverse

/-- The part of a list before the first occurrence of a pattern, and the part after it. -/
def cutAt? {α : Type} [BEq α] (pattern : List α) : List α → Option (List α × List α)
  | [] => if pattern.isEmpty then some ([], []) else none
  | c :: cs =>
    match dropPrefix? pattern (c :: cs) with
    | some rest => some ([], rest)
    | none => (cutAt? pattern cs).map fun (before, after) ↦ (c :: before, after)

/-- What stands after the last occurrence of an element; the whole list if there is none. -/
def afterLast {α : Type} [BEq α] (x : α) (cs : List α) : List α :=
  (cs.reverse.takeWhile (· != x)).reverse

end PitchDesk.Text

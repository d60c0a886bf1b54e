import PitchDesk.Text.Direction
import PitchDesk.Text.Joining
import PitchDesk.Url.NameMapping
import PitchDesk.Url.Punycode

/-!
# Names of hosts

A host name consists of labels with dots between them. It is written in ASCII: each character is
replaced by what it stands for, the text is brought to its composed form, and labels with characters
beyond ASCII are encoded. Labels that are given in their encoded form must be encoded rightly.
-/

namespace PitchDesk.Url

/-- A label as it is read: an encoded one is decoded, and must not hold what is written
otherwise. -/
def readLabel? (label : List Char) : Option (List Char) :=
  if Punycode.mark.isPrefixOf label then
    (Punycode.decode? (label.drop Punycode.mark.length)).filter fun decoded ↦
      decoded.all (fun c ↦ mapped? c == some [c]) && Text.composedForm decoded == decoded
  else some label

/-- Whether a label holds nothing in a wrong place: it does not begin with a mark, and each joiner
has its place. -/
def isWellFormed (label : List Char) : Bool :=
  !label.head?.any Text.isMark && Text.joinersHavePlace [] label

/-- A label in ASCII. -/
def asciiLabel (label : List Char) : List Char :=
  if label.all (·.toNat < 0x80) then label else Punycode.encode label

/-- A host name in ASCII. If any label is written from the right, all labels must be readable in one
way only. -/
def asciiName? (name : List Char) : Option (List Char) := do
  let characters ← name.mapM mapped?
  let labels := Path.pieces '.' (Text.composedForm characters.flatten)
  let read ← labels.mapM readLabel?
  if read.all isWellFormed && (!read.any Text.hasRight || read.all Text.isReadable) then
    some (['.'].intercalate (labels.map asciiLabel))
  else none

end PitchDesk.Url

import PitchDesk.Text.CharWidth

/-!
# Widths of texts

How many cells of a terminal a text takes. This is not the sum of what its characters take by
themselves: pictures are joined, two flag letters make a flag, and in some scripts two letters are
written as one. A text is read from its end, and what was read last decides what the character
before it takes.
-/

namespace PitchDesk.Text

/-! ### What follows a character -/

/-- What stands after a character, as far as its width depends on it. -/
inductive Follower where
  /-- Nothing that matters. -/
  | nothing
  /-- A line feed. -/
  | lineFeed
  /-- A tone of skin. -/
  | skinTone
  /-- A flag letter. -/
  | flagLetter
  /-- Several flag letters. -/
  | flagLetters
  /-- A picture. -/
  | picture
  /-- A joiner and a picture. -/
  | joinedPicture
  /-- The frame of a key that is joined to a picture. -/
  | joinedKey
  /-- An odd or even number of flag letters that are joined to a picture, and whether they are the
  first. -/
  | joinedFlag (odd first : Bool)
  /-- The end of the tags that name a flag joined to a picture: how many letters and how many digits
  were read. -/
  | joinedTags (letters digits : Nat)
  /-- An Arabic alef. -/
  | alef
  /-- A Hebrew lamed; whether a joiner stands before it. -/
  | lamed (joined : Bool)
  /-- A Buginese ya; whether a joiner stands before it. -/
  | ya (joined : Bool)
  /-- A Buginese vowel sign I before a joiner and ya. -/
  | vowelYa
  /-- A Tifinagh consonant; whether a joiner stands before it. -/
  | tifinagh (joined : Bool)
  /-- A sign that joins a Tifinagh consonant. -/
  | tifinaghJoiner
  /-- The second part of a tone of Lisu. -/
  | lisuTone
  /-- An Old Turkic I; whether a joiner stands before it. -/
  | turkicI (joined : Bool)
  /-- A Khmer letter that can stand under another. -/
  | khmerLetter
  deriving DecidableEq, Repr

/-- What a selector asks for. -/
inductive Look where
  | picture
  | text
  deriving DecidableEq, Repr

/-- What stands after a character: a selector, if there is one, and what is behind it. -/
structure Ahead where
  follower : Follower := .nothing
  look? : Option Look := none
  deriving DecidableEq, Repr

namespace Follower

/-- Whether what follows is one part of a letter that is written together with another. -/
def isPart : Follower → Bool
  | .alef | .lamed _ | .ya _ | .vowelYa | .tifinagh _ | .tifinaghJoiner | .lisuTone | .turkicI _
  | .khmerLetter => true
  | _ => false

/-- What follows, with a joiner before it. -/
def joined : Follower → Follower
  | .lamed _ => .lamed true
  | .ya _ => .ya true
  | .tifinagh _ => .tifinagh true
  | .turkicI _ => .turkicI true
  | f => f

end Follower

/-- What follows once a selector is read before it. A letter stays what it is, and so does a picture
that is joined and is asked for. -/
def Ahead.selected (a : Ahead) (look : Look) : Ahead :=
  let kept := a.follower.isPart ||
    (look = .picture && (a.follower = .joinedPicture || a.follower = .joinedKey))
  ⟨if kept then a.follower else .nothing, some look⟩

/-- What follows, if the selector has nothing to select. -/
def Ahead.unselected (a : Ahead) : Ahead :=
  match a.look? with
  | some _ => ⟨if a.follower.isPart then a.follower else .nothing, none⟩
  | none => a

/-- Marks and joiners without a shape of their own, which do not keep two parts of a letter
apart. -/
def isTransparent (c : Char) : Bool :=
  inRanges c.toNat [(0x34F, 0x34F), (0x17B4, 0x17B5), (0x180B, 0x180D), (0x180F, 0x180F),
    (0x200D, 0x200D), (0xFE00, 0xFE0F), (0xE0100, 0xE01EF)]

/-- The Arabic letters of the form of lam. -/
def isLam (c : Char) : Bool :=
  inRanges c.toNat
    [(0x644, 0x644), (0x6B5, 0x6B8), (0x76A, 0x76A), (0x8A6, 0x8A6), (0x8C7, 0x8C7)]

/-- The Arabic letters of the form of alef. -/
def isAlef (c : Char) : Bool :=
  inRanges c.toNat
    [(0x622, 0x623), (0x625, 0x625), (0x627, 0x627), (0x671, 0x673), (0x675, 0x675),
     (0x773, 0x774), (0x870, 0x882)]

/-- The Khmer letters that can stand under another. -/
def isKhmerLetter (c : Char) : Bool :=
  inRanges c.toNat
    [(0x1780, 0x1782), (0x1784, 0x1787), (0x1789, 0x178C), (0x178E, 0x1793), (0x1795, 0x1798),
     (0x179B, 0x179D), (0x17A0, 0x17A0), (0x17A2, 0x17A2), (0x17A7, 0x17A7), (0x17AB, 0x17AC),
     (0x17AF, 0x17AF)]

/-- The Tifinagh consonants. -/
def isTifinagh (c : Char) : Bool :=
  inRanges c.toNat [(0x2D31, 0x2D65), (0x2D6F, 0x2D6F)]

/-- Tags that stand for letters. -/
def isTagLetter (c : Char) : Bool :=
  0xE0061 ≤ c.toNat && c.toNat ≤ 0xE007A

/-- Tags that stand for digits. -/
def isTagDigit (c : Char) : Bool :=
  0xE0030 ≤ c.toNat && c.toNat ≤ 0xE0039

/-! ### Reading from the end -/

/-- What a character is to the one before it. -/
def Follower.of (c : Char) : Follower :=
  match c.toNat with
  | 0x0A => .lineFeed
  | 0x5DC => .lamed false
  | 0x1A10 => .ya false
  | 0xA4FC | 0xA4FD => .lisuTone
  | 0x10C03 => .turkicI false
  | _ =>
    if isAlef c then .alef
    else if isKhmerLetter c then .khmerLetter
    else if isTifinagh c then .tifinagh false
    else if isFlagLetter c then .flagLetter
    else if isSkinTone c then .skinTone
    else if isEmoji c then .picture
    else .nothing

/-- What a character takes whose width what follows does not change, and what it is to the one
before it. -/
def alone (c : Char) : Int × Ahead :=
  (charWidth c,
    if c = emojiSelector then ⟨.nothing, some .picture⟩
    else if c = textSelector then ⟨.nothing, some .text⟩
    else ⟨.of c, none⟩)

/-- What the parts of one letter take, if a character and what follows it are such parts, and what
they are to the character before them. -/
def together? (f : Follower) (c : Char) : Option (Int × Follower) :=
  match f, c.toNat with
  | .lamed true, 0x5D0 => some (0, .nothing)
  | .khmerLetter, 0x17D2 => some (-1, .nothing)
  | .ya true, 0x1A17 => some (0, .vowelYa)
  | .vowelYa, 0x1A15 => some (0, .nothing)
  | .tifinagh _, 0x2D7F => some (1, .tifinaghJoiner)
  | .turkicI true, 0x10C32 => some (0, .nothing)
  | .alef, _ =>
    if isLam c then some (0, .nothing)
    else if isJoinedOver c then some (0, .alef)
    else none
  | .tifinagh true, _ => if isTifinagh c then some (0, .nothing) else none
  | .tifinaghJoiner, _ => if isTifinagh c then some (-1, .nothing) else none
  | .lisuTone, n => if 0xA4F8 ≤ n && n ≤ 0xA4FB then some (0, .nothing) else none
  | _, _ => none

/-- What a character takes that belongs to a picture, together with what follows, and what it is to
the character before it. -/
def pictured? (f : Follower) (c : Char) : Option (Int × Follower) :=
  match f with
  | .skinTone =>
    if showsSkin c then some (0, .picture)
    else if c = joiner then some (0, .joinedPicture) else none
  | .flagLetter => if isFlagLetter c then some (1, .flagLetters) else none
  | .flagLetters =>
    if isFlagLetter c then some (1, .flagLetters)
    else if c = joiner then some (0, .joinedPicture) else none
  | .picture => if c = joiner then some (0, .joinedPicture) else none
  | .joinedPicture =>
    if c = '\u20E3' then some (0, .joinedKey)
    else if isFlagLetter c then some (1, .joinedFlag true true)
    else if isSkinTone c then some (0, .skinTone)
    else if c.toNat = 0xE007F then some (0, .joinedTags 0 0)
    else if isEmoji c then some (0, .picture)
    else none
  | .joinedFlag odd first =>
    if isFlagLetter c then
      some (if odd then (-1, .joinedFlag false false) else (3, .joinedFlag true false))
    else if c = joiner && !first then some (0, .joinedPicture)
    else none
  | .joinedTags letters digits =>
    if isTagLetter c && digits = 0 && letters < 6 then some (0, .joinedTags (letters + 1) 0)
    else if isTagDigit c && digits < 3 && letters < 5 then
      some (0, .joinedTags letters (digits + 1))
    else if c.toNat = 0x1F3F4 && (digits = 3 || (digits = 0 && 3 ≤ letters)) then
      some (0, .picture)
    else none
  | _ => none

/-- What a character takes before what follows it, and what it is to the character before it. -/
def widthBefore (c : Char) (ahead : Ahead) : Int × Ahead :=
  if ahead.look? = some .picture && hasEmojiStyle c then
    (if ahead.follower = .joinedPicture || ahead.follower = .joinedKey then 0 else 2,
      ⟨.picture, none⟩)
  else if c.toNat ≤ 0xA0 then
    if c = '\r' && ahead = ⟨.lineFeed, none⟩ then (0, {}) else alone c
  else if ahead = {} then alone c
  else if c = emojiSelector then (0, ahead.selected .picture)
  else if c = textSelector then (0, ahead.selected .text)
  else if ahead.look? = some .text && hasTextStyle c then (1, {})
  else
    let f := ahead.unselected.follower
    if f.isPart && f != .alef && isTransparent c then
      (0, ⟨if c = joiner then f.joined else f, none⟩)
    else
      match (together? f c).or (pictured? f c) with
      | some (w, f) => (w, ⟨f, none⟩)
      | none => alone c

/-- How many cells a text takes. -/
def width (s : String) : Nat :=
  (s.toList.foldr (fun c (sum, ahead) ↦
    let (w, ahead) := widthBefore c ahead
    (sum + w, ahead)) ((0 : Int), {})).1.toNat

end PitchDesk.Text

import Mathlib.Data.List.Basic
import Mathlib.Data.List.TakeWhile
import PitchDesk.Json.Token
import PitchDesk.Json.Writer
import PitchDesk.Proofs.Text.Decimal

/-!
# Tokens of written strings and numbers

A string comes back as it was written, `all?_writeString`, but for the control characters that no
letter stands for: they are written as units, and stand for the same characters as before,
`charsOf?_map_reread`. An integer comes back as long as what follows cannot go on with it,
`all?_write`.

Tokens are read from the front of a text, and each statement is about a text that begins with a
written token and goes on with anything. So the tokens of a whole value are put together from those
of its parts, in `PitchDesk.Proofs.Json.Writer`. A number alone needs to know what follows it
(`EndsNumber`), because it has no end of its own.
-/

namespace PitchDesk.Json

/-! ### Strings -/

/-- What comes back of an element of a string. Control characters that no letter stands for are
written as units. -/
def Piece.reread : Piece → Piece
  | .char c =>
    if c < ' ' ∧ c ∉ ['\x08', '\x0c', '\n', '\r', '\t'] then .unit c.toNat else .char c
  | .unit n => .unit (n % 0x10000)

theorem hexValue?_digitChar : ∀ d, d < 16 → Text.hexValue? (Nat.digitChar d) = some d := by
  decide

/-- Four digits tell a code unit. -/
theorem readString?_hexUnit (n : Nat) (cs : List Char) :
    readString? ('\\' :: 'u' :: hexUnit n ++ cs) =
      (readString? cs).map (Prod.map (.unit (n % 0x10000) :: ·) id) := by
  have hdigit (m : Nat) : Text.hexValue? (Nat.digitChar (m % 16)) = some (m % 16) :=
    hexValue?_digitChar _ (Nat.mod_lt _ (by decide))
  have hunit : unitOf? (Nat.digitChar (n / 0x1000 % 16)) (Nat.digitChar (n / 0x100 % 16))
      (Nat.digitChar (n / 0x10 % 16)) (Nat.digitChar (n % 16)) = some (n % 0x10000) := by
    simp only [unitOf?, hdigit, Option.bind_eq_bind, Option.bind_some, Option.pure_def,
      Option.some.injEq]
    omega
  simp only [hexUnit, List.map_cons, List.map_nil, List.cons_append, List.nil_append, readString?,
    hunit, Option.bind_eq_bind, Option.bind_some]
  cases readString? cs <;> rfl

/-- A character that needs no escape stands for itself. -/
theorem readString?_cons {c : Char} (hquote : c ≠ '"') (hslash : c ≠ '\\') (hc : ¬c < ' ')
    (cs : List Char) :
    readString? (c :: cs) = (readString? cs).map (Prod.map (.char c :: ·) id) := by
  rw [readString?.eq_def]
  split
  · rename_i h
    cases h
  · rename_i h
    cases h
    exact absurd rfl hquote
  · rename_i h
    cases h
    exact absurd rfl hslash
  · rename_i h
    cases h
    exact absurd rfl hslash
  · rename_i h
    cases h
    rw [if_neg (by simp [hc, hslash])]
    cases readString? cs <;> rfl

/-- A letter behind a backslash stands for a character. -/
theorem readString?_letter {e c : Char} (he : escaped? e = some c) (cs : List Char) :
    readString? ('\\' :: e :: cs) =
      (readString? cs).map (Prod.map (.char c :: ·) id) := by
  rw [readString?.eq_def]
  split
  · rename_i h
    cases h
  · rename_i h
    cases h
  · rename_i h
    cases h
    cases he
  · rename_i h
    cases h
    rw [he]
    cases readString? cs <;> rfl
  · rename_i hletter h
    cases h
    exact absurd rfl (hletter e cs rfl)

/-- An element of a string is read as it was written. -/
theorem readString?_write (p : Piece) (cs : List Char) :
    readString? (p.write ++ cs) =
      (readString? cs).map (Prod.map (p.reread :: ·) id) := by
  cases p with
  | unit n => exact readString?_hexUnit n cs
  | char c =>
    show readString? (writeChar c ++ cs) = _
    unfold writeChar
    split
    · exact readString?_letter rfl cs
    · exact readString?_letter rfl cs
    · exact readString?_letter rfl cs
    · exact readString?_letter rfl cs
    · exact readString?_letter rfl cs
    · exact readString?_letter rfl cs
    · exact readString?_letter rfl cs
    · rename_i hquote hslash hb hf hn hr ht
      have hplain : c ∉ ['\x08', '\x0c', '\n', '\r', '\t'] := by
        simp only [List.mem_cons, List.not_mem_nil, or_false, not_or]
        exact ⟨hb, hf, hn, hr, ht⟩
      by_cases hc : c < ' '
      · have hunit : (Piece.char c).reread = .unit (c.toNat % 0x10000) := by
          rw [Piece.reread, if_pos ⟨hc, hplain⟩, Nat.mod_eq_of_lt]
          exact Nat.lt_trans hc (by decide)
        rw [if_pos hc, hunit]
        exact readString?_hexUnit c.toNat cs
      · rw [if_neg hc, Piece.reread, if_neg (fun h ↦ hc h.1)]
        exact readString?_cons hquote hslash hc cs

/-- The elements of a string are read one after the other, up to the closing quote. -/
theorem readString?_writeString (s : List Piece) (cs : List Char) :
    readString? (s.flatMap Piece.write ++ '"' :: cs) = some (s.map Piece.reread, cs) := by
  induction s with
  | nil => rfl
  | cons p s ih =>
    rw [List.flatMap_cons, List.append_assoc, readString?_write, ih]
    rfl

/-- A string is one token. -/
theorem all?_writeString (s : List Piece) (cs : List Char) :
    Token.all? (writeString s ++ cs) =
      (Token.all? cs).map (.string (s.map Piece.reread) :: ·) := by
  have hwritten : writeString s ++ cs = '"' :: (s.flatMap Piece.write ++ '"' :: cs) := by
    simp [writeString]
  rw [hwritten, Token.all?]
  split
  · rename_i hread
    rw [readString?_writeString] at hread
    cases hread
  · rename_i pieces rest hread
    rw [readString?_writeString] at hread
    cases hread
    rfl

/-- A unit below the surrogates stands for its character. -/
theorem charsOf?_unit {n : Nat} (hn : n < 0xD800) (s : List Piece) :
    charsOf? (.unit n :: s) = (charsOf? s).map (Char.ofNat n :: ·) := by
  have hleading : isLeading n = false := by simp [isLeading]; omega
  have htrailing : isTrailing n = false := by simp [isTrailing]; omega
  rcases s with _ | ⟨c | m, s⟩ <;> simp [charsOf?, hleading, htrailing]

/-- A text that is written and read again stands for the same characters. -/
theorem charsOf?_map_reread (cs : List Char) :
    charsOf? ((cs.map Piece.char).map Piece.reread) = some cs := by
  induction cs with
  | nil => rfl
  | cons c cs ih =>
    rw [List.map_cons, List.map_cons, Piece.reread]
    split
    · rename_i h
      have hc : c.toNat < 0xD800 := Nat.lt_trans h.1 (by decide)
      rw [charsOf?_unit hc, ih, Option.map_some, Char.ofNat_toNat]
    · rw [charsOf?, ih]
      rfl

/-- A text that is written and read again is the same text. -/
theorem textOf?_reread (s : String) :
    textOf? ((s.toList.map Piece.char).map Piece.reread) = some s := by
  rw [textOf?, charsOf?_map_reread, Option.map_some, String.ofList_toList]

/-! ### Integers -/

/-- What follows a number cannot be taken for more of it. -/
def EndsNumber (cs : List Char) : Prop :=
  ∀ c ∈ cs.head?, isNumberChar c = false

theorem isNumberChar_of_isDigit {c : Char} (h : c.isDigit = true) : isNumberChar c = true := by
  simp [isNumberChar, h]

theorem natOf_eq_ofDigitChars (ds : List Char) : natOf ds = Nat.ofDigitChars 10 ds 0 := by
  rw [natOf, Nat.ofDigitChars_eq_foldl]
  simp only [Nat.mul_comm]

/-- An integer without its sign is read whole. -/
theorem readUnsigned?_toDigits (negative : Bool) (n : Nat) :
    readUnsigned? negative (Nat.toDigits 10 n) = some ⟨negative, n, [], none⟩ := by
  have hdigits : ∀ c ∈ Nat.toDigits 10 n, c.isDigit = true := fun _ ↦ Text.isDigit_of_mem_toDigits
  have htake : (Nat.toDigits 10 n).takeWhile Char.isDigit = Nat.toDigits 10 n :=
    List.takeWhile_eq_self_iff.2 hdigits
  have hdrop : (Nat.toDigits 10 n).dropWhile Char.isDigit = [] :=
    List.dropWhile_eq_nil_iff.2 hdigits
  have hzero : ((Nat.toDigits 10 n).head? == some '0' && (Nat.toDigits 10 n).length != 1) =
      false := by
    by_cases h : (Nat.toDigits 10 n).head? = some '0'
    · rw [Text.toDigits_head?_zero h]
      rfl
    · simp [h]
  dsimp only [readUnsigned?]
  rw [htake, hdrop, hzero, Bool.or_false, if_neg (by simp), readFraction?, natOf_eq_ofDigitChars,
    Nat.ofDigitChars_ten_toDigits]

/-- A number that is written without a point and a power of ten. -/
def Number.IsPlain (n : Number) : Prop :=
  n.fraction = [] ∧ n.exponent = none

/-- A plain number starts with one of the characters of numbers, the rest are such too, and it is
read from them all. -/
theorem exists_write_eq {n : Number} (hn : n.IsPlain) :
    ∃ c cs, n.write = c :: cs ∧ (∀ d ∈ c :: cs, isNumberChar d = true) ∧
      readNumber? (c :: cs) = some n := by
  obtain ⟨negative, whole, fraction, exponent⟩ := n
  obtain ⟨rfl, rfl⟩ : fraction = [] ∧ exponent = none := hn
  have hnumber : ∀ c ∈ Nat.toDigits 10 whole, isNumberChar c = true := fun c hc ↦
    isNumberChar_of_isDigit (Text.isDigit_of_mem_toDigits hc)
  have hwrite : Number.write ⟨negative, whole, [], none⟩ =
      (if negative then ['-'] else []) ++ Nat.toDigits 10 whole := by
    simp [Number.write, writeFraction]
  rw [hwrite]
  cases negative with
  | true =>
    refine ⟨'-', Nat.toDigits 10 whole, rfl, ?_, readUnsigned?_toDigits true whole⟩
    simpa using ⟨rfl, hnumber⟩
  | false =>
    obtain ⟨c, cs, hcs⟩ := List.exists_cons_of_ne_nil (Nat.toDigits_ne_nil (b := 10) (n := whole))
    rw [hcs] at hnumber
    refine ⟨c, cs, hcs, hnumber, ?_⟩
    have hsign : c ≠ '-' := by
      rintro rfl
      have hdigit : '-' ∈ Nat.toDigits 10 whole := hcs ▸ List.mem_cons_self ..
      exact absurd (Nat.isDigit_of_mem_toDigits (by decide) (by decide) hdigit) (by decide)
    rw [readNumber?, ← hcs]
    · exact readUnsigned?_toDigits false whole
    · rintro ds h
      cases h
      exact hsign rfl

/-- What starts like a number goes on as far as there are characters of numbers. -/
theorem all?_of_isNumberChar {c : Char} (hc : isNumberChar c = true) (cs : List Char) {n : Number}
    (hn : readNumber? (c :: cs.takeWhile isNumberChar) = some n) :
    Token.all? (c :: cs) = (Token.all? (cs.dropWhile isNumberChar)).map (.number n :: ·) := by
  rw [Token.all?.eq_def]
  split
  case h_1 h => cases h
  case h_16 h =>
    cases h
    rw [if_pos hc]
    split
    · rename_i hnone
      rw [hn] at hnone
      cases hnone
    · rename_i hsome
      rw [hn] at hsome
      cases hsome
      rfl
  -- what starts another token is no character of numbers
  all_goals
    rename_i h
    cases h
    exact absurd hc (by decide)

/-- A plain number is one token. -/
theorem all?_write {n : Number} (hn : n.IsPlain) {cs : List Char} (hcs : EndsNumber cs) :
    Token.all? (n.write ++ cs) = (Token.all? cs).map (.number n :: ·) := by
  obtain ⟨c, ds, hwrite, hnumber, hread⟩ := exists_write_eq hn
  have htail : ∀ d ∈ ds, isNumberChar d = true := fun d hd ↦ hnumber d (List.mem_cons_of_mem c hd)
  have hend : cs.takeWhile isNumberChar = [] ∧ cs.dropWhile isNumberChar = cs := by
    cases cs with
    | nil => exact ⟨rfl, rfl⟩
    | cons d cs =>
      have hd : isNumberChar d = false := hcs d rfl
      exact ⟨List.takeWhile_cons_of_neg (by simp [hd]), List.dropWhile_cons_of_neg (by simp [hd])⟩
  have htake : (ds ++ cs).takeWhile isNumberChar = ds := by
    rw [List.takeWhile_append_of_pos htail, hend.1, List.append_nil]
  have hdrop : (ds ++ cs).dropWhile isNumberChar = cs := by
    rw [List.dropWhile_append_of_pos htail, hend.2]
  rw [hwrite, List.cons_append, all?_of_isNumberChar (hnumber c (List.mem_cons_self ..)) (ds ++ cs)
    (htake.symm ▸ hread), hdrop]

end PitchDesk.Json

import PitchDesk.Json.Reader
import PitchDesk.Text.Blank

/-!
# Texts without a JSON value

A text of blanks holds no value, whether JSON takes the blanks for such or not: reading it brings no
token to start a value with. Neither does a text that starts with a byte order mark, which is no
blank and starts no token.
-/

namespace PitchDesk.Json

/-- Numbers have no blanks in them. -/
theorem isNumberChar_of_isBlank {c : Char} (h : Text.isBlank c = true) :
    isNumberChar c = false := by
  rw [← Bool.not_eq_true]
  intro hn
  simp only [isNumberChar, Char.isDigit, Bool.or_eq_true, Bool.and_eq_true, decide_eq_true_eq,
    beq_iff_eq, ge_iff_le, UInt32.le_iff_toNat_le] at hn
  rcases hn with ((((⟨hlow, hhigh⟩ | rfl) | rfl) | rfl) | rfl) | rfl
  · have hdigit : 48 ≤ c.toNat ∧ c.toNat ≤ 57 := ⟨hlow, hhigh⟩
    simp [Text.isBlank] at h
    omega
  all_goals exact absurd h (by decide)

/-- There are no tokens among blanks. -/
theorem eq_nil_of_all? {cs : List Char} {ts : List Token} (h : cs.all Text.isBlank = true)
    (hts : Token.all? cs = some ts) : ts = [] := by
  -- blanks of JSON are skipped, other blanks start no token, and nothing else is among them
  fun_induction Token.all? cs generalizing ts with
  | case1 => simpa using hts.symm
  | case2 rest ih => exact ih h hts
  | case3 rest ih => exact ih h hts
  | case4 rest ih => exact ih h hts
  | case5 rest ih => exact ih h hts
  | case15 => cases hts
  | case17 => cases hts
  | case18 c _ _ _ _ _ _ _ _ _ _ _ _ _ _ _ hnumber =>
    simp only [List.all_cons, Bool.and_eq_true] at h
    rw [isNumberChar_of_isBlank h.1] at hnumber
    cases hnumber
  | case19 => cases hts
  | _ => exact absurd h (by simp [Text.isBlank])

/-- A blank text holds no value. -/
theorem read?_of_isBlankText {s : String} (h : Text.isBlankText s = true) : read? s = none := by
  rw [read?, Option.bind_eq_bind]
  cases hts : Token.all? s.toList with
  | none => rfl
  | some ts =>
    rw [eq_nil_of_all? h hts]
    rfl

/-- A text with a byte order mark holds no value. -/
theorem read?_of_mark {s : String} {cs : List Char} (h : s.toList = '\uFEFF' :: cs) :
    read? s = none := by
  have hmark : Token.all? ('\uFEFF' :: cs) = none := by simp [Token.all?, isNumberChar]
  rw [read?, h, hmark]
  rfl

end PitchDesk.Json

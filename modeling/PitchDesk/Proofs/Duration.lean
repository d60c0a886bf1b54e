import PitchDesk.Duration
import PitchDesk.Proofs.Text.Affix
import PitchDesk.Proofs.Text.Decimal

/-!
# What a duration text says

A duration is spelled out by a numeral and a unit directly after it, `Duration.Spells`. Units have
none of the characters of numerals, so there is only one way to take a text apart,
`Duration.Spells.unique`, and it does not matter that `ms` ends like `s`: the unit that a text ends
in is the first one of the table that it does.

Of the numbers, only those of 64 bits are read, and all of them are. Their multiples need not have
64 bits: a minute has sixty seconds and an hour 3600. Where that is more seconds than there are
numbers for, a program that is built with checks ends, and one that is built without them starts
again from zero. Both cases are told by one formula for so many of a unit, `Duration.times?`.

* `Duration.readUnder_eq_ok_iff` and `Duration.readUnder_eq_overflow_iff`: which durations are read
  and where the program ends, for a program that is built one way or the other;
* `Duration.read_exact_iff`: which durations come out as they were written;
* `Duration.minutes_overflow`: one that does not come out at all.

## Milliseconds on both sides

A unit is written with its milliseconds and worked out in its seconds, with checks on the product
of two words. The statements are in milliseconds without a bound, and `units_eq` says that the
table of units is the formula for each of them: the only place where products of words and of
numbers meet. From there on it does not matter which unit a text has.

An overflow is an outcome of its own and no error of the text. Nobody can report it, because the
program is at an end, so it must not be taken for one of the errors that are reported;
`readUnder_of_not_spells` says that it never is.
-/

namespace PitchDesk.Duration

open Text

/-! ### Units -/

/-- The units as they are written, each with its milliseconds. -/
def unitSizes : List (String × Nat) :=
  [("ms", 1), ("s", 1000), ("m", 60 * 1000), ("h", 60 * 60 * 1000)]

/-- So many of a unit of some milliseconds. With checks the program ends where the seconds have more
than 64 bits, and without them the seconds start again from zero. -/
def times? (a : Arithmetic) (size : Nat) (n : UInt64) : Option Duration :=
  if a = .checked ∧ UInt64.size ≤ n.toNat * size / 1000 then none
  else some (ofMilliseconds (n.toNat * size))

/-- Seconds are a thousand milliseconds each, whatever is left of them in a word. -/
theorem ofSeconds_ofNat (n : Nat) : ofSeconds (.ofNat n) = ofMilliseconds (n * 1000) := by
  rw [ofMilliseconds, ofSeconds, Nat.mul_div_cancel _ (by decide), Nat.mul_mod_left]

/-- A unit of so many seconds is counted by its milliseconds. -/
theorem map_product? (a : Arithmetic) (n k : UInt64) :
    (a.product? n k).map ofSeconds = times? a (k.toNat * 1000) n := by
  have hseconds : n.toNat * (k.toNat * 1000) / 1000 = n.toNat * k.toNat := by
    rw [← Nat.mul_assoc, Nat.mul_div_cancel _ (by decide)]
  have hproduct : ofSeconds (n * k) = ofMilliseconds (n.toNat * (k.toNat * 1000)) := by
    rw [← Nat.mul_assoc, ← ofSeconds_ofNat, UInt64.ofNat_mul, UInt64.ofNat_toNat,
      UInt64.ofNat_toNat]
  rw [times?, hseconds, ← hproduct]
  cases a with
  | wrapping => rfl
  | checked =>
    by_cases hfits : n.toNat * k.toNat < UInt64.size
    · simp [Arithmetic.product?, hfits, Nat.not_le.2 hfits]
    · simp [Arithmetic.product?, hfits, Nat.not_lt.1 hfits]

/-- As long as the seconds have 64 bits it does not matter how the program is built. -/
theorem times?_of_lt {a : Arithmetic} {size : Nat} {n : UInt64}
    (h : n.toNat * size / 1000 < UInt64.size) :
    times? a size n = some (ofMilliseconds (n.toNat * size)) :=
  if_neg fun hover ↦ Nat.not_le.2 h hover.2

/-- Every unit is counted by its milliseconds. -/
theorem units_eq (a : Arithmetic) : units a = unitSizes.map fun u ↦ (u.1, times? a u.2) := by
  have hms (n : UInt64) : times? a 1 n = some (ofMilliseconds n.toNat) := by
    have hfits : n.toNat * 1 / 1000 < UInt64.size := by
      rw [Nat.mul_one]
      exact (Nat.div_le_self _ _).trans_lt n.toNat_lt_size
    rw [times?_of_lt hfits, Nat.mul_one]
  have hs (n : UInt64) : times? a 1000 n = some (ofSeconds n) := by
    have hfits : n.toNat * 1000 / 1000 < UInt64.size := by
      rw [Nat.mul_div_cancel _ (by decide)]
      exact n.toNat_lt_size
    rw [times?_of_lt hfits, ← ofSeconds_ofNat, UInt64.ofNat_toNat]
  simp only [units, unitSizes, List.map_cons, List.map_nil, map_product?]
  simp [funext hms, funext hs]

theorem isNumeralChar_of_mem_unitSizes {u : String × Nat} (h : u ∈ unitSizes) :
    ∀ c ∈ u.1.toList, isNumeralChar c = false := by
  have hletters : unitSizes.all (fun u ↦ u.1.toList.all (!isNumeralChar ·)) = true := by
    decide +kernel
  simpa using List.all_eq_true.1 hletters u h

/-- A unit that ends like another stands before it. -/
theorem unitSizes_pairwise : unitSizes.Pairwise fun u v ↦ ¬u.1.toList <:+ v.1.toList := by
  decide +kernel

/-- A text spells a duration out: a numeral of `count`, and directly after it a unit that has `size`
milliseconds. -/
def Spells (text : String) (count size : Nat) : Prop :=
  ∃ numeral unit, (unit, size) ∈ unitSizes ∧ text.toList = numeral ++ unit.toList ∧
    IsNumeral numeral count

/-- A text spells one duration out at most. -/
theorem Spells.unique {text : String} {count count' size size' : Nat} (h : Spells text count size)
    (h' : Spells text count' size') : count = count' ∧ size = size' := by
  obtain ⟨numeral, unit, hunit, htext, hnumeral⟩ := h
  obtain ⟨numeral', unit', hunit', htext', hnumeral'⟩ := h'
  have hends : unit.toList <:+ unit'.toList :=
    suffix_of_suffix_append hnumeral'.forall_isNumeralChar (isNumeralChar_of_mem_unitSizes hunit)
      ⟨numeral, by rw [← htext, htext']⟩
  have hends' : unit'.toList <:+ unit.toList :=
    suffix_of_suffix_append hnumeral.forall_isNumeralChar (isNumeralChar_of_mem_unitSizes hunit')
      ⟨numeral', by rw [← htext, htext']⟩
  obtain rfl : unit = unit' := String.toList_inj.1 (hends.eq_of_length_le hends'.length_le)
  obtain rfl : numeral = numeral' := by
    rw [htext] at htext'
    exact List.append_cancel_right htext'
  refine ⟨hnumeral.unique hnumeral', ?_⟩
  have hsizes : ∀ u ∈ unitSizes, ∀ v ∈ unitSizes, u.1 = v.1 → u.2 = v.2 := by decide +kernel
  exact hsizes _ hunit _ hunit' rfl

/-! ### Reading -/

variable {raw : String} {us : List (String × (UInt64 → Option Duration))} {d : Duration}
  {a : Arithmetic} {count size : Nat}

/-- A text is reported as an error, or gives so many of one of the units. -/
theorem readWith_cases (raw : String) (us : List (String × (UInt64 → Option Duration))) :
    (∃ e, readWith raw us = .error e ∧ e ≠ .overflow) ∨
      ∃ u ∈ us, ∃ numeral n, raw.toList = numeral ++ u.1.toList ∧
        readNumber UInt64.size numeral = .ok n := by
  induction us with
  | nil => exact .inl ⟨.noUnit raw, rfl, nofun⟩
  | cons u us ih =>
    rw [readWith]
    split
    · refine ih.imp_right ?_
      rintro ⟨u', hu', hread⟩
      exact ⟨u', List.mem_cons_of_mem _ hu', hread⟩
    · rename_i numeral hnumeral
      split
      · rename_i cause _
        exact .inl ⟨.badNumber raw cause, rfl, nofun⟩
      · rename_i n hn
        exact .inr ⟨u, List.mem_cons_self .., numeral, n, dropSuffix?_eq_some_iff.1 hnumeral, hn⟩

/-- So many of any unit are read, as long as no unit before it is its end. -/
theorem readWith_of_isNumeral {u : String × (UInt64 → Option Duration)} {numeral : List Char}
    {n : Nat} (hletters : ∀ u ∈ us, ∀ c ∈ u.1.toList, isNumeralChar c = false)
    (horder : us.Pairwise fun u v ↦ ¬u.1.toList <:+ v.1.toList) (hu : u ∈ us)
    (hraw : raw.toList = numeral ++ u.1.toList) (hnumeral : IsNumeral numeral n)
    (hn : n < UInt64.size) :
    readWith raw us = (u.2 (.ofNat n)).elim (.error .overflow) .ok := by
  induction us with
  | nil => cases hu
  | cons v us ih =>
    rw [readWith, hraw]
    rcases List.mem_cons.1 hu with rfl | hu
    · have hread : readNumber UInt64.size numeral = .ok n :=
        (readNumber_eq_ok_iff (by decide)).2 ⟨hnumeral, hn⟩
      rw [dropSuffix?_eq_some_iff.2 rfl]
      simp only [hread]
    · have hnone : dropSuffix? v.1.toList (numeral ++ u.1.toList) = none := by
        rw [Option.eq_none_iff_forall_ne_some]
        intro rest hrest
        have hsuffix : v.1.toList <:+ numeral ++ u.1.toList :=
          ⟨rest, (dropSuffix?_eq_some_iff.1 hrest).symm⟩
        exact List.rel_of_pairwise_cons horder hu
          (suffix_of_suffix_append hnumeral.forall_isNumeralChar
            (hletters v (List.mem_cons_self ..)) hsuffix)
      rw [hnone]
      exact ih (fun w hw ↦ hletters w (List.mem_cons_of_mem _ hw)) horder.of_cons hu

/-- What is spelled out with a count of 64 bits is read, or ends the program. -/
theorem readUnder_of_spells (h : Spells (Text.trim raw) count size) (hcount : count < UInt64.size) :
    readUnder a raw = (times? a size (.ofNat count)).elim (.error .overflow) .ok := by
  obtain ⟨numeral, unit, hunit, hraw, hnumeral⟩ := h
  rw [readUnder, units_eq]
  refine readWith_of_isNumeral ?_ ?_ (List.mem_map.2 ⟨_, hunit, rfl⟩) hraw hnumeral hcount
  · intro u hu
    obtain ⟨u', hu', rfl⟩ := List.mem_map.1 hu
    exact isNumeralChar_of_mem_unitSizes hu'
  · rw [List.pairwise_map]
    exact unitSizes_pairwise

/-- Any other text is reported as an error. -/
theorem readUnder_of_not_spells (a : Arithmetic) (raw : String)
    (h : ∀ count size, Spells (Text.trim raw) count size → ¬count < UInt64.size) :
    ∃ e, readUnder a raw = .error e ∧ e ≠ .overflow := by
  rw [readUnder]
  refine (readWith_cases (Text.trim raw) (units a)).resolve_right ?_
  rintro ⟨u, hu, numeral, n, hraw, hn⟩
  rw [units_eq, List.mem_map] at hu
  obtain ⟨⟨unit, size⟩, hunit, rfl⟩ := hu
  obtain ⟨hnumeral, hlt⟩ := (readNumber_eq_ok_iff (by decide)).1 hn
  exact h n size ⟨numeral, unit, hunit, hraw, hnumeral⟩ hlt

/-- The seconds of so many units of some size have 64 bits, where they have to: in a program that is
built with checks. -/
def Fits (a : Arithmetic) (count size : Nat) : Prop :=
  a = .checked → count * size / 1000 < UInt64.size

/-- So many of a unit are counted where they fit, and are no duration where they do not. -/
theorem times?_ofNat (hcount : count < UInt64.size) :
    (Fits a count size → times? a size (.ofNat count) = some (ofMilliseconds (count * size))) ∧
      (¬Fits a count size → times? a size (.ofNat count) = none) := by
  have hword : (UInt64.ofNat count).toNat = count := UInt64.toNat_ofNat_of_lt hcount
  simp only [times?, hword, Fits, Classical.not_imp, Nat.not_lt]
  refine ⟨fun hfits ↦ if_neg ?_, fun hover ↦ if_pos hover⟩
  rintro ⟨rfl, hover⟩
  exact Nat.not_le.2 (hfits rfl) hover

/-- **A duration is read exactly where one is spelled out whose count has 64 bits,** and whose
seconds have, if the program is built with checks. -/
theorem readUnder_eq_ok_iff :
    readUnder a raw = .ok d ↔ ∃ count size, Spells (Text.trim raw) count size ∧
      count < UInt64.size ∧ Fits a count size ∧ d = ofMilliseconds (count * size) := by
  constructor
  · intro h
    by_cases hspells : ∃ count size, Spells (Text.trim raw) count size ∧ count < UInt64.size
    · obtain ⟨count, size, hspells, hcount⟩ := hspells
      rw [readUnder_of_spells hspells hcount] at h
      by_cases hfits : Fits a count size
      · rw [(times?_ofNat hcount).1 hfits] at h
        cases h
        exact ⟨count, size, hspells, hcount, hfits, rfl⟩
      · rw [(times?_ofNat hcount).2 hfits] at h
        cases h
    · obtain ⟨e, he, -⟩ := readUnder_of_not_spells a raw
        fun count size hspelled hcount ↦ hspells ⟨count, size, hspelled, hcount⟩
      rw [he] at h
      cases h
  · rintro ⟨count, size, hspells, hcount, hfits, rfl⟩
    rw [readUnder_of_spells hspells hcount, (times?_ofNat hcount).1 hfits]
    rfl

/-- **The program ends exactly where a duration is spelled out whose count has 64 bits and whose
seconds do not,** if it is built with checks. -/
theorem readUnder_eq_overflow_iff :
    readUnder a raw = .error .overflow ↔ ∃ count size, Spells (Text.trim raw) count size ∧
      count < UInt64.size ∧ ¬Fits a count size := by
  constructor
  · intro h
    by_cases hspells : ∃ count size, Spells (Text.trim raw) count size ∧ count < UInt64.size
    · obtain ⟨count, size, hspells, hcount⟩ := hspells
      refine ⟨count, size, hspells, hcount, fun hfits ↦ ?_⟩
      rw [readUnder_of_spells hspells hcount, (times?_ofNat hcount).1 hfits] at h
      cases h
    · obtain ⟨e, he, hreported⟩ := readUnder_of_not_spells a raw
        fun count size hspelled hcount ↦ hspells ⟨count, size, hspelled, hcount⟩
      rw [he] at h
      cases h
      exact absurd rfl hreported
  · rintro ⟨count, size, hspells, hcount, hover⟩
    rw [readUnder_of_spells hspells hcount, (times?_ofNat hcount).2 hover]
    rfl

/-! ### How exactly -/

theorem eq_ofMilliseconds_iff {t : Nat} :
    d = ofMilliseconds t ↔
      d.seconds.toNat = t / 1000 % UInt64.size ∧ d.milliseconds = t % 1000 := by
  obtain ⟨seconds, milliseconds⟩ := d
  have hseconds : (UInt64.ofNat (t / 1000)).toNat = t / 1000 % UInt64.size := UInt64.toNat_ofNat'
  rw [ofMilliseconds, Duration.mk.injEq, ← UInt64.toNat_inj, hseconds]

/-- Milliseconds last as long as they should exactly if their seconds have 64 bits. -/
theorem nanoseconds_ofMilliseconds_iff {t : Nat} :
    (ofMilliseconds t).nanoseconds = t * 1000000 ↔ t / 1000 < UInt64.size := by
  have hseconds : (UInt64.ofNat (t / 1000)).toNat = t / 1000 % UInt64.size := UInt64.toNat_ofNat'
  simp only [nanoseconds, ofMilliseconds, hseconds]
  constructor
  · intro h
    have hkept : t / 1000 % UInt64.size = t / 1000 := by omega
    rw [← hkept]
    exact Nat.mod_lt _ (by decide)
  · intro h
    rw [Nat.mod_eq_of_lt h]
    omega

/-- **Which durations are read, and which of them as they are written.**
1. A duration is read from exactly the texts that spell one out whose count and whose seconds have
64 bits, and it is the one that is spelled out.
2. Where the count has 64 bits and the seconds do not, the program ends, and any other text is
reported as an error.
3. Built without checks it never ends there, and loses the multiples of the sixty-fourth power of
two of the seconds.
4. So a duration that is spelled out is read as long as it is written exactly if its count and its
seconds have 64 bits, however the program is built. -/
theorem read_exact_iff (raw : String) :
    (∀ d, read raw = .ok d ↔
      ∃ count size, Spells (Text.trim raw) count size ∧ count < UInt64.size ∧
        count * size / 1000 < UInt64.size ∧ d.seconds.toNat = count * size / 1000 ∧
        d.milliseconds = count * size % 1000) ∧
    (read raw = .error .overflow ↔
      ∃ count size, Spells (Text.trim raw) count size ∧ count < UInt64.size ∧
        UInt64.size ≤ count * size / 1000) ∧
    ((∀ d, readUnder .wrapping raw = .ok d ↔
        ∃ count size, Spells (Text.trim raw) count size ∧ count < UInt64.size ∧
          d.seconds.toNat = count * size / 1000 % UInt64.size ∧
          d.milliseconds = count * size % 1000) ∧
      readUnder .wrapping raw ≠ .error .overflow) ∧
    ∀ a count size, Spells (Text.trim raw) count size →
      ((∃ d, readUnder a raw = .ok d ∧ d.nanoseconds = count * size * 1000000) ↔
        count < UInt64.size ∧ count * size / 1000 < UInt64.size) := by
  refine ⟨fun d ↦ ?_, ?_, ⟨fun d ↦ ?_, ?_⟩, fun a count size hspells ↦ ⟨?_, ?_⟩⟩
  · simp only [read, readUnder_eq_ok_iff, eq_ofMilliseconds_iff, Fits, true_implies]
    refine exists₂_congr fun count size ↦ and_congr_right fun _ ↦ and_congr_right fun _ ↦
      and_congr_right fun hfits ↦ ?_
    rw [Nat.mod_eq_of_lt hfits]
  · simp only [read, readUnder_eq_overflow_iff, Fits, true_implies, Nat.not_lt]
  · simp [readUnder_eq_ok_iff, eq_ofMilliseconds_iff, Fits]
  · simp [readUnder_eq_overflow_iff, Fits]
  -- a text spells one count and one unit, so what was read is what was spelled
  · rintro ⟨d, hd, hexact⟩
    obtain ⟨count', size', hspells', hcount, -, rfl⟩ := readUnder_eq_ok_iff.1 hd
    obtain ⟨rfl, rfl⟩ := hspells.unique hspells'
    exact ⟨hcount, nanoseconds_ofMilliseconds_iff.1 hexact⟩
  · rintro ⟨hcount, hseconds⟩
    exact ⟨_, readUnder_eq_ok_iff.2 ⟨count, size, hspells, hcount, fun _ ↦ hseconds, rfl⟩,
      nanoseconds_ofMilliseconds_iff.2 hseconds⟩

/-- The longest duration in whole minutes that is read as long as it is written. -/
theorem longest_minutes_are_exact :
    Spells (Text.trim " +307445734561825860m") 307445734561825860 60000 ∧
      ∃ d, read " +307445734561825860m" = .ok d ∧
        d.nanoseconds = 307445734561825860 * 60000 * 1000000 := by
  have hread : readNumber UInt64.size "+307445734561825860".toList = .ok 307445734561825860 := by
    decide +kernel
  have hspells : Spells (Text.trim " +307445734561825860m") 307445734561825860 60000 :=
    ⟨"+307445734561825860".toList, "m", by decide, by decide +kernel,
      ((readNumber_eq_ok_iff (by decide)).1 hread).1⟩
  exact ⟨hspells, ((read_exact_iff " +307445734561825860m").2.2.2 .checked _ _ hspells).2
    (by decide)⟩

/-- One minute more ends the program. Without checks it is read as 44 seconds. -/
theorem minutes_overflow :
    Spells (Text.trim "307445734561825861m") 307445734561825861 60000 ∧
      ¬307445734561825861 * 60000 / 1000 < UInt64.size ∧
      read "307445734561825861m" = .error .overflow ∧
      readUnder .wrapping "307445734561825861m" = .ok ⟨44, 0⟩ := by
  have hread : readNumber UInt64.size "307445734561825861".toList = .ok 307445734561825861 := by
    decide +kernel
  have hspells : Spells (Text.trim "307445734561825861m") 307445734561825861 60000 :=
    ⟨"307445734561825861".toList, "m", by decide, by decide +kernel,
      ((readNumber_eq_ok_iff (by decide)).1 hread).1⟩
  exact ⟨hspells, by decide, by decide +kernel, by decide +kernel⟩

end PitchDesk.Duration

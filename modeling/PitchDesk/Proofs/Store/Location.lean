import PitchDesk.Proofs.Text.Affix
import PitchDesk.Store.Location

/-!
# Paths that look like URIs

A path is looked at up to its first `://`, and it is refused if nothing but letters stands before
that. No letter is a colon, so a path that begins with letters and `://` has none before them, and
its scheme is found whatever follows, `Location.scheme?_eq_some_iff`. So the check accepts exactly
the paths that do not begin like a URI, `Location.check_accepts_iff`.

`HasScheme` is the plain form of the question: the path begins with letters and `://`. It looks for
no first occurrence and says nothing of the rest. A scheme is told by letters alone, as they are
known to Unicode, so a path that begins like a URI whose scheme has a digit or a sign in it is not
refused for that.
-/

namespace PitchDesk.Location

open Text

variable {path scheme rest : List Char}

/-- What follows the scheme of a URI. -/
def schemeEnd : List Char := [':', '/', '/']

/-- A path begins with a scheme: one letter or more, and `://` right after them. -/
def HasScheme (path scheme : List Char) : Prop :=
  scheme ≠ [] ∧ (∀ c ∈ scheme, isAlphabetic c = true) ∧ scheme ++ schemeEnd <+: path

theorem colon_not_mem (h : ∀ c ∈ scheme, isAlphabetic c = true) : ':' ∉ scheme := by
  intro hc
  have hcolon : isAlphabetic ':' = false := by decide +kernel
  rw [h ':' hc] at hcolon
  cases hcolon

/-- **The scheme that is found is the one that the path begins with**, although only the first `://`
is looked at. -/
theorem scheme?_eq_some_iff : scheme? path = some scheme ↔ HasScheme path scheme := by
  constructor
  · intro h
    unfold scheme? at h
    split at h
    · rename_i before after hcut
      split at h
      · rename_i hbefore
        cases h
        exact ⟨hbefore.1, List.all_eq_true.1 hbefore.2, after, (eq_of_cutAt? hcut).symm⟩
      · cases h
    · cases h
  · rintro ⟨hne, hletters, after, rfl⟩
    rw [scheme?, schemeEnd, cutAt?_append (colon_not_mem hletters)]
    exact if_pos ⟨hne, List.all_eq_true.2 hletters⟩

/-- Without a scheme to begin with, none is found. -/
theorem scheme?_eq_none_iff : scheme? path = none ↔ ∀ scheme, ¬HasScheme path scheme := by
  simp only [← scheme?_eq_some_iff, Option.eq_none_iff_forall_ne_some, ne_eq]

/-- A path with a scheme is neither empty nor the one that stands for memory, so it is refused for
its scheme. -/
theorem check_of_scheme? {path : String} (h : scheme? path.toList = some scheme) :
    check path = .error (.uri path (String.ofList scheme)) := by
  have hempty : path.isEmpty = false := by
    rw [← Bool.not_eq_true, String.isEmpty_iff]
    rintro rfl
    cases h
  have hmemory : path ≠ memory := by
    rintro rfl
    cases h
  rw [check, hempty, if_neg Bool.false_ne_true, if_neg hmemory, h]

theorem check_of_scheme?_eq_none {path : String} (h : scheme? path.toList = none) :
    check path =
      if path = "" then .error .empty
      else if path = memory then .ok ()
      else if "file:".toList <+: path.toList then .error (.fileUri path)
      else if '?' ∈ path.toList then .error (.query path)
      else .ok () := by
  have hfile : (dropPrefix? ['f', 'i', 'l', 'e', ':'] path.toList).isSome = true ↔
      "file:".toList <+: path.toList := by
    rw [Option.isSome_iff_exists]
    exact exists_congr fun rest ↦ dropPrefix?_eq_some_iff.trans eq_comm
  simp only [check, h, String.isEmpty_iff, hfile, List.contains_iff_mem]

/-- **Exactly what does not look like a URI is taken for the path of a database.**
1. A path is accepted if it is not empty and either stands for memory or has no scheme, does not
begin with `file:` and has no question mark.
2. A path is refused for its scheme exactly if it begins with that scheme, wherever else a colon and
two slashes stand in it. -/
theorem check_accepts_iff (path : String) :
    (check path = .ok () ↔
      path ≠ "" ∧ (path = ":memory:" ∨
        (∀ scheme, ¬HasScheme path.toList scheme) ∧ ¬"file:".toList <+: path.toList ∧
          '?' ∉ path.toList)) ∧
    ∀ scheme : String, check path = .error (.uri path scheme) ↔
      HasScheme path.toList scheme.toList := by
  rw [← scheme?_eq_none_iff]
  simp only [← scheme?_eq_some_iff]
  cases h : scheme? path.toList with
  | some found =>
    have hmemory : path ≠ ":memory:" := by
      rintro rfl
      cases h
    rw [check_of_scheme? h]
    refine ⟨by simp [hmemory], fun scheme ↦ ?_⟩
    rw [Except.error.injEq, LocationError.uri.injEq, Option.some_inj, and_iff_right rfl,
      ← String.toList_inj, String.toList_ofList]
  | none =>
    rw [check_of_scheme?_eq_none h, memory]
    generalize "file:".toList = file
    refine ⟨?_, fun scheme ↦ ?_⟩
    · by_cases hempty : path = ""
      · simp [hempty]
      · by_cases hmemory : path = ":memory:"
        · simp [hmemory]
        · by_cases hfile : file <+: path.toList
          · simp [hempty, hmemory, hfile]
          · simp [hempty, hmemory, hfile]
    · repeat' split
      all_goals simp

end PitchDesk.Location

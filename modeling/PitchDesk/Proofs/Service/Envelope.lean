import PitchDesk.Proofs.Json.Reader
import PitchDesk.Proofs.Text.Blank
import PitchDesk.Service.Error

/-!
# What envelopes say

What a text says as an envelope is told by the JSON in it: it is an object with the fields of an
envelope, or an array of their values, and each field can be read, `Envelope.Holds`. An envelope is
read from exactly the texts that hold one, `Envelope.read?_eq_some_iff`.

The same answer may hold an envelope with data of different types: the data that was asked for, or
any data with the message that may come instead. The status it states is the same whatever it is
read for, `Envelope.Holds.status?_eq`.

An envelope is read as a whole. So a refusal whose data is not of the type that was asked for is
not read as a refusal at all, `Envelope.accepted_of_refuses`.

## Why a relation beside the reader

`Holds` says field by field what has to stand in the text, with each field read for itself; the
reader takes one field after the other and stops at the first that it cannot read. Statements on
answers use the relation, so that they speak of JSON and not of the reader, and `read?_eq_some_iff`
is the only lemma that opens it. A failure in a chain of readings is taken apart by the two lemmas
on `Except`.
-/

namespace PitchDesk

variable {α β ε : Type}

/-! ### Failures in a chain -/

/-- A chain succeeds if its first part does and what follows does. -/
theorem Except.bind_eq_ok_iff {x : Except ε α} {f : α → Except ε β} {b : β} :
    (x >>= f) = .ok b ↔ ∃ a, x = .ok a ∧ f a = .ok b := by
  cases x with
  | error e => simp [bind, Except.bind]
  | ok a => simp [bind, Except.bind]

/-- A chain fails with its first part, or with what follows. -/
theorem Except.bind_eq_error_iff {x : Except ε α} {f : α → Except ε β} {e : ε} :
    (x >>= f) = .error e ↔ x = .error e ∨ ∃ a, x = .ok a ∧ f a = .error e := by
  cases x with
  | error e => simp [bind, Except.bind]
  | ok a => simp [bind, Except.bind]

namespace Envelope

/-! ### Reading -/

/-- The names of the fields of an envelope. -/
def fieldNames : List String :=
  ["status", "data", "message", "total_data", "total_pages"]

/-- The fields of the envelope that a text holds. -/
def fields? (text : String) : Option Wire.Fields :=
  (Json.read? text).bind (Wire.fields? fieldNames)

/-- The status that a text states as an envelope, whatever its other fields hold. -/
def status? (text : String) : Option Bool :=
  (fields? text).bind (·.required "status")

/-- A text holds an envelope: it is JSON with the fields of one, and each of them can be read. A
status must be given, and what else is left out stands for nothing. -/
def Holds [Wire α] (text : String) (e : Envelope α) : Prop :=
  ∃ f, fields? text = some f ∧
    f.required "status" = some e.status ∧
    f.withDefault "data" none = some e.data ∧
    f.withDefault "message" none = some e.message ∧
    f.withDefault "total_data" none = some e.totalData ∧
    f.withDefault "total_pages" none = some e.totalPages

/-- An envelope is read from the texts that hold it. -/
theorem read?_eq_some_iff [Wire α] {text : String} {e : Envelope α} :
    read? text = some e ↔ Holds text e := by
  obtain ⟨status, data, message, totalData, totalPages⟩ := e
  simp only [read?, Holds, fields?, fieldNames, Wire.ofJson?, Option.bind_eq_bind, Option.pure_def,
    Option.bind_eq_some_iff, Option.some.injEq, Envelope.mk.injEq]
  constructor
  · rintro ⟨v, hv, f, hf, _, hs, _, hd, _, hm, _, ht, _, hp, rfl, rfl, rfl, rfl, rfl⟩
    exact ⟨f, ⟨v, hv, hf⟩, hs, hd, hm, ht, hp⟩
  · rintro ⟨f, ⟨v, hv, hf⟩, hs, hd, hm, ht, hp⟩
    exact ⟨v, hv, f, hf, _, hs, _, hd, _, hm, _, ht, _, hp, rfl, rfl, rfl, rfl, rfl⟩

/-- The status that a text states is the same whatever it is read for. -/
theorem Holds.status?_eq [Wire α] {text : String} {e : Envelope α} (h : Holds text e) :
    status? text = some e.status := by
  obtain ⟨f, hf, hs, -⟩ := h
  rw [status?, hf, Option.bind_some, hs]

/-- A blank text is no envelope. -/
theorem status?_of_isBlankText {text : String} (h : Text.isBlankText text = true) :
    status? text = none := by
  rw [status?, fields?, Json.read?_of_isBlankText h]
  rfl

/-! ### Success and refusal -/

theorem message?_eq_some_iff {e : Envelope α} {m : String} :
    e.message? = some m ↔ e.message = some m ∧ Text.isBlankText m = false := by
  simp [message?, Option.filter_eq_some_iff]

/-- A refusal always says something. -/
theorem isBlankText_rejection (e : Envelope α) : Text.isBlankText e.rejection = false := by
  rw [rejection]
  cases hm : e.message? with
  | none => decide +kernel
  | some m => exact (message?_eq_some_iff.1 hm).2

/-- An envelope that tells of success is passed on as it is. -/
theorem checked_eq_ok_iff {e e' : Envelope α} :
    e.checked = .ok e' ↔ e.status = true ∧ e = e' := by
  cases hs : e.status <;> simp [checked, hs]

/-- One that does not is told with its message. -/
theorem checked_eq_error_iff {e : Envelope α} {cause : ServiceError} :
    e.checked = .error cause ↔ e.status = false ∧ .rejected e.rejection = cause := by
  cases hs : e.status <;> simp [checked, hs]

/-- The envelope that a text holds, if it tells of success. -/
def accepted (α : Type) [Wire α] (text what : String) : Except ServiceError (Envelope α) :=
  match read? text with
  | none => .error (.undecodable what)
  | some e => e.checked

/-- An answer is accepted if it holds an envelope that tells of success. -/
theorem accepted_eq_ok_iff [Wire α] {text what : String} {e : Envelope α} :
    accepted α text what = .ok e ↔ Holds text e ∧ e.status = true := by
  rw [accepted, ← read?_eq_some_iff]
  cases hread : (read? text : Option (Envelope α)) with
  | none => simp
  | some e' =>
    simp only [checked_eq_ok_iff, Option.some.injEq]
    constructor
    · rintro ⟨hs, rfl⟩
      exact ⟨rfl, hs⟩
    · rintro ⟨rfl, hs⟩
      exact ⟨hs, rfl⟩

theorem accepted_bind_eq_ok_iff [Wire α] {text what : String}
    {finish : Envelope α → Except ServiceError β} {b : β} :
    (accepted α text what >>= finish) = .ok b ↔
      ∃ e, Holds text e ∧ e.status = true ∧ finish e = .ok b := by
  simp only [Except.bind_eq_ok_iff, accepted_eq_ok_iff, and_assoc]

/-- A refusal is passed on with words, whatever is made of the envelopes that tell of success. -/
theorem isBlankText_of_accepted_bind [Wire α] {text what m : String}
    {finish : Envelope α → Except ServiceError β}
    (h : (accepted α text what >>= finish) = .error (.rejected m))
    (hfinish : ∀ e, finish e ≠ .error (.rejected m)) :
    Text.isBlankText m = false := by
  obtain h | ⟨e, -, h⟩ := Except.bind_eq_error_iff.1 h
  · rw [accepted] at h
    split at h
    · cases h
    · obtain ⟨-, hm⟩ := checked_eq_error_iff.1 h
      cases hm
      exact isBlankText_rejection _
  · exact absurd h (hfinish e)

/-! ### Refusals with data -/

/-- What a refusal with some message says. -/
def refusalText (message : Option String) : String :=
  (message.filter fun m ↦ !Text.isBlankText m).getD "request was rejected"

/-- The fields of a refusal: the status is `false`, there may be a message, and the totals are left
out or can be read. Nothing is said of the data. -/
structure Refuses (f : Wire.Fields) (message : Option String) : Prop where
  status : f.required "status" = some false
  message : f.withDefault "message" none = some message
  totalData : (f.withDefault "total_data" (none : Option UInt64)).isSome
  totalPages : (f.withDefault "total_pages" (none : Option UInt32)).isSome

instance (f : Wire.Fields) (message : Option String) : Decidable (Refuses f message) :=
  decidable_of_iff
    (f.required "status" = some false ∧ f.withDefault "message" none = some message ∧
      (f.withDefault "total_data" (none : Option UInt64)).isSome ∧
      (f.withDefault "total_pages" (none : Option UInt32)).isSome)
    ⟨fun ⟨hs, hm, ht, hp⟩ ↦ ⟨hs, hm, ht, hp⟩, fun ⟨hs, hm, ht, hp⟩ ↦ ⟨hs, hm, ht, hp⟩⟩

/-- Whether the data among some fields is left out, `null` or of some type. -/
def hasData (α : Type) [Wire α] (f : Wire.Fields) : Bool :=
  (f.withDefault "data" (none : Option α)).isSome

/-- **A refusal is understood if and only if its data can be read.** The data is read before anybody
looks at the status. -/
theorem accepted_of_refuses [Wire α] {text : String} {f : Wire.Fields} {message : Option String}
    (hf : fields? text = some f) (hr : Refuses f message) (what : String) :
    accepted α text what =
      .error (if hasData α f then .rejected (refusalText message) else .undecodable what) := by
  rw [accepted]
  cases hd : (f.withDefault "data" none : Option (Option α)) with
  | some data =>
    obtain ⟨totalData, ht⟩ := Option.isSome_iff_exists.1 hr.totalData
    obtain ⟨totalPages, hp⟩ := Option.isSome_iff_exists.1 hr.totalPages
    have hread : read? text = some ⟨false, data, message, totalData, totalPages⟩ :=
      read?_eq_some_iff.2 ⟨f, hf, hr.status, hd, hr.message, ht, hp⟩
    rw [hread, hasData, hd]
    rfl
  | none =>
    have hread : (read? text : Option (Envelope α)) = none := by
      rw [Option.eq_none_iff_forall_ne_some]
      intro e he
      obtain ⟨f', hf', -, hdata, -⟩ := read?_eq_some_iff.1 he
      obtain rfl : f = f' := Option.some.inj (hf.symm.trans hf')
      rw [hd] at hdata
      cases hdata
    rw [hread, hasData, hd]
    rfl

end Envelope

end PitchDesk

import PitchDesk.Access.Permission
import PitchDesk.Proofs.Json.Wire
import PitchDesk.Record.Wire
import PitchDesk.Setting

/-!
# Records that come back from the wire

Choices come back because their names differ, and the records because all their fields do. So every
value that the service sends or the store keeps is the one that is read from its text,
`LawfulWire.records_come_back`.

A record has an instance that names how it is written and how it is made of its members; what is to
be shown is only that its names differ and that its fields come back, which `simp` finds from the
instances of their types. A field that is added to a record, or another name for one, needs no
other proof.
-/

namespace PitchDesk

open Json Wire

/-! ### Choices -/

instance : LawfulWire Role :=
  lawfulWire_choice (fun _ ↦ rfl) (fun _ ↦ rfl) fun r ↦ by cases r <;> rfl

instance : LawfulWire EventStatus :=
  lawfulWire_choice (fun _ ↦ rfl) (fun _ ↦ rfl) fun s ↦ by cases s <;> rfl

instance : LawfulWire SubmissionStatus :=
  lawfulWire_choice (fun _ ↦ rfl) (fun _ ↦ rfl) fun s ↦ by cases s <;> rfl

instance : LawfulWire PaymentStatus :=
  lawfulWire_choice (fun _ ↦ rfl) (fun _ ↦ rfl) fun s ↦ by cases s <;> rfl

/-- The value of a setting is written as the only member of an object, under the name of its
kind. -/
instance : LawfulWire SettingValue where
  isPlain v := by
    cases v <;> exact isPlain_ofFields (by simp)
  ofJson?_reread v := by
    cases v with
    | bool b => exact congrArg (Option.map SettingValue.bool) (LawfulWire.ofJson?_reread b)
    | text s => exact congrArg (Option.map SettingValue.text) (LawfulWire.ofJson?_reread s)

/-! ### Records -/

instance : LawfulWire Event :=
  lawfulWire_record (fun _ ↦ rfl) (fun _ ↦ rfl) (by decide) (fun _ ↦ rfl) (by simp) (by simp)

instance : LawfulWire Vendor :=
  lawfulWire_record (fun _ ↦ rfl) (fun _ ↦ rfl) (by decide) (fun _ ↦ rfl) (by simp) (by simp)

instance : LawfulWire Submission :=
  lawfulWire_record (fun _ ↦ rfl) (fun _ ↦ rfl) (by decide) (fun _ ↦ rfl) (by simp) (by simp)

instance : LawfulWire Evaluation :=
  lawfulWire_record (fun _ ↦ rfl) (fun _ ↦ rfl) (by decide) (fun _ ↦ rfl) (by simp) (by simp)

instance : LawfulWire Payment :=
  lawfulWire_record (fun _ ↦ rfl) (fun _ ↦ rfl) (by decide) (fun _ ↦ rfl) (by simp) (by simp)

instance : LawfulWire User :=
  lawfulWire_record (fun _ ↦ rfl) (fun _ ↦ rfl) (by decide) (fun _ ↦ rfl) (by simp) (by simp)

instance : LawfulWire RoleRecord :=
  lawfulWire_record (fun _ ↦ rfl) (fun _ ↦ rfl) (by decide) (fun _ ↦ rfl) (by simp) (by simp)

instance : LawfulWire MenuRecord :=
  lawfulWire_record (fun _ ↦ rfl) (fun _ ↦ rfl) (by decide) (fun _ ↦ rfl) (by simp) (by simp)

instance : LawfulWire Permission :=
  lawfulWire_record (fun _ ↦ rfl) (fun _ ↦ rfl) (by decide) (fun _ ↦ rfl) (by simp) (by simp)

instance : LawfulWire SessionUser :=
  lawfulWire_record (fun _ ↦ rfl) (fun _ ↦ rfl) (by decide) (fun _ ↦ rfl) (by simp) (by simp)

/-- **Every record comes back from the text of its JSON form**, and so does all else that is sent or
kept in this form. -/
theorem LawfulWire.records_come_back :
    (∀ r : Event, (Json.read? (toJson r).toText).bind ofJson? = some r) ∧
    (∀ r : Vendor, (Json.read? (toJson r).toText).bind ofJson? = some r) ∧
    (∀ r : Submission, (Json.read? (toJson r).toText).bind ofJson? = some r) ∧
    (∀ r : Evaluation, (Json.read? (toJson r).toText).bind ofJson? = some r) ∧
    (∀ r : Payment, (Json.read? (toJson r).toText).bind ofJson? = some r) ∧
    (∀ r : User, (Json.read? (toJson r).toText).bind ofJson? = some r) ∧
    (∀ r : RoleRecord, (Json.read? (toJson r).toText).bind ofJson? = some r) ∧
    (∀ r : MenuRecord, (Json.read? (toJson r).toText).bind ofJson? = some r) ∧
    (∀ u : SessionUser, (Json.read? (toJson u).toText).bind ofJson? = some u) ∧
    (∀ p : Permission, (Json.read? (toJson p).toText).bind ofJson? = some p) ∧
    (∀ v : SettingValue, (Json.read? (toJson v).toText).bind ofJson? = some v) :=
  ⟨ofJson?_read?, ofJson?_read?, ofJson?_read?, ofJson?_read?, ofJson?_read?, ofJson?_read?,
    ofJson?_read?, ofJson?_read?, ofJson?_read?, ofJson?_read?, ofJson?_read?⟩

/-- A date that is missing is written as `null`, and a year before the year zero with a minus
sign. -/
example :
    (toJson (⟨7, "a\n\"b\"", "", ⟨-44, 3, 15, by decide⟩, none, .opened, -1⟩ : Event)).toText =
      "\x7b\"id\":7,\"title\":\"a\\n\\\"b\\\"\",\"location\":\"\",\"starts_on\":\"-0044-03-15\"," ++
        "\"ends_on\":null,\"status\":\"open\",\"submission_count\":-1\x7d" := by
  decide +kernel

example : (toJson Role.superadmin).toText = "\"superadmin\"" := by
  decide +kernel

end PitchDesk

import PitchDesk.Proofs.Service.Operation

/-!
# Refusals with data

A refusal need not bring any data, and what it brings need not be of the type that was asked for.
The envelope is read together with its data, though, before its status is looked at. So the message
of a refusal reaches the user if and only if the data is left out, `null` or of that type,
`Operation.run_of_refuses`. Otherwise the answer is told as one that cannot be read.

`Envelope.Refuses` speaks of all fields but the data, so that the data can be anything, and whether
it can be read is told apart from that by `Operation.readsData`. The condition is the same for all
that can be asked for, though what counts as readable differs: for a list of rows it is the type of
the rows, and where no data is asked for it is still some value that can be kept.
-/

namespace PitchDesk.Operation

open Envelope (Refuses refusalText)

variable {α : Type} {c : Client} {send : Client.Transport} {r : Response} {f : Wire.Fields}
  {message : Option String}

/-- What the answer is called in messages. -/
def what : Operation α → String
  | .login _ => "login"
  | .changePassword _ => "password change"
  | .menus => "menu"
  | .page resource _ => resource.code
  | .delete _ _ => "delete"
  | .upload _ _ _ _ => "upload"

/-- Whether the data among some fields is left out, `null` or of the type that is read. Where no
data is asked for, any is read that is not nested too deep and in which every text and number can
be represented. -/
def readsData : Operation α → Wire.Fields → Bool
  | .login _ => Envelope.hasData SignIn
  | .menus => Envelope.hasData (List MenuRecord)
  | .page resource _ => Envelope.hasData (Rows resource)
  | .changePassword _ => Envelope.hasData Data
  | .delete _ _ => Envelope.hasData Data
  | .upload _ _ _ _ => Envelope.hasData Data

theorem expectDone_of_refuses (hf : Envelope.fields? r.body = some f) (hr : Refuses f message)
    (what : String) :
    r.expectDone what =
      .error (if Envelope.hasData Data f then .rejected (refusalText message)
        else .undecodable what) := by
  have hblank : Text.isBlankText r.body = false := by
    rw [← Bool.not_eq_true]
    intro hblank
    rw [Envelope.fields?, Json.read?_of_isBlankText hblank] at hf
    cases hf
  rw [Response.expectDone_of_not_blank hblank, Envelope.accepted_of_refuses hf hr]
  rfl

/-- A refusal is read like any answer: with its message if its data can be read. -/
theorem accept_of_refuses (op : Operation α) (hf : Envelope.fields? r.body = some f)
    (hr : Refuses f message) :
    op.accept r =
      .error (if op.readsData f then .rejected (refusalText message)
        else .undecodable op.what) := by
  cases op with
  | login _ | menus | page _ _ =>
    rw [accept, Envelope.accepted_of_refuses hf hr]
    rfl
  | changePassword _ | delete _ _ | upload _ _ _ _ => exact expectDone_of_refuses hf hr _

/-- A refusal with data that cannot be read is told as an answer that cannot be read. -/
theorem run_of_not_readsData (op : Operation α) (h : op.Answered c send r)
    (hsuccess : r.isSuccess = true)
    (hr : ∃ f ∈ Envelope.fields? r.body, Refuses f message ∧ op.readsData f = false) :
    op.run c send = .error (.undecodable op.what) := by
  obtain ⟨f, hf, hr, hdata⟩ := hr
  rw [op.run_eq h, hsuccess, if_pos rfl, op.accept_of_refuses hf hr, hdata]
  rfl

/-- **A refusal is told with its message if and only if its data can be read.** Otherwise it is told
as an answer that cannot be read. -/
theorem run_of_refuses (op : Operation α) (h : op.Answered c send r)
    (hsuccess : r.isSuccess = true) (hf : f ∈ Envelope.fields? r.body) (hr : Refuses f message) :
    op.run c send =
      .error (if op.readsData f then .rejected (refusalText message)
        else .undecodable op.what) := by
  rw [op.run_eq h, hsuccess, if_pos rfl, op.accept_of_refuses hf hr]

/-- An answer that refuses with the given data. -/
def refusal (data : String) : Response :=
  ⟨200, "\x7b\"status\":false,\"message\":\"token expired\",\"data\":" ++ data ++ "\x7d"⟩

/-- A refusal without data is told with its message. -/
theorem refusal_is_told :
    menus.Answered sampleClient (answering (refusal "null")) (refusal "null") ∧
      (∃ f ∈ Envelope.fields? (refusal "null").body, Refuses f (some "token expired")) ∧
      menus.run sampleClient (answering (refusal "null")) = .error (.rejected "token expired") := by
  have hanswered : menus.Answered sampleClient (answering (refusal "null")) (refusal "null") :=
    ⟨_, rfl, rfl, rfl⟩
  have hrefusal : ∃ f ∈ Envelope.fields? (refusal "null").body,
      Refuses f (some "token expired") ∧ menus.readsData f = true := by
    decide +kernel
  obtain ⟨f, hf, hr, hdata⟩ := hrefusal
  refine ⟨hanswered, ⟨f, hf, hr⟩, ?_⟩
  rw [menus.run_of_refuses hanswered rfl hf hr, if_pos hdata]
  decide +kernel

/-- The message of a refusal is lost if there is data with it that cannot be read: an object in
place of a list, or, where no data is asked for at all, a number that is too great. -/
theorem refusal_with_other_data_is_lost :
    (∃ f ∈ Envelope.fields? (refusal "\x7b\x7d").body, Refuses f (some "token expired")) ∧
      menus.run sampleClient (answering (refusal "\x7b\x7d")) = .error (.undecodable "menu") ∧
      (∃ f ∈ Envelope.fields? (refusal "1e999").body, Refuses f (some "token expired")) ∧
      (delete .events 7).run sampleClient (answering (refusal "1e999")) =
        .error (.undecodable "delete") := by
  have hobject : ∃ f ∈ Envelope.fields? (refusal "\x7b\x7d").body,
      Refuses f (some "token expired") ∧ menus.readsData f = false := by
    decide +kernel
  have hnumber : ∃ f ∈ Envelope.fields? (refusal "1e999").body,
      Refuses f (some "token expired") ∧ (delete .events 7).readsData f = false := by
    decide +kernel
  refine ⟨?_, ?_, ?_, ?_⟩
  · obtain ⟨f, hf, hr, -⟩ := hobject
    exact ⟨f, hf, hr⟩
  · exact menus.run_of_not_readsData ⟨_, rfl, rfl, rfl⟩ rfl hobject
  · obtain ⟨f, hf, hr, -⟩ := hnumber
    exact ⟨f, hf, hr⟩
  · exact (delete .events 7).run_of_not_readsData ⟨_, rfl, rfl, rfl⟩ rfl hnumber

end PitchDesk.Operation

import PitchDesk.Proofs.Service.Envelope
import PitchDesk.Service.Client

/-!
# What comes of an answer

Answers are read along three routes: the data that was asked for is read together with its
envelope, an answer that brings no data may also be blank, and of an answer without success only a
message is read. `Operation` lists what the service can be asked for, so that one law can be stated
for all of it.

* `Operation.run_eq`: an answer of success is read, any other is a failure;
* `Response.tells_iff`: the words that such a failure is told with;
* `Operation.accept_eq_ok_iff`: which answers bring a result, and which one;
* `Operation.run_of_answered`: all of this for what is asked for and answered, and that no refusal
  is ever taken for success or told without words;
* `Operation.run_of_mark`: a byte order mark before the text of an answer keeps it from succeeding.

## From operations to calls

What a client sends differs from one operation to the next, and how it reads what comes differs in
few ways. `Operation.accept` is that part alone: it knows neither the client nor the request, and
`Operation.accept_eq` says that the call of every operation reads its answer by it. An operation
that cannot be put into a call, as an upload of a file that is not there, is not answered, so
`Operation.Answered` is the hypothesis of all that follows.

The body of an answer is one text for all routes, as the connection has delivered it. A byte order
mark belongs to it: it is not blank, and no JSON begins with it.
-/

namespace PitchDesk

variable {α : Type} {c : Client} {send : Client.Transport} {r : Response} {m : String}

/-! ### Messages of answers without success -/

namespace Response

/-- Nothing in an answer is a message for the user. -/
def Silent (r : Response) : Prop :=
  ∀ e : Envelope Data, Envelope.Holds r.body e → e.message? = none

/-- The text of an answer can stand as a message: it is short and does not look like data. -/
def Terse (r : Response) : Prop :=
  Text.trim r.body ≠ "" ∧ (Text.trim r.body).utf8ByteSize < 100 ∧
    '\x7b' ∉ (Text.trim r.body).toList

instance (r : Response) : Decidable r.Terse :=
  inferInstanceAs (Decidable (_ ∧ _ ∧ _))

/-- The message that an answer without success is told with: the one in it, or else its text if that
can stand as a message, or else what its status code says. -/
inductive Tells (r : Response) : String → Prop
  | message {e : Envelope Data} {m : String} (holds : Envelope.Holds r.body e)
      (said : e.message = some m) (notBlank : Text.isBlankText m = false) : Tells r m
  | text (silent : r.Silent) (terse : r.Terse) : Tells r (Text.trim r.body)
  | phrase (silent : r.Silent) (long : ¬r.Terse) :
    Tells r ((reason? r.status).getD "unexpected response")

/-- Without a message, an answer is told with its own text or with what its code says. -/
theorem failureMessage_of_silent (h : r.Silent) :
    failureMessage r.status r.body =
      if r.Terse then Text.trim r.body
      else (reason? r.status).getD "unexpected response" := by
  have hnone : (Envelope.read? (α := Data) r.body).bind (·.message?) = none := by
    rw [Option.bind_eq_none_iff]
    exact fun e hread ↦ h e (Envelope.read?_eq_some_iff.1 hread)
  rw [failureMessage, hnone]
  simp only [Terse, Bool.and_eq_true, Bool.not_eq_true', decide_eq_true_eq,
    String.isEmpty_eq_false_iff, List.contains_eq_mem, decide_eq_false_iff_not, ne_eq, and_assoc]
  rfl

/-- The words of a failure are those that the answer tells. -/
theorem tells_iff : r.Tells m ↔ failureMessage r.status r.body = m := by
  constructor
  · rintro (⟨hholds, hsaid, hblank⟩ | ⟨hsilent, hterse⟩ | ⟨hsilent, hlong⟩)
    · have hm := Envelope.message?_eq_some_iff.2 ⟨hsaid, hblank⟩
      rw [failureMessage, Envelope.read?_eq_some_iff.2 hholds, Option.bind_some, hm]
    · rw [failureMessage_of_silent hsilent, if_pos hterse]
    · rw [failureMessage_of_silent hsilent, if_neg hlong]
  · rintro rfl
    by_cases hsilent : r.Silent
    · rw [failureMessage_of_silent hsilent]
      split
      · exact .text hsilent ‹_›
      · exact .phrase hsilent ‹_›
    · simp only [Silent, not_forall] at hsilent
      obtain ⟨e, hholds, hm⟩ := hsilent
      obtain ⟨m, hm⟩ := Option.ne_none_iff_exists'.1 hm
      obtain ⟨hsaid, hblank⟩ := Envelope.message?_eq_some_iff.1 hm
      rw [failureMessage, Envelope.read?_eq_some_iff.2 hholds, Option.bind_some, hm]
      exact .message hholds hsaid hblank

/-- What a status code says is not blank. -/
theorem isBlankText_of_reason? {n : Nat} {s : String} (h : reason? n = some s) :
    Text.isBlankText s = false := by
  unfold reason? at h
  split at h <;> cases h <;> decide +kernel

/-- No answer without success is told without words. -/
theorem Tells.notBlank (h : r.Tells m) : Text.isBlankText m = false := by
  cases h with
  | message _ _ hblank => exact hblank
  | text _ hterse => exact Text.isBlankText_trim hterse.1
  | phrase =>
    cases hn : reason? r.status with
    | none => decide +kernel
    | some s => exact isBlankText_of_reason? hn

/-! ### Answers of success -/

/-- An answer tells that what was asked for is done. -/
def Done (r : Response) : Prop :=
  Text.isBlankText r.body = true ∨
    ∃ e : Envelope Data, Envelope.Holds r.body e ∧ e.status = true

/-- What is not blank must be an envelope that tells of success. -/
theorem expectDone_of_not_blank (h : Text.isBlankText r.body = false) (what : String) :
    r.expectDone what = do
      let _ ← Envelope.accepted Data r.body what
      return () := by
  rw [expectDone, h, Envelope.accepted]
  cases Envelope.read? (α := Data) r.body with
  | none => rfl
  | some e =>
    simp only [Envelope.checked]
    cases e.status <;> rfl

/-- An answer without data is accepted if it tells that all is done. -/
theorem expectDone_eq_ok_iff {what : String} : r.expectDone what = .ok () ↔ r.Done := by
  cases hblank : Text.isBlankText r.body with
  | true => simp [expectDone, Done, hblank]
  | false =>
    rw [expectDone_of_not_blank hblank, Envelope.accepted_bind_eq_ok_iff]
    simp [Done, hblank, pure, Except.pure]

theorem isBlankText_of_expectDone {what : String} (h : r.expectDone what = .error (.rejected m)) :
    Text.isBlankText m = false := by
  cases hblank : Text.isBlankText r.body with
  | true => simp [expectDone, hblank] at h
  | false =>
    rw [expectDone_of_not_blank hblank] at h
    exact Envelope.isBlankText_of_accepted_bind h fun _ ↦ nofun

end Response

/-! ### Operations -/

/-- What the service can be asked for, with the type of what that brings. -/
inductive Operation : Type → Type where
  | login (form : LoginForm) : Operation Session
  | changePassword (form : PasswordForm) : Operation Unit
  | menus : Operation (List MenuRecord)
  | page (resource : Resource) (p : PageRequest) : Operation (Page Record)
  | delete (resource : Resource) (id : Int64) : Operation Unit
  | upload (files : FileTree) (resource : Resource) (id : Int64) (u : Upload) : Operation Unit

namespace Operation

/-- The call of a client that asks for something, if there is one. -/
def call (c : Client) : Operation α → Except ServiceError (Call α)
  | .login form => .ok (c.login form)
  | .changePassword form => c.changePassword form
  | .menus => .ok c.menus
  | .page resource p => .ok (c.page resource p)
  | .delete resource id => .ok (c.delete resource id)
  | .upload files resource id u => c.upload files resource id u

/-- What comes of asking for something. -/
def run (op : Operation α) (c : Client) (send : Client.Transport) : Except ServiceError α := do
  c.perform send (← op.call c)

/-- Something is asked for and an answer comes. -/
def Answered (op : Operation α) (c : Client) (send : Client.Transport) (r : Response) : Prop :=
  ∃ call, op.call c = .ok call ∧ call.request.fault? = none ∧ send call.request = .ok r

/-- The session that the data of an answer opens. -/
def opened : Option SignIn → Except ServiceError Session
  | none => .error (.noData "login")
  | some s =>
    if Text.isBlankText s.token then .error .emptyToken
    else .ok (.ofGrants s.token s.user s.permissions)

/-- How an answer of success is read. -/
def accept : Operation α → Response → Except ServiceError α
  | .login _, r => do opened (← Envelope.accepted SignIn r.body "login").data
  | .menus, r => do
    return (← Envelope.accepted (List MenuRecord) r.body "menu").data.getD []
  | .page resource _, r => do
    let e ← Envelope.accepted (Rows resource) r.body resource.code
    return ⟨(e.data.map (·.rows)).getD [], e.totalData, e.totalPages⟩
  | .changePassword _, r => r.expectDone "password change"
  | .delete _ _, r => r.expectDone "delete"
  | .upload _ _ _ _, r => r.expectDone "upload"

theorem accept_login (form : LoginForm) : (c.login form).accept r = (login form).accept r := by
  simp only [Client.login, accept, Envelope.accepted, Response.envelope, Envelope.required]
  cases Envelope.read? (α := SignIn) r.body with
  | none => rfl
  | some e =>
    obtain ⟨status, data, _, _, _⟩ := e
    cases status with
    | false => rfl
    | true =>
      cases data with
      | none => rfl
      | some s =>
        simp only [Envelope.checked, opened]
        cases Text.isBlankText s.token <;> rfl

theorem accept_menus : c.menus.accept r = menus.accept r := by
  simp only [Client.menus, accept, Envelope.accepted, Response.envelope]
  cases Envelope.read? (α := List MenuRecord) r.body <;> rfl

theorem accept_page (resource : Resource) (p : PageRequest) :
    (c.page resource p).accept r = (page resource p).accept r := by
  simp only [Client.page, accept, Envelope.accepted, Response.envelope]
  cases Envelope.read? (α := Rows resource) r.body <;> rfl

/-- Every call reads its answer the way of its operation. -/
theorem accept_eq (op : Operation α) {call : Call α} (h : op.call c = .ok call) (r : Response) :
    call.accept r = op.accept r := by
  cases op with
  | login form =>
    cases h
    exact accept_login form
  | changePassword form =>
    rw [Operation.call, Client.changePassword] at h
    split at h
    · cases h
    · cases h
      rfl
  | menus =>
    cases h
    exact accept_menus
  | page resource p =>
    cases h
    exact accept_page resource p
  | delete resource id =>
    cases h
    rfl
  | upload files resource id u =>
    rw [Operation.call, Client.upload] at h
    split at h
    · cases h
    · cases h
      rfl

/-- An answer without success is a failure, and any other is read. -/
theorem run_eq (op : Operation α) (h : op.Answered c send r) :
    op.run c send = if r.isSuccess then op.accept r else .error r.failure := by
  obtain ⟨call, hcall, hfault, hsend⟩ := h
  rw [run, hcall, ← op.accept_eq hcall]
  show c.perform send call = _
  rw [Client.perform, Client.exchange, hfault, hsend]

/-! ### Results -/

/-- A session is opened by data with a token. -/
theorem opened_eq_ok_iff {data : Option SignIn} {session : Session} :
    opened data = .ok session ↔ ∃ s, data = some s ∧ Text.isBlankText s.token = false ∧
      .ofGrants s.token s.user s.permissions = session := by
  cases data with
  | none => simp [opened]
  | some s => cases hblank : Text.isBlankText s.token <;> simp [opened, hblank]

theorem opened_ne_rejected {data : Option SignIn} : opened data ≠ .error (.rejected m) := by
  cases data with
  | none => simp [opened]
  | some s => cases hblank : Text.isBlankText s.token <;> simp [opened, hblank]

/-- What an answer of success brings. Data that is left out or `null` stands for no rows, but nobody
is signed in without data and a token. -/
def Brings : Operation α → Response → α → Prop
  | .login _, r, session => ∃ (e : Envelope SignIn) (s : SignIn),
    Envelope.Holds r.body e ∧ e.status = true ∧ e.data = some s ∧
      Text.isBlankText s.token = false ∧ Session.ofGrants s.token s.user s.permissions = session
  | .menus, r, records => ∃ e : Envelope (List MenuRecord),
    Envelope.Holds r.body e ∧ e.status = true ∧ e.data.getD [] = records
  | .page resource _, r, p => ∃ e : Envelope (Rows resource),
    Envelope.Holds r.body e ∧ e.status = true ∧
      (⟨(e.data.map (·.rows)).getD [], e.totalData, e.totalPages⟩ : Page Record) = p
  | .changePassword _, r, _ => r.Done
  | .delete _ _, r, _ => r.Done
  | .upload _ _ _ _, r, _ => r.Done

/-- An answer of success is accepted exactly if it brings a result. -/
theorem accept_eq_ok_iff {op : Operation α} {a : α} : op.accept r = .ok a ↔ op.Brings r a := by
  cases op with
  | login _ =>
    simp only [accept, Brings, Envelope.accepted_bind_eq_ok_iff, opened_eq_ok_iff]
    constructor
    · rintro ⟨e, hholds, hs, s, hdata, hblank, rfl⟩
      exact ⟨e, s, hholds, hs, hdata, hblank, rfl⟩
    · rintro ⟨e, s, hholds, hs, hdata, hblank, rfl⟩
      exact ⟨e, hholds, hs, s, hdata, hblank, rfl⟩
  | menus | page _ _ =>
    simp only [accept, Brings, Envelope.accepted_bind_eq_ok_iff, pure, Except.pure,
      Except.ok.injEq]
  | changePassword _ | delete _ _ | upload _ _ _ _ => exact Response.expectDone_eq_ok_iff

/-- A result comes from a blank answer or from one that states success. -/
theorem Brings.status? {op : Operation α} {a : α} (h : op.Brings r a) :
    Text.isBlankText r.body = true ∨ Envelope.status? r.body = some true := by
  have hholds {β : Type} [Wire β] {e : Envelope β} (h : Envelope.Holds r.body e)
      (hs : e.status = true) : Envelope.status? r.body = some true := by
    rw [h.status?_eq, hs]
  have hdone (h : r.Done) :
      Text.isBlankText r.body = true ∨ Envelope.status? r.body = some true := by
    refine h.imp_right ?_
    rintro ⟨e, he, hs⟩
    exact hholds he hs
  cases op with
  | login _ =>
    obtain ⟨e, s, he, hs, -⟩ := h
    exact .inr (hholds he hs)
  | menus | page _ _ =>
    obtain ⟨e, he, hs, -⟩ := h
    exact .inr (hholds he hs)
  | changePassword _ | delete _ _ | upload _ _ _ _ => exact hdone h

/-- Nothing is told as refused without words. -/
theorem isBlankText_of_accept {op : Operation α} (h : op.accept r = .error (.rejected m)) :
    Text.isBlankText m = false := by
  cases op with
  | login _ => exact Envelope.isBlankText_of_accepted_bind h fun _ ↦ opened_ne_rejected
  | menus | page _ _ => exact Envelope.isBlankText_of_accepted_bind h fun _ ↦ nofun
  | changePassword _ | delete _ _ | upload _ _ _ _ => exact Response.isBlankText_of_expectDone h

/-- **What comes of an answer.** Whatever is asked for and whatever the answer is:
1. an answer without success is told with its status code and words that are never blank;
2. an answer of success succeeds if and only if it brings a result, and with that result;
3. nothing succeeds if the answer states the status `false`;
4. no refusal is told without words. -/
theorem run_of_answered (op : Operation α) (h : op.Answered c send r) :
    (r.isSuccess = false → ∃ m, r.Tells m ∧ Text.isBlankText m = false ∧
      op.run c send = .error (.status r.status m)) ∧
    (r.isSuccess = true → ∀ a, op.run c send = .ok a ↔ op.Brings r a) ∧
    (Envelope.status? r.body = some false → ∀ a, op.run c send ≠ .ok a) ∧
    ∀ m, op.run c send = .error (.rejected m) → Text.isBlankText m = false := by
  rw [op.run_eq h]
  cases hsuccess : r.isSuccess with
  | false =>
    have htells : r.Tells (Response.failureMessage r.status r.body) := Response.tells_iff.2 rfl
    refine ⟨fun _ ↦ ⟨_, htells, htells.notBlank, rfl⟩, ?_, ?_, ?_⟩ <;>
      simp [Response.failure, Response.failureOf]
  | true =>
    simp only [reduceIte, Bool.true_eq_false, false_implies, true_implies, true_and]
    refine ⟨fun a ↦ accept_eq_ok_iff, ?_, fun m hm ↦ isBlankText_of_accept hm⟩
    intro hrefusal a ha
    obtain hblank | hstatus := (accept_eq_ok_iff.1 ha).status?
    · rw [Envelope.status?_of_isBlankText hblank] at hrefusal
      cases hrefusal
    · rw [hstatus] at hrefusal
      cases hrefusal

/-- Nothing succeeds if a byte order mark stands before the text of the answer. Such a text is
neither blank nor JSON. -/
theorem run_of_mark (op : Operation α) (h : op.Answered c send r) {cs : List Char}
    (hmark : r.body.toList = '\uFEFF' :: cs) (a : α) : op.run c send ≠ .ok a := by
  rw [op.run_eq h]
  split
  · intro ha
    obtain hblank | hstatus := (accept_eq_ok_iff.1 ha).status?
    · have hletter : Text.isBlank '\uFEFF' = false := by decide
      simp [Text.isBlankText, hmark, hletter] at hblank
    · rw [Envelope.status?, Envelope.fields?, Json.read?_of_mark hmark] at hstatus
      cases hstatus
  · intro ha
    cases ha

/-- A client that nobody has signed in with, of a service at some address. -/
def sampleClient : Client where
  baseUrl := ⟨true, [], [], "desk.test".toList, none, [[]], none, none⟩
  token := none

/-- A transport that brings the same answer to every request. -/
def answering (r : Response) : Client.Transport :=
  fun _ ↦ .ok r

/-- What a gateway answers when the service is down. -/
def badGateway : Response :=
  ⟨502, " upstream down "⟩

/-- An answer with a role and the totals of the list that it stands in. -/
def oneRole : Response :=
  ⟨200, "\x7b\"status\":true,\"data\":[\x7b\"id\":7,\"name\":\"scout\"\x7d]," ++
    "\"total_data\":11,\"total_pages\":2\x7d"⟩

/-- An answer without success and without data is told with its own text, and one with rows brings
them with their totals. -/
theorem answers_are_told :
    menus.Answered sampleClient (answering badGateway) badGateway ∧
      menus.run sampleClient (answering badGateway) = .error (.status 502 "upstream down") ∧
      (page .roles ⟨1, 1, 10, ""⟩).Answered sampleClient (answering oneRole) oneRole ∧
      (page .roles ⟨1, 1, 10, ""⟩).run sampleClient (answering oneRole) =
        .ok ⟨[.role ⟨7, "scout", "", 0⟩], some 11, some 2⟩ := by
  have hfailure : menus.Answered sampleClient (answering badGateway) badGateway :=
    ⟨_, rfl, rfl, rfl⟩
  obtain ⟨m, htells, -, hrun⟩ := (menus.run_of_answered hfailure).1 rfl
  have hm : m = "upstream down" := by
    rw [← Response.tells_iff.1 htells]
    decide +kernel
  have hrows : (page .roles ⟨1, 1, 10, ""⟩).Answered sampleClient (answering oneRole) oneRole :=
    ⟨_, rfl, rfl, rfl⟩
  have hholds : Envelope.Holds oneRole.body
      ⟨true, some (⟨[.role ⟨7, "scout", "", 0⟩]⟩ : Rows .roles), none, some 11, some 2⟩ := by
    rw [← Envelope.read?_eq_some_iff]
    decide +kernel
  refine ⟨hfailure, ?_, hrows,
    ((run_of_answered _ hrows).2.1 rfl _).2 ⟨_, hholds, rfl, rfl⟩⟩
  rw [hrun, hm]
  rfl

end Operation

end PitchDesk

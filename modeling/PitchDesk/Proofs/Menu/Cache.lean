import PitchDesk.Proofs.Service.Operation
import PitchDesk.Service.Backend

/-!
# Menus that are kept

Loading the menu of a user again need not ask the service again. What is kept depends on what came
of the loads before, and on when they took place, so the statements are about runs: along a run the
log notes when the menu was loaded, what came of asking if the service was asked, and that the user
signed out. `Backend.Kept` reads off a log which answer is the one to be kept.

* `Backend.Run.entry_eq_some_iff`: the entry of the cache is the answer that the log says is kept;
* `Backend.menu_of_run`: when the service is asked for the menu, and which menu is shown;
* `Backend.nothing_sent_with_control_token`: where the token cannot be sent, nothing is asked.

The time that a clock shows may go back. So an answer that was too old once may be good again: it
stays in the cache until a newer one takes its place.

Which requests were sent is part of what a load gives (`Client.Exchange`), and is not read off how
the load went. That a load depends on nothing but the answers to these requests, for every other
transport too, says that the list of them is complete. A request that cannot be written is none: a
token with a control character has no place in a header, and then there is an exchange in which
nothing is sent.
-/

namespace PitchDesk

/-! ### What is sent -/

namespace Client

variable {α : Type} {c : Client} {send send' : Transport} {call : Call α}

/-- What a call sends is its own request, unless that cannot be written. -/
theorem sent_exchange :
    (c.exchange send call).sent = if call.request.fault? = none then [call.request] else [] := by
  rw [exchange]
  cases call.request.fault? <;> rfl

/-- What comes of a call depends on nothing but the answers to what it sends. -/
theorem exchange_congr (h : ∀ r ∈ (c.exchange send call).sent, send' r = send r) :
    c.exchange send' call = c.exchange send call := by
  rw [exchange, exchange]
  cases hfault : call.request.fault? with
  | some cause => rfl
  | none => rw [h _ (by simp [sent_exchange, hfault])]

/-- A client can write its token, if it has one, into the header of a request. -/
def canAsk (c : Client) : Bool :=
  c.token.all fun token ↦ !token.toList.any Request.isForbiddenInHeader

/-- The request for the menu can be written exactly if the token can. -/
theorem fault?_menus (c : Client) :
    c.menus.request.fault? = if c.canAsk then none else some "builder error" := by
  have hbearer (token : String) : ("Bearer " ++ token).toList.any Request.isForbiddenInHeader =
      token.toList.any Request.isForbiddenInHeader := by
    rw [String.toList_append, List.any_append]
    rfl
  obtain ⟨baseUrl, _ | token⟩ := c
  · rfl
  · simp only [menus, request, Request.fault?, Request.authorization?, canAsk, Option.map_some,
      Option.any_some, Option.all_some, hbearer]
    by_cases h : token.toList.any Request.isForbiddenInHeader = true <;> simp [h]

/-- Asking for the menu sends one request, or none if it cannot be written. -/
theorem sent_menus :
    (c.exchange send c.menus).sent = if c.canAsk then [c.menus.request] else [] := by
  rw [sent_exchange, fault?_menus]
  cases c.canAsk <;> rfl

/-- Nothing comes of a call that cannot be written. -/
theorem toOption_perform_menus (h : c.canAsk = false) :
    (c.perform send c.menus).toOption = none := by
  rw [perform, exchange, fault?_menus, h]
  rfl

end Client

namespace Menu

/-- A menu is from the service exactly if the service sent some records. -/
theorem source_resolve_eq_server_iff {role : Role} {fetched : Option (List MenuRecord)} :
    (resolve role fetched).source = .server ↔ ∃ r rs, fetched = some (r :: rs) := by
  rcases fetched with - | - | ⟨r, rs⟩ <;> simp [resolve]

end Menu

/-- A menu is in the cache exactly for the user that it was kept for, until it is too old. -/
theorem MenuCache.get?_eq_some_iff {c : MenuCache} {user : Int64} {now : Int}
    {menu : Menu.Resolved} :
    c.get? user now = some menu ↔
      ∃ time, c.entry = some ⟨user, time, menu⟩ ∧ now - time ≤ c.lifetime := by
  rw [get?]
  cases c.entry with
  | none => simp
  | some e =>
    obtain ⟨user', time, menu'⟩ := e
    dsimp only
    split
    · rename_i huser
      refine ⟨nofun, ?_⟩
      rintro ⟨_, ⟨⟩, -⟩
      exact absurd rfl huser
    · rename_i huser
      obtain rfl := not_ne_iff.1 huser
      split
      · rename_i hold
        refine ⟨nofun, ?_⟩
        rintro ⟨_, ⟨⟩, hgood⟩
        exact absurd hold (Int.not_lt.2 hgood)
      · rename_i hgood
        constructor
        · rintro ⟨⟩
          exact ⟨time, rfl, Int.not_lt.1 hgood⟩
        · rintro ⟨_, ⟨⟩, -⟩
          rfl

namespace Backend

variable {start b : Backend} {send send' : Client.Transport} {now : Int}

/-- The requests that loading the menu sends. -/
def sent (b : Backend) (send : Client.Transport) (now : Int) : List Request :=
  ((b.loadMenu send now).1.exchange?.map (·.sent)).getD []

/-- What comes of asking for the menu, if it is asked for. -/
def answer? (b : Backend) (send : Client.Transport) (now : Int) :
    Option (Except ServiceError (List MenuRecord)) :=
  (b.loadMenu send now).1.exchange?.map (·.result)

/-! ### One load -/

/-- A menu that is in the cache and not too old is loaded without asking. -/
theorem loadMenu_of_kept {menu : Menu.Resolved}
    (h : b.menus.get? b.session.user.id now = some menu) :
    b.loadMenu send now = (⟨menu, none⟩, b) := by
  rw [loadMenu, h]

/-- Else the service is asked, and what comes of it decides on the menu. -/
theorem loadMenu_of_not_kept (h : b.menus.get? b.session.user.id now = none) :
    (b.loadMenu send now).1 =
      ⟨Menu.resolve b.session.user.role (b.client.perform send b.client.menus).toOption,
        some (b.client.exchange send b.client.menus)⟩ := by
  rw [loadMenu, h]
  rfl

/-- Records that come take the place of what the cache held. -/
theorem loadMenu_of_records {r : MenuRecord} {rs : List MenuRecord}
    (h : b.menus.get? b.session.user.id now = none)
    (hans : b.client.perform send b.client.menus = .ok (r :: rs)) :
    (b.loadMenu send now).2 = { b with
      menus := b.menus.store b.session.user.id ⟨.server, Menu.hierarchy (r :: rs)⟩ now } := by
  rw [Client.perform] at hans
  simp only [loadMenu, h, hans]
  rfl

/-- What comes otherwise leaves it there, even if it is too old. -/
theorem loadMenu_of_no_records (h : b.menus.get? b.session.user.id now = none)
    (hans : ∀ r rs, b.client.perform send b.client.menus ≠ .ok (r :: rs)) :
    (b.loadMenu send now).2 = b := by
  have hsource : (Menu.resolve b.session.user.role
      (b.client.perform send b.client.menus).toOption).source ≠ .server := by
    intro hserver
    obtain ⟨r, rs, hfetched⟩ := Menu.source_resolve_eq_server_iff.1 hserver
    cases hans' : b.client.perform send b.client.menus with
    | error cause => simp [hans', Except.toOption] at hfetched
    | ok records =>
      rw [hans'] at hfetched
      cases hfetched
      exact hans r rs hans'
  rw [Client.perform] at hsource
  simp only [loadMenu, h, if_neg hsource]

/-! ### Runs -/

/-- What is noted of a session with a menu. -/
inductive Event where
  | loaded (now : Int) (answer : Option (Except ServiceError (List MenuRecord)))
  | signedOut

/-- A run of loads and sign-outs, from a cache that holds nothing. Every load has its own time and
its own transport. -/
inductive Run (start : Backend) : Backend → List Event → Prop where
  | new (empty : start.menus.entry = none) : Run start start []
  | load {b : Backend} {log : List Event} (before : Run start b log) (send : Client.Transport)
    (now : Int) : Run start (b.loadMenu send now).2 (log ++ [.loaded now (b.answer? send now)])
  | logout {b : Backend} {log : List Event} (before : Run start b log) :
    Run start b.logout (log ++ [.signedOut])

/-- After an event nothing that came before it is kept: the user signed out, or records came. -/
def Event.Supersedes : Event → Prop
  | .signedOut => True
  | .loaded _ answer => ∃ r rs, answer = some (.ok (r :: rs))

/-- Since the user last signed out some records came, and the latest that did came at a time. -/
def Kept (log : List Event) (time : Int) (records : List MenuRecord) : Prop :=
  records ≠ [] ∧ ∃ before after, log = before ++ .loaded time (some (.ok records)) :: after ∧
    ∀ e ∈ after, ¬e.Supersedes

variable {log : List Event} {time : Int} {records : List MenuRecord} {e : Event}

theorem not_kept_nil : ¬Kept [] time records := by
  rintro ⟨-, before, after, hlog, -⟩
  simp at hlog

/-- After an event, an answer is kept if it has just come with records, or was kept before and is
not superseded. -/
theorem kept_concat : Kept (log ++ [e]) time records ↔
    (records ≠ [] ∧ e = .loaded time (some (.ok records))) ∨
      (¬e.Supersedes ∧ Kept log time records) := by
  constructor
  · rintro ⟨hne, before, after, hlog, hafter⟩
    rcases after.eq_nil_or_concat with rfl | ⟨after, last, rfl⟩
    · obtain ⟨-, he⟩ := List.append_inj' hlog rfl
      exact .inl ⟨hne, List.singleton_inj.1 he⟩
    · rw [List.concat_eq_append, ← List.cons_append, ← List.append_assoc] at hlog
      obtain ⟨rfl, he⟩ := List.append_inj' hlog rfl
      obtain rfl := List.singleton_inj.1 he
      exact .inr ⟨hafter e (by simp), hne, before, after, rfl,
        fun e' he' ↦ hafter e' (by simp [he'])⟩
  · rintro (⟨hne, rfl⟩ | ⟨he, hne, before, after, rfl, hafter⟩)
    · exact ⟨hne, log, [], rfl, nofun⟩
    · refine ⟨hne, before, after ++ [e], by simp, fun e' he' ↦ ?_⟩
      rcases List.mem_append.1 he' with he' | he'
      · exact hafter e' he'
      · rwa [List.mem_singleton.1 he']

/-- After records came, they are what is kept. -/
theorem kept_records {now : Int} {r : MenuRecord} {rs : List MenuRecord} :
    Kept (log ++ [.loaded now (some (.ok (r :: rs)))]) time records ↔
      time = now ∧ records = r :: rs := by
  rw [kept_concat]
  constructor
  · rintro (⟨-, hloaded⟩ | ⟨hnone, -⟩)
    · cases hloaded
      exact ⟨rfl, rfl⟩
    · exact absurd ⟨r, rs, rfl⟩ hnone
  · rintro ⟨rfl, rfl⟩
    exact .inl ⟨List.cons_ne_nil r rs, rfl⟩

/-- After anything but records and a sign-out, the same is kept as before. -/
theorem kept_of_not_supersedes (he : ¬e.Supersedes) :
    Kept (log ++ [e]) time records ↔ Kept log time records := by
  rw [kept_concat]
  refine ⟨?_, fun hkept ↦ .inr ⟨he, hkept⟩⟩
  rintro (⟨hne, rfl⟩ | ⟨-, hkept⟩)
  · obtain ⟨r, rs, rfl⟩ := List.exists_cons_of_ne_nil hne
    exact absurd ⟨r, rs, rfl⟩ he
  · exact hkept

/-- After a sign-out nothing is kept. -/
theorem not_kept_of_signed_out : ¬Kept (log ++ [.signedOut]) time records := by
  simp [kept_concat, Event.Supersedes]

/-- Along a run the user and the lifetime of the menu stay, and so does the client but for its
token. -/
theorem Run.frame (h : Run start b log) :
    b.session = start.session ∧ b.menus.lifetime = start.menus.lifetime ∧
      (b.client = start.client ∨ b.client = { start.client with token := none }) := by
  induction h with
  | new => exact ⟨rfl, rfl, .inl rfl⟩
  | @load b log before send now ih =>
    have hload : ∃ menus, (b.loadMenu send now).2 = { b with menus := menus } ∧
        menus.lifetime = b.menus.lifetime := by
      rw [loadMenu]
      split
      · exact ⟨_, rfl, rfl⟩
      · refine ⟨_, rfl, ?_⟩
        split <;> rfl
    obtain ⟨menus, hmenus, hlifetime⟩ := hload
    rw [hmenus, hlifetime]
    exact ih
  | logout before ih =>
    obtain ⟨hsession, hlifetime, hclient⟩ := ih
    refine ⟨hsession, hlifetime, .inr ?_⟩
    rcases hclient with hclient | hclient <;> simp [Backend.logout, hclient]

/-- The entry of the cache is the answer that the log says is kept. -/
theorem Run.entry_eq_some_iff (h : Run start b log) (c : CachedMenu) :
    b.menus.entry = some c ↔
      ∃ time records, Kept log time records ∧
        c = ⟨start.session.user.id, time, ⟨.server, Menu.hierarchy records⟩⟩ := by
  induction h with
  | new empty => simp [empty, not_kept_nil]
  | logout before ih => simp [Backend.logout, MenuCache.invalidate, not_kept_of_signed_out]
  | @load b log before send now ih =>
    cases hget : b.menus.get? b.session.user.id now with
    | some menu =>
      have hanswer : b.answer? send now = none := by
        rw [answer?, loadMenu_of_kept hget, Option.map_none]
      have hsame : ¬(Event.loaded now none).Supersedes := by simp [Event.Supersedes]
      simp only [loadMenu_of_kept hget, hanswer, kept_of_not_supersedes hsame, ih]
    | none =>
      have hanswer : b.answer? send now = some (b.client.perform send b.client.menus) := by
        rw [answer?, loadMenu_of_not_kept hget, Option.map_some, Client.perform]
      -- an empty menu and a failure leave the cache alike, so they are one case
      by_cases hans : ∃ r rs, b.client.perform send b.client.menus = .ok (r :: rs)
      · obtain ⟨r, rs, hans⟩ := hans
        rw [loadMenu_of_records hget hans, hanswer, hans]
        simp only [MenuCache.store, kept_records, before.frame.1, Option.some_inj]
        constructor
        · rintro rfl
          exact ⟨now, r :: rs, ⟨rfl, rfl⟩, rfl⟩
        · rintro ⟨time, records, ⟨rfl, rfl⟩, rfl⟩
          rfl
      · have hsame : ¬(Event.loaded now
            (some (b.client.perform send b.client.menus))).Supersedes := by
          rintro ⟨r, rs, hsome⟩
          exact hans ⟨r, rs, Option.some_inj.1 hsome⟩
        simp only [not_exists] at hans
        rw [loadMenu_of_no_records hget hans, hanswer, ih]
        simp only [kept_of_not_supersedes hsame]

/-! ### Which menu is shown, and when the service is asked -/

/-- The cache has a menu for the user of a run exactly if an answer is kept and not too old. -/
theorem Run.get?_eq_some_iff (h : Run start b log) (menu : Menu.Resolved) :
    b.menus.get? b.session.user.id now = some menu ↔
      ∃ time records, Kept log time records ∧ now - time ≤ start.menus.lifetime ∧
        menu = ⟨.server, Menu.hierarchy records⟩ := by
  obtain ⟨hsession, hlifetime, -⟩ := h.frame
  rw [MenuCache.get?_eq_some_iff, hsession, hlifetime]
  simp only [h.entry_eq_some_iff]
  constructor
  · rintro ⟨_, ⟨time, records, hkept, hc⟩, htime⟩
    injection hc with _ htime' hmenu
    exact ⟨time, records, hkept, htime' ▸ htime, hmenu⟩
  · rintro ⟨time, records, hkept, htime, rfl⟩
    exact ⟨time, ⟨time, records, hkept, rfl⟩, htime⟩

/-- **When the service is asked for the menu, and which menu is shown.** Along every run, at any
time and over any transport:
1. if an answer is kept that is not too old, nothing is sent and the menu is the tree of its
records;
2. otherwise the menu is asked for with one request, or with none if the token cannot be sent, and
what comes of it decides on the menu;
3. a menu that was not asked for is from the service, never the preset;
4. what is loaded depends on nothing but the answers to what is sent;
5. where the token could be sent at the start, it still can. -/
theorem menu_of_run (h : Run start b log) (send : Client.Transport) (now : Int) :
    (∀ time records, Kept log time records → now - time ≤ start.menus.lifetime →
      b.sent send now = [] ∧
        (b.loadMenu send now).1.menu = ⟨.server, Menu.hierarchy records⟩) ∧
    ((∀ time records, Kept log time records → start.menus.lifetime < now - time) →
      b.sent send now = (if b.client.canAsk then [b.client.menus.request] else []) ∧
        (b.loadMenu send now).1.menu = Menu.resolve start.session.user.role
          (b.client.perform send b.client.menus).toOption ∧
        (b.client.canAsk = false →
          (b.loadMenu send now).1.menu = Menu.resolve start.session.user.role none)) ∧
    ((b.loadMenu send now).1.exchange? = none → (b.loadMenu send now).1.menu.source = .server) ∧
    (∀ send', (∀ r ∈ b.sent send now, send' r = send r) →
      b.loadMenu send' now = b.loadMenu send now) ∧
    (start.client.canAsk → b.client.canAsk) := by
  obtain ⟨hsession, -, hclient⟩ := h.frame
  refine ⟨fun time records hkept htime ↦ ?_, fun hstale ↦ ?_, fun hasked ↦ ?_, fun send' hsend ↦ ?_,
    fun hcan ↦ ?_⟩
  · have hget : b.menus.get? b.session.user.id now = some _ :=
      (h.get?_eq_some_iff _).2 ⟨time, records, hkept, htime, rfl⟩
    simp [sent, loadMenu_of_kept hget]
  -- a menu that is too old is found missing, because no entry but the kept one can be there
  · have hget : b.menus.get? b.session.user.id now = none := by
      rw [Option.eq_none_iff_forall_ne_some]
      intro menu hmenu
      obtain ⟨time, records, hkept, htime, -⟩ := (h.get?_eq_some_iff menu).1 hmenu
      exact absurd htime (Int.not_le.2 (hstale time records hkept))
    rw [sent, loadMenu_of_not_kept hget, hsession, Option.map_some, Option.getD_some]
    exact ⟨Client.sent_menus, rfl, fun hcan ↦ by rw [Client.toOption_perform_menus hcan]⟩
  · cases hget : b.menus.get? b.session.user.id now with
    | none => simp [loadMenu_of_not_kept hget] at hasked
    | some menu =>
      obtain ⟨time, records, -, -, rfl⟩ := (h.get?_eq_some_iff menu).1 hget
      rw [loadMenu_of_kept hget]
  · cases hget : b.menus.get? b.session.user.id now with
    | some menu => rw [loadMenu_of_kept hget, loadMenu_of_kept hget]
    | none =>
      have hsent : b.sent send now = (b.client.exchange send b.client.menus).sent := by
        rw [sent, loadMenu_of_not_kept hget, Option.map_some, Option.getD_some]
      rw [loadMenu, loadMenu, Client.exchange_congr (hsent ▸ hsend)]
  · rcases hclient with hclient | hclient
    · rwa [hclient]
    · rw [hclient]
      rfl

/-- A session whose menu stays good for a while, with nothing kept yet. -/
def sample (token : String) : Backend where
  client := { Operation.sampleClient with token := some token }
  session := .ofGrants token ⟨7, "Mira", "mira@desk.test", .admin⟩ []
  store := .inMemory
  menus := .empty 10

/-- An answer that brings one record. -/
def sampleAnswer : Response :=
  ⟨200, "\x7b\"status\":true,\"data\":[\x7b\"name\":\"events\",\"path\":\"/events\"\x7d]\x7d"⟩

/-- The record that it brings. -/
def sampleRecord : MenuRecord :=
  ⟨none, "events", "", "/events", "", none, 0⟩

/-- An answer that is too old stays, is not taken away by a load that fails, and is good again once
the clock goes back. -/
theorem kept_past_failure :
    ∃ b, Run (sample "t") b
        [.loaded 0 (some (.ok [sampleRecord])), .loaded 100 (some (.error (.status 502 "down")))] ∧
      Kept [.loaded 0 (some (.ok [sampleRecord])),
        .loaded 100 (some (.error (.status 502 "down")))] 0 [sampleRecord] ∧
      b.sent (Operation.answering ⟨502, "down"⟩) 5 = [] ∧
      (b.loadMenu (Operation.answering ⟨502, "down"⟩) 5).1.menu =
        ⟨.server, Menu.hierarchy [sampleRecord]⟩ := by
  have hfirst : (sample "t").answer? (Operation.answering sampleAnswer) 0 =
      some (.ok [sampleRecord]) := by
    decide +kernel
  have hsecond : ((sample "t").loadMenu (Operation.answering sampleAnswer) 0).2.answer?
      (Operation.answering ⟨502, "down"⟩) 100 = some (.error (.status 502 "down")) := by
    decide +kernel
  have hnew : Run (sample "t") (sample "t") [] := .new rfl
  have hrun := (hnew.load (Operation.answering sampleAnswer) 0).load
    (Operation.answering ⟨502, "down"⟩) 100
  rw [hfirst, hsecond] at hrun
  have hkept : Kept [.loaded 0 (some (.ok [sampleRecord])),
      .loaded 100 (some (.error (.status 502 "down")))] 0 [sampleRecord] :=
    ⟨by simp, [], _, rfl, by simp [Event.Supersedes]⟩
  have hmenu := (menu_of_run hrun (Operation.answering ⟨502, "down"⟩) 5).1 0 _ hkept (by decide)
  exact ⟨_, hrun, hkept, hmenu⟩

/-- A token with a control character in it cannot be sent. So the service is not asked although
nothing is kept, and its answer does not come. -/
theorem nothing_sent_with_control_token :
    Run (sample "a\rb") (sample "a\rb") [] ∧
      (∀ time records, ¬Kept [] time records) ∧
      (sample "a\rb").sent (Operation.answering sampleAnswer) 0 = [] ∧
      ((sample "a\rb").loadMenu (Operation.answering sampleAnswer) 0).1.menu.source =
        .fallback := by
  refine ⟨.new rfl, fun _ _ ↦ not_kept_nil, ?_, ?_⟩
  · rw [sent, loadMenu_of_not_kept rfl, Option.map_some, Option.getD_some, Client.sent_menus]
    rfl
  · decide +kernel

end Backend

end PitchDesk

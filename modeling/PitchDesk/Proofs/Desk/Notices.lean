import PitchDesk.Proofs.Desk.History

/-!
# Notices and their time

A notice goes away when its time is over. Times run on while other notices come, so most ends of a
time concern a notice that has gone already. What tells them apart is the number of the notice:
every notice that is shown starts a time under a number of its own, and only the latest number
counts.

What moves do with notices is said once, `Move.timers_cases`. From it follow both main statements
of `Opening.notice_since`: the time of the notice on the screen is always running, and the number
that ends it is the one under which it was started when that notice came.

## Three invariants

* `Timed`: the end of the time of the notice on the screen is among the promises that are left. It
  needs no bound on the length of a session: if the promise that news use up is that of the notice
  on the screen, the notice goes with it.
* `ShownSince`: the notice has been on the screen since a turn that brought it, and no other time
  was started since. Within that turn the moves before the one that shows the notice do not matter,
  and those after it start no time; `Brings` says this of one turn.
* `Stamped`: the times were started under the numbers from one on. Numbers stop counting at the
  last one that a word holds, so this one is bounded by `UInt64.size`, and with it the statement
  that no two times have the same number.

A session in which somebody signs out is left out: signing out takes the notice away without ending
its time.
-/

namespace PitchDesk

/-- The number under which an effect starts the time of a notice. -/
def Effect.token? : Effect → Option UInt64
  | .clearLater token => some token
  | _ => none

namespace Desk

/-- The numbers under which the time of a notice was started, in order. -/
def timers (es : List Effect) : List UInt64 :=
  es.filterMap (·.token?)

variable {o : Oracle} {a : Answers} {i : Option Input} {d d' d'' : Desk} {es es' : List Effect}
  {ps : List Promise} {ts : List UInt64} {n : Notice} {token : UInt64}

theorem timers_append (es es' : List Effect) : timers (es ++ es') = timers es ++ timers es' :=
  List.filterMap_append

/-! ### What moves do with notices -/

/-- An answer shows a notice under the next number, or it leaves notices alone. -/
theorem notice_receive_cases (d : Desk) (v : Resource) (seq : UInt64)
    (answer : Except String (Page Record)) :
    (timers (d.receive v seq answer).effects = [] ∧
      (d.receive v seq answer).desk.noticeToken = d.noticeToken ∧
      (d.receive v seq answer).desk.workspace.notice = d.workspace.notice) ∨
    ((d.receive v seq answer).effects = [.clearLater d.nextToken] ∧
      (d.receive v seq answer).desk.noticeToken = d.nextToken) := by
  dsimp only [receive]
  split
  · obtain ⟨row, menu, hsettle⟩ := exists_settle_eq (d.setList v _) v
    rw [hsettle]
    exact .inl ⟨rfl, rfl, rfl⟩
  · exact .inr ⟨rfl, rfl⟩
  · exact .inl ⟨rfl, rfl, rfl⟩

/-- A move starts one time, under the next number, or none; then no notice comes, unless the move
signs out. -/
theorem Move.timers_cases (h : Move o a i d d' es) :
    (timers es = [] ∧ d'.noticeToken = d.noticeToken ∧
      (.logout ∉ es →
        d'.workspace.notice = d.workspace.notice ∨ d'.workspace.notice = none)) ∨
    (es = [.clearLater d.nextToken] ∧ d'.noticeToken = d.nextToken) := by
  cases h with
  | notify => exact .inr ⟨rfl, rfl⟩
  | remind => exact .inr ⟨rfl, rfl⟩
  | clearNotice => exact .inl ⟨rfl, rfl, fun _ ↦ .inr (Workspace.notice_dispatch _ _)⟩
  | focus hc =>
    rcases hc with rfl | rfl | rfl <;>
      exact .inl ⟨rfl, rfl, fun _ ↦ .inl (Workspace.notice_dispatch _ _)⟩
  | toggleSidebar => exact .inl ⟨rfl, rfl, fun _ ↦ .inl (Workspace.notice_dispatch _ _)⟩
  | openView => exact .inl ⟨rfl, rfl, fun _ ↦ .inl (Workspace.notice_dispatch _ _)⟩
  | @receive v seq answer =>
    exact (notice_receive_cases d v seq answer).imp_left fun ⟨hnil, htoken, hnotice⟩ ↦
      ⟨hnil, htoken, fun _ ↦ .inl hnotice⟩
  | logout => exact .inl ⟨rfl, rfl, fun hin ↦ absurd (List.mem_singleton_self _) hin⟩
  | _ => exact .inl ⟨rfl, rfl, fun _ ↦ .inl rfl⟩

/-- On the way from one desk to another, a notice is shown and its time started under a number. From
then on no other time is started, and the notice is still there in the end. -/
def Brings (o : Oracle) (a : Answers) (i : Option Input) (d d' : Desk) (es : List Effect)
    (n : Notice) (token : UInt64) : Prop :=
  ∃ d₁ d₂ es₁ es₂, Moves o a i d d₁ es₁ ∧ Move o a i d₁ d₂ [.clearLater token] ∧
    Moves o a i d₂ d' es₂ ∧ es = es₁ ++ .clearLater token :: es₂ ∧ timers es₂ = [] ∧
    d₂.workspace.notice = some n ∧ d₂.noticeToken = token ∧
    d'.workspace.notice = some n ∧ d'.noticeToken = token

/-- What happens before a notice is brought does not matter to it. -/
theorem Brings.cons (hm : Move o a i d d' es) (h : Brings o a i d' d'' es' n token) :
    Brings o a i d d'' (es ++ es') n token := by
  obtain ⟨d₁, d₂, es₁, es₂, hbefore, hshown, hafter, rfl, hrest⟩ := h
  exact ⟨d₁, d₂, es ++ es₁, es₂, .cons hm hbefore, hshown, hafter, (List.append_assoc ..).symm,
    hrest⟩

/-- A notice that is brought has its time started. -/
theorem Brings.clearLater_mem (h : Brings o a i d d' es n token) : .clearLater token ∈ es := by
  obtain ⟨d₁, d₂, es₁, es₂, -, -, -, rfl, -⟩ := h
  simp

/-- **Moves bring the notice that is there in the end, or it was there before.** In the latter case
they start no time. -/
theorem Moves.notices (h : Moves o a i d d' es) (hin : .logout ∉ es) :
    (timers es = [] ∧ d'.noticeToken = d.noticeToken ∧
      (d'.workspace.notice = d.workspace.notice ∨ d'.workspace.notice = none)) ∨
    ∀ n, d'.workspace.notice = some n → Brings o a i d d' es n d'.noticeToken := by
  induction h with
  | nil => exact .inl ⟨rfl, rfl, .inl rfl⟩
  | @cons d d' d'' es es' hm hs ih =>
    obtain ⟨hin, hin'⟩ := not_or.1 (mt List.mem_append.2 hin)
    rcases ih hin' with ⟨hnil', htoken', hnotice'⟩ | hbrings
    · rcases hm.timers_cases with ⟨hnil, htoken, hnotice⟩ | ⟨rfl, htoken⟩
      · refine .inl ⟨by rw [timers_append, hnil, hnil']; rfl, htoken'.trans htoken, ?_⟩
        rcases hnotice' with hsame | hgone
        · rw [hsame]
          exact hnotice hin
        · exact .inr hgone
      · refine .inr fun n hn ↦ ?_
        have hshown : d'.workspace.notice = some n := by
          rcases hnotice' with hsame | hgone
          · rw [← hsame, hn]
          · rw [hgone] at hn
            cases hn
        rw [htoken', htoken]
        exact ⟨d, d', [], es', .nil d, hm, hs, rfl, hnil', hshown, htoken, hn, htoken'.trans htoken⟩
    · exact .inr fun n hn ↦ (hbrings n hn).cons hm

/-- The start of a session brings the notice that is on the screen then. If that was there before,
its time is started now. -/
theorem Opening.brings_start (s : Opening) (o : Oracle) (hin : .logout ∉ (s.start o).effects)
    (hn : (s.start o).desk.workspace.notice = some n) :
    Brings o s.answers none s.bare (s.start o).desk (s.start o).effects n
      (s.start o).desk.noticeToken := by
  rcases (s.makes_start o).notices hin with ⟨hnil, -, hsame | hgone⟩ | hbrings
  · have hgreet : timers (s.bare.greet s.menu.source).effects ≠ [] := by
      unfold greet
      split
      · exact nofun
      · rw [← hsame, hn]
        exact nofun
    have heffects : (s.start o).effects = (s.bare.greet s.menu.source).effects ++
        (openFirst o s.answers (s.bare.greet s.menu.source).desk).effects := rfl
    rw [heffects, timers_append] at hnil
    exact absurd (List.append_eq_nil_iff.1 hnil).1 hgreet
  · rw [hgone] at hn
    cases hn
  · exact hbrings n hn

/-! ### The time of the notice on the screen is running -/

/-- The end of the time of the notice on the screen is among some promises. -/
def Timed (d : Desk) (ps : List Promise) : Prop :=
  d.workspace.notice.isSome → .timer d.noticeToken ∈ ps

/-- The time that is started for a notice is promised to end. -/
theorem Brings.timed (h : Brings o a i d d' es n token) :
    .timer token ∈ es.filterMap (·.promise? a) :=
  List.mem_filterMap.2 ⟨_, h.clearLater_mem, rfl⟩

/-- As long as nobody signs out, moves keep the time of the notice on the screen running. -/
theorem Moves.timed (h : Moves o a i d d' es) (hd : Timed d ps) (hin : .logout ∉ es) :
    Timed d' (ps ++ es.filterMap (·.promise? a)) := by
  intro hsome
  rw [List.mem_append]
  rcases h.notices hin with ⟨-, htoken, hsame | hgone⟩ | hbrings
  · rw [htoken]
    exact .inl (hd (hsame ▸ hsome))
  · rw [hgone] at hsome
    cases hsome
  · obtain ⟨n, hn⟩ := Option.isSome_iff_exists.1 hsome
    exact .inr (hbrings n hn).timed

/-- The end of a time takes away the notice on the screen if it has its number, and does nothing
otherwise. -/
theorem notice_noticeOver (d : Desk) (token : UInt64) :
    (d.step o a (.news (.noticeOver token))).desk.workspace.notice =
      if token = d.noticeToken then none else d.workspace.notice := by
  show (if token = d.noticeToken then (d.dispatch .clearNotice).idle
    else d.idle).desk.workspace.notice = _
  split
  · exact Workspace.notice_dispatch _ _
  · rfl

/-- What comes leaves the time of the notice on the screen running, or takes the notice away. -/
theorem Timed.left (hd : Timed d ps) (i : Input) (a : Answers) (es : List Effect)
    (hnotice : (d.step o a i).desk.workspace.notice.isSome) :
    Timed d (Round.left ps ⟨some i, a, es⟩) := by
  intro hsome
  unfold Round.left
  cases i with
  | news n =>
    refine (List.mem_erase_of_ne ?_).2 (hd hsome)
    cases n with
    | noticeOver token =>
      rintro ⟨⟩
      rw [notice_noticeOver, if_pos rfl] at hnotice
      cases hnotice
    | loaded => exact nofun
  | _ => exact hd hsome

theorem Timed.step {rs : List Round} (hd : Timed d (awaited rs)) (a : Answers) (i : Input)
    (hin : .logout ∉ (d.step o a i).effects) :
    Timed (d.step o a i).desk
      (awaited (rs ++ [⟨some i, a, (d.step o a i).effects⟩])) := by
  intro hsome
  rw [awaited_concat]
  exact (makes_step d i).timed (hd.left i a _ hsome) hin hsome

/-- At every point of a session, the time of the notice on the screen is running. -/
theorem Opening.timed (s : Opening) (o : Oracle) (xs : List Occasion)
    (hin : .logout ∉ asked (s.rounds o xs)) : Timed (s.after o xs) (awaited (s.rounds o xs)) := by
  refine s.rounds_induction (P := fun d rs ↦ .logout ∉ asked rs → Timed d (awaited rs)) xs ?_ ?_ hin
  · intro hin hsome
    rw [show asked [_] = (s.start o).effects from List.append_nil _] at hin
    obtain ⟨n, hn⟩ := Option.isSome_iff_exists.1 hsome
    exact (s.brings_start o hin hn).timed
  · intro d rs a i hd hin
    rw [asked_concat, List.mem_append, not_or] at hin
    exact (hd hin.1).step a i hin.2

/-! ### Since when a notice is on the screen -/

/-- The desk before the latest turn of a session. -/
def Opening.before (s : Opening) (o : Oracle) (xs : List Occasion) : Desk :=
  if xs = [] then s.bare else s.after o xs.dropLast

theorem Opening.before_concat (s : Opening) (xs : List Occasion) (x : Occasion) :
    s.before o (xs ++ [x]) = s.after o xs := by
  simp [Opening.before]

/-- Up to some occasions, a notice is on the screen since a turn that brought it, with its time
started under a number. No other time was started since. -/
def Opening.ShownSince (s : Opening) (o : Oracle) (xs : List Occasion) (n : Notice)
    (token : UInt64) : Prop :=
  ∃ ys zs rs r, xs = ys ++ zs ∧ s.rounds o ys = rs ++ [r] ∧
    Brings o r.answers r.input (s.before o ys) (s.after o ys) r.effects n token ∧
    timers (asked (s.rounds o xs)) = timers (asked (s.rounds o ys)) ∧
    ∀ us, us <+: zs → (s.after o (ys ++ us)).workspace.notice = some n

variable {s : Opening} {xs : List Occasion}

/-- A notice that the latest turn brought is on the screen since that turn. -/
theorem Opening.shownSince_of_brings {rs : List Round} {r : Round}
    (hrounds : s.rounds o xs = rs ++ [r])
    (h : Brings o r.answers r.input (s.before o xs) (s.after o xs) r.effects n token) :
    s.ShownSince o xs n token := by
  have hn : (s.after o xs).workspace.notice = some n := by
    obtain ⟨d₁, d₂, es₁, es₂, -, -, -, -, -, -, -, hn, -⟩ := h
    exact hn
  refine ⟨xs, [], rs, r, (List.append_nil xs).symm, hrounds, h, rfl, fun us hus ↦ ?_⟩
  rwa [List.prefix_nil.1 hus, List.append_nil]

/-- A notice stays on the screen in a turn in which no time is started. -/
theorem Opening.ShownSince.concat (h : s.ShownSince o xs n token) (x : Occasion)
    (hnil : timers ((s.after o xs).step o x.answers x.input).effects = [])
    (hn : (s.after o (xs ++ [x])).workspace.notice = some n) :
    s.ShownSince o (xs ++ [x]) n token := by
  obtain ⟨ys, zs, rs, r, rfl, hrounds, hbrings, htimers, hsince⟩ := h
  refine ⟨ys, zs ++ [x], rs, r, List.append_assoc .., hrounds, hbrings, ?_, fun us hus ↦ ?_⟩
  · rw [Opening.rounds_concat, asked_concat, timers_append, hnil, List.append_nil, htimers]
  · rcases List.prefix_concat_iff.1 hus with rfl | hus
    · rwa [← List.append_assoc]
    · exact hsince us hus

/-- At every point of a session, the notice on the screen is there since a turn that brought it. -/
theorem Opening.shownSince (hin : .logout ∉ asked (s.rounds o xs))
    (hn : (s.after o xs).workspace.notice = some n) :
    s.ShownSince o xs n (s.after o xs).noticeToken := by
  induction xs using List.reverseRecOn with
  | nil =>
    rw [show asked (s.rounds o []) = (s.start o).effects from List.append_nil _] at hin
    have hrounds : s.rounds o [] = [] ++ [⟨none, s.answers, (s.start o).effects⟩] := rfl
    exact Opening.shownSince_of_brings hrounds (s.brings_start o hin hn)
  | append_singleton xs x ih =>
    have hrounds := s.rounds_concat (o := o) xs x
    rw [hrounds, asked_concat, List.mem_append, not_or] at hin
    have hafter := s.after_concat (o := o) xs x
    rcases (makes_step (s.after o xs) x.input).notices hin.2 with ⟨hnil, htoken, hnotice⟩ | hbrings
    · have hbefore : (s.after o xs).workspace.notice = some n := by
        rcases hnotice with hsame | hgone
        · rw [← hsame, ← hafter, hn]
        · rw [hafter, hgone] at hn
          cases hn
      rw [hafter, htoken]
      exact (ih hin.1 hbefore).concat x hnil hn
    · refine Opening.shownSince_of_brings hrounds ?_
      rw [hafter] at hn ⊢
      rw [s.before_concat]
      exact hbrings n hn

/-! ### Every time has a number of its own -/

/-- The times that were started are numbered from one on, and the latest notice has the number of
the latest of them. -/
structure Stamped (d : Desk) (ts : List UInt64) : Prop where
  tokens : ts = (List.range ts.length).map fun i ↦ UInt64.ofNat (i + 1)
  latest : d.noticeToken = UInt64.ofNat ts.length

/-- The next notice has the next number, as long as there is one. -/
theorem Stamped.next (hd : Stamped d ts) (hn : ts.length + 1 < UInt64.size)
    (htoken : d'.noticeToken = d.nextToken) : Stamped d' (ts ++ [d.nextToken]) := by
  have hnext : d.nextToken = UInt64.ofNat (ts.length + 1) := by
    have hplus : d.noticeToken + 1 = UInt64.ofNat (ts.length + 1) := by
      rw [hd.latest, UInt64.ofNat_add]
      rfl
    have hne : UInt64.ofNat (ts.length + 1) ≠ 0 := by
      intro hzero
      have hvalue := congrArg UInt64.toNat hzero
      rw [UInt64.toNat_ofNat_of_lt' hn] at hvalue
      cases hvalue
    rw [nextToken, hplus, if_neg hne]
  constructor
  · rw [List.length_append, List.length_singleton, List.range_succ, List.map_append, ← hd.tokens,
      hnext]
    rfl
  · rw [htoken, hnext, List.length_append, List.length_singleton]

/-- Moves go on with the numbers. -/
theorem Moves.stamped (h : Moves o a i d d' es) (hd : Stamped d ts)
    (hn : (ts ++ timers es).length < UInt64.size) : Stamped d' (ts ++ timers es) := by
  induction h generalizing ts with
  | nil =>
    rw [show timers [] = [] from rfl, List.append_nil]
    exact hd
  | @cons d _ _ _ _ hm _ ih =>
    rw [timers_append, ← List.append_assoc] at hn ⊢
    refine ih ?_ hn
    rcases hm.timers_cases with ⟨hnil, htoken, -⟩ | ⟨rfl, htoken⟩
    · rw [hnil, List.append_nil]
      exact ⟨hd.tokens, htoken.trans hd.latest⟩
    · have hone : timers [.clearLater d.nextToken] = [d.nextToken] := rfl
      rw [hone] at hn ⊢
      refine hd.next (lt_of_le_of_lt ?_ hn) htoken
      simp

/-- At every point of a session, times were started under the numbers from one on. -/
theorem Opening.stamped (s : Opening) (o : Oracle) (xs : List Occasion)
    (hn : (timers (asked (s.rounds o xs))).length < UInt64.size) :
    Stamped (s.after o xs) (timers (asked (s.rounds o xs))) := by
  refine s.rounds_induction (P := fun d rs ↦
    (timers (asked rs)).length < UInt64.size → Stamped d (timers (asked rs))) xs ?_ ?_ hn
  · have hbare : Stamped s.bare [] := ⟨rfl, rfl⟩
    simpa [asked] using (s.makes_start o).stamped hbare
  · intro d rs a i hd hn
    rw [asked_concat, timers_append] at hn ⊢
    refine (makes_step d i).stamped (hd (lt_of_le_of_lt ?_ hn)) hn
    simp

/-- **A notice goes when its own time is over.** As long as nobody signs out, the time of the notice
on the screen is running, under the number of the latest notice. It was started when the notice was
shown, which has been on the screen ever since. The end of this time takes the notice away, and the
end of no other time does. And as long as numbers do not start
again, no two times have the same. -/
theorem Opening.notice_since (s : Opening) (o : Oracle) (xs : List Occasion)
    (hin : .logout ∉ asked (s.rounds o xs)) :
    let d := s.after o xs
    (∀ n, d.workspace.notice = some n →
      .timer d.noticeToken ∈ awaited (s.rounds o xs) ∧ s.ShownSince o xs n d.noticeToken ∧
        ∀ a token, (d.step o a (.news (.noticeOver token))).desk.workspace.notice =
          if token = d.noticeToken then none else some n) ∧
    ((timers (asked (s.rounds o xs))).length < UInt64.size →
      (timers (asked (s.rounds o xs))).Nodup) := by
  intro d
  refine ⟨fun n hn ↦ ⟨s.timed o xs hin (Option.isSome_of_eq_some hn), s.shownSince hin hn,
    fun a token ↦ hn ▸ notice_noticeOver d token⟩, fun hn ↦ ?_⟩
  rw [(s.stamped o xs hn).tokens]
  exact nodup_ofNat_succ hn

/-- Neither the first request for the events nor the one after it can be sent. The same notice tells
so twice, and it outlives the time of its first showing. -/
theorem Opening.second_notice_outlives_first_timer :
    let n : Notice := ⟨.error, "could not start fetch: no thread"⟩
    let a : Answers := { sampleAnswers with fetch := .error ⟨"no thread", []⟩ }
    let s : Opening := { sampleOpening with answers := a }
    let xs : List Occasion := [⟨a, .key ⟨.char 'R', false, false, false⟩⟩]
    .logout ∉ asked (s.rounds sampleOracle xs) ∧
      timers (asked (s.rounds sampleOracle xs)) = [1, 2] ∧
      (s.after sampleOracle xs).workspace.notice = some n ∧
      .timer (s.after sampleOracle xs).noticeToken ∈ awaited (s.rounds sampleOracle xs) ∧
      s.ShownSince sampleOracle xs n (s.after sampleOracle xs).noticeToken ∧
      ((s.after sampleOracle xs).step sampleOracle a
        (.news (.noticeOver 1))).desk.workspace.notice = some n ∧
      ((s.after sampleOracle xs).step sampleOracle a
        (.news (.noticeOver 2))).desk.workspace.notice = none ∧
      (timers (asked (s.rounds sampleOracle xs))).Nodup := by
  intro n a s xs
  have hin : .logout ∉ asked (s.rounds sampleOracle xs) := by decide +kernel
  have htimers : timers (asked (s.rounds sampleOracle xs)) = [1, 2] := by rfl
  have hnotice : (s.after sampleOracle xs).workspace.notice = some n := by rfl
  have htoken : (s.after sampleOracle xs).noticeToken = 2 := by rfl
  obtain ⟨hshown, hnodup⟩ := s.notice_since sampleOracle xs hin
  obtain ⟨hawaited, hsince, hover⟩ := hshown n hnotice
  refine ⟨hin, htimers, hnotice, hawaited, hsince, ?_, ?_, hnodup ?_⟩
  · rw [hover, htoken]
    exact if_neg (by decide)
  · rw [hover, htoken]
    exact if_pos rfl
  · rw [htimers]
    decide

end Desk

end PitchDesk

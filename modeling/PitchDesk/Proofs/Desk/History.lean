import PitchDesk.Proofs.Desk.Session

/-!
# What is still to come

A session as the outside sees it is a list of rounds: what happened, how the outside answered, and
what was asked of it. Some of what is asked is a promise of news: the answer to a request that
could be sent, and the end of the time of a notice. `awaited` is what was promised and has not come
yet. News may also come without having been promised; `Kept` says of some kind of news that none
do.

Rounds are a record beside the run and no part of the desk: nothing that the desk does looks at
them. `Opening.rounds_induction` carries a property of the desk and of the rounds so far along a
session; what list requests, timers and changes have in common is proved through it, each in its
own module.

News and promises are matched one for one: news that came use up one promise of theirs, so that an
answer which comes twice is kept only once.
-/

namespace PitchDesk

/-- News that were promised, but for what they say. -/
inductive Promise where
  /-- The answer to the request of a view's list with a number. -/
  | answer (view : Resource) (seq : UInt64)
  /-- The end of the time of the notice with a number. -/
  | timer (token : UInt64)
  deriving DecidableEq, Repr

namespace Promise

/-- Whether the answer to a request is promised. -/
def isAnswer : Promise → Bool
  | .answer _ _ => true
  | .timer _ => false

end Promise

/-- The promise that news keep. -/
def News.promise : News → Promise
  | .noticeOver token => .timer token
  | .loaded view seq _ => .answer view seq

/-- The news that are promised when something is asked of the outside. No answer is promised to a
request that could not be sent. -/
def Effect.promise? (a : Answers) : Effect → Option Promise
  | .fetch view request =>
    match a.fetch with
    | .ok _ => some (.answer view request.seq)
    | .error _ => none
  | .clearLater token => some (.timer token)
  | _ => none

namespace Desk

/-- A turn as it is seen from outside. No input leads to the turn that starts a session. -/
structure Round where
  input : Option Input
  answers : Answers
  effects : List Effect

namespace Round

/-- The promises of a round. -/
def promises (r : Round) : List Promise :=
  r.effects.filterMap (·.promise? r.answers)

/-- What is left of some promises when the input of a round has come. -/
def left (ps : List Promise) (r : Round) : List Promise :=
  match r.input with
  | some (.news n) => ps.erase n.promise
  | _ => ps

end Round

/-- All that was asked of the outside in some rounds. -/
def asked (rs : List Round) : List Effect :=
  rs.flatMap (·.effects)

/-- The news that were promised in some rounds and have not come yet. -/
def awaited (rs : List Round) : List Promise :=
  rs.foldl (fun ps r ↦ r.left ps ++ r.promises) []

/-- All news of some kind that came in some rounds were awaited then. -/
def Kept (kind : Promise → Bool) (rs : List Round) : Prop :=
  ∀ before r after n, rs = before ++ r :: after → r.input = some (.news n) →
    kind n.promise = true → n.promise ∈ awaited before

/-- The rounds of a desk on some occasions. -/
def rounds (o : Oracle) (d : Desk) : List Occasion → List Round
  | [] => []
  | x :: xs =>
    let t := d.step o x.answers x.input
    ⟨some x.input, x.answers, t.effects⟩ :: rounds o t.desk xs

/-- The rounds of a session up to some occasions. -/
def Opening.rounds (s : Opening) (o : Oracle) (xs : List Occasion) : List Round :=
  ⟨none, s.answers, (s.start o).effects⟩ :: Desk.rounds o (s.start o).desk xs

variable {o : Oracle} {d : Desk} {s : Opening} {kind : Promise → Bool}

/-! ### One round after another -/

theorem asked_concat (rs : List Round) (r : Round) : asked (rs ++ [r]) = asked rs ++ r.effects := by
  simp [asked]

/-- A last round uses up what its input keeps, and adds what it promises. -/
theorem awaited_concat (rs : List Round) (r : Round) :
    awaited (rs ++ [r]) = r.left (awaited rs) ++ r.promises :=
  List.foldl_concat ..

theorem kept_nil : Kept kind [] := by
  intro before r after n hsplit
  simp at hsplit

/-- One more round keeps to what was promised if its input does. -/
theorem kept_concat_iff {rs : List Round} {r : Round} :
    Kept kind (rs ++ [r]) ↔
      Kept kind rs ∧ ∀ n, r.input = some (.news n) → kind n.promise = true →
        n.promise ∈ awaited rs := by
  constructor
  · intro h
    refine ⟨fun before r' after n hsplit ↦ ?_, fun n ↦ h rs r [] n rfl⟩
    exact h before r' (after ++ [r]) n (by simp [hsplit])
  · rintro ⟨h, hlast⟩ before r' after n hsplit
    rcases after.eq_nil_or_concat with rfl | ⟨after, r'', rfl⟩
    · obtain ⟨rfl, hr⟩ := List.append_inj' hsplit rfl
      obtain rfl := List.singleton_inj.1 hr
      exact hlast n
    · rw [List.concat_eq_append, ← List.cons_append, ← List.append_assoc] at hsplit
      exact h before r' after n (List.append_inj' hsplit rfl).1

/-- One more occasion adds the round of its turn. -/
theorem Opening.rounds_concat (s : Opening) (xs : List Occasion) (x : Occasion) :
    s.rounds o (xs ++ [x]) =
      s.rounds o xs ++
        [⟨some x.input, x.answers, ((s.after o xs).step o x.answers x.input).effects⟩] := by
  have hrounds (d : Desk) : Desk.rounds o d (xs ++ [x]) = Desk.rounds o d xs ++
      [⟨some x.input, x.answers, ((play o d xs).desk.step o x.answers x.input).effects⟩] := by
    induction xs generalizing d with
    | nil => rfl
    | cons y xs ih => exact congrArg _ (ih _)
  exact congrArg _ (hrounds _)

/-- One more occasion leads on by its turn. -/
theorem Opening.after_concat (s : Opening) (xs : List Occasion) (x : Occasion) :
    s.after o (xs ++ [x]) = ((s.after o xs).step o x.answers x.input).desk :=
  desk_play_concat ..

/-- The desk that a session starts on, before its first turn. -/
def Opening.bare (s : Opening) : Desk :=
  new s.workspace (.ofMenu s.menu.forest s.workspace.sidebarCollapsed) s.pageSize

/-- The first turn of a session comes about by moves on a new desk. -/
theorem Opening.makes_start (s : Opening) (o : Oracle) :
    Makes o s.answers none s.bare (s.start o) :=
  Desk.makes_start _ _ _

/-- **What holds when a session has started and is kept by every turn holds at every point of it**,
also as far as it speaks of the rounds so far. -/
theorem Opening.rounds_induction {P : Desk → List Round → Prop} (s : Opening) (xs : List Occasion)
    (hstart : P (s.start o).desk [⟨none, s.answers, (s.start o).effects⟩])
    (hstep : ∀ {d rs} a i, P d rs →
      P (d.step o a i).desk (rs ++ [⟨some i, a, (d.step o a i).effects⟩])) :
    P (s.after o xs) (s.rounds o xs) := by
  induction xs using List.reverseRecOn with
  | nil => exact hstart
  | append_singleton xs x ih =>
    rw [Opening.after_concat, Opening.rounds_concat]
    exact hstep x.answers x.input ih

end Desk

end PitchDesk

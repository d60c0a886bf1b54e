import PitchDesk.Command.Start

/-!
# Steps of the command

A step of the command is run on the surroundings, fails or brings something, and leaves other
surroundings behind. What a sequence of steps does is read off what each of them does
(`Step.run_bind`), it fails as one of them fails (`Step.FailsOnly.bind`), and what all of them
leave alone stays as it is (`Step.Keeps.bind`). No step before the settings database is opened
touches the databases.

## Why the surroundings stay after a failure

A step that fails keeps what the steps before it have done: a directory that was made is there, and
so is a file. So the result of a step is a pair, with the surroundings beside the failure and not
inside the success. `run_bind` is the only lemma that looks into this; all others are about one
step, and a property of a sequence is put together from those of its steps by the `bind` lemma of
the property.

`FailsOnly` is about all surroundings, since what a step finds depends on the steps before it.
Where a later step cannot fail because of what an earlier one has brought, its `bind` lemma hands
that on.
-/

namespace PitchDesk

/-- Telling a failure in other words does not change what comes without one. -/
theorem Except.mapError_eq_ok_iff {ε ε' α : Type} {wrap : ε → ε'} {r : Except ε α} {a : α} :
    r.mapError wrap = .ok a ↔ r = .ok a := by
  cases r with
  | error e => exact ⟨nofun, nofun⟩
  | ok a' =>
    constructor <;>
    · rintro ⟨⟩
      rfl

namespace Command.Step

variable {α β ε : Type} {x : Step α} {f : α → Step β} {m m' : Machine}

/-! ### Running steps -/

@[simp]
theorem run_get (m : Machine) : (get : Step Machine).run m = (.ok m, m) :=
  rfl

/-- A result that is there already is brought or fails, whatever the surroundings are. -/
@[simp]
theorem run_orFail (wrap : ε → StartError) (r : Except ε α) (m : Machine) :
    (orFail wrap r).run m = (r.mapError wrap, m) := by
  cases r <;> rfl

@[simp]
theorem run_set (m m' : Machine) : (set m' : Step PUnit).run m = (.ok ⟨⟩, m') :=
  rfl

/-- What a step brings and what it leaves behind are all that it does. -/
theorem run_eq_of_fst {r : Except StartError α} (h : (x.run m).1 = r) :
    x.run m = (r, (x.run m).2) :=
  Prod.ext h rfl

/-- What a step brings goes into the steps after it, and none comes after one that failed. -/
theorem run_bind (x : Step α) (f : α → Step β) (m : Machine) :
    (x >>= f).run m =
      match x.run m with
      | (.ok a, m') => (f a).run m'
      | (.error e, m') => (.error e, m') := by
  have hbind : (x >>= f).run m = ExceptT.bindCont f (x.run m).1 (x.run m).2 := rfl
  rw [hbind]
  rcases x.run m with ⟨e | a, m'⟩ <;> rfl

/-- After a step that brings something, the next ones start from what it left behind. -/
theorem run_bind_of_ok {a : α} (h : x.run m = (.ok a, m')) :
    (x >>= f).run m = (f a).run m' := by
  rw [run_bind, h]

/-- A sequence brings something exactly if its first step does, and then the others. -/
theorem run_bind_eq_ok_iff {b : β} :
    (x >>= f).run m = (.ok b, m') ↔
      ∃ a m₁, x.run m = (.ok a, m₁) ∧ (f a).run m₁ = (.ok b, m') := by
  rw [run_bind]
  rcases x.run m with ⟨e | a, m₁⟩
  · constructor
    · rintro ⟨⟩
    · rintro ⟨a, m₂, ⟨⟩, -⟩
  · constructor
    · exact fun h ↦ ⟨a, m₁, rfl, h⟩
    · rintro ⟨a', m₂, ⟨⟩, h⟩
      exact h

@[simp]
theorem run_change (wrap : ε → StartError) (f : Machine → Except ε α × Machine) (m : Machine) :
    (change wrap f).run m = ((f m).1.mapError wrap, (f m).2) := by
  rw [change, run_bind_of_ok (run_get m)]
  show (set (f m).2 >>= fun _ ↦ orFail wrap (f m).1 : Step α).run m = _
  rw [run_bind_of_ok (run_set m _), run_orFail]

/-- Only a result without a failure goes on, with the surroundings as they were. -/
theorem run_orFail_eq_ok_iff {wrap : ε → StartError} {r : Except ε α} {a : α} :
    (orFail wrap r).run m = (.ok a, m') ↔ r = .ok a ∧ m = m' := by
  rw [run_orFail]
  constructor
  · intro h
    obtain ⟨hr, hm⟩ := Prod.mk.inj h
    exact ⟨Except.mapError_eq_ok_iff.1 hr, hm⟩
  · rintro ⟨rfl, rfl⟩
    rfl

/-! ### How steps fail -/

/-- A step fails with nothing but certain failures. -/
def FailsOnly (E : StartError → Prop) (x : Step α) : Prop :=
  ∀ m m' e, x.run m = (.error e, m') → E e

variable {E : StartError → Prop}

theorem failsOnly_pure (a : α) : FailsOnly E (pure a) := by
  rintro m m' e ⟨⟩

theorem failsOnly_modify (f : Machine → Machine) : FailsOnly E (modify f) := by
  rintro m m' e ⟨⟩

theorem failsOnly_get : FailsOnly E get := by
  rintro m m' e ⟨⟩

theorem failsOnly_environment? (name : String) : FailsOnly E (environment? name) := by
  rintro m m' e ⟨⟩

/-- A result that is there already fails with its own failure, told in other words. -/
theorem FailsOnly.orFail {wrap : ε → StartError} {r : Except ε α}
    (h : ∀ e, r = .error e → E (wrap e)) : FailsOnly E (orFail wrap r) := by
  intro m m' e hfail
  rw [run_orFail] at hfail
  cases r with
  | ok a => cases hfail
  | error e' =>
    cases hfail
    exact h e' rfl

/-- Steps one after the other fail as each of them does, where those that come later start with what
the first one may bring. -/
theorem FailsOnly.bind (hx : FailsOnly E x)
    (hf : ∀ a m m', x.run m = (.ok a, m') → FailsOnly E (f a)) : FailsOnly E (x >>= f) := by
  intro m m' e hfail
  rw [run_bind] at hfail
  cases hrun : x.run m with
  | mk r m₁ =>
    rw [hrun] at hfail
    cases r with
    | error e' =>
      cases hfail
      exact hx m m' e hrun
    | ok a => exact hf a m m₁ hrun m₁ m' e hfail

/-! ### What steps leave alone -/

/-- A step does not touch the databases. -/
def Keeps (x : Step α) : Prop :=
  ∀ m, (x.run m).2.databases = m.databases

theorem Keeps.eq (hx : Keeps x) {r : Except StartError α} (h : x.run m = (r, m')) :
    m'.databases = m.databases := by
  rw [← hx m, h]

theorem keeps_pure (a : α) : Keeps (pure a) :=
  fun _ ↦ rfl

theorem keeps_throw (e : StartError) : Keeps (throw e : Step α) :=
  fun _ ↦ rfl

theorem keeps_environment? (name : String) : Keeps (environment? name) :=
  fun _ ↦ rfl

theorem keeps_orFail (wrap : ε → StartError) (r : Except ε α) : Keeps (orFail wrap r) := by
  intro m
  rw [run_orFail]

theorem Keeps.bind (hx : Keeps x) (hf : ∀ a, Keeps (f a)) : Keeps (x >>= f) := by
  intro m
  rw [run_bind, ← hx m]
  rcases x.run m with ⟨e | a, m₁⟩
  · rfl
  · exact hf a m₁

theorem Keeps.change {wrap : ε → StartError} {f : Machine → Except ε α × Machine}
    (hf : ∀ m, (f m).2.databases = m.databases) : Keeps (change wrap f) := by
  intro m
  rw [run_change]
  exact hf m

/-- Other surroundings with the same databases may take the place of those that are there. -/
theorem Keeps.get_set {wrap : ε → StartError} {f : Machine → Except ε Machine}
    {next : PUnit → Step β} (hf : ∀ m m', f m = .ok m' → m'.databases = m.databases)
    (hnext : ∀ u, Keeps (next u)) :
    Keeps (get >>= fun m ↦ orFail wrap (f m) >>= fun m' ↦ set m' >>= next) := by
  intro m
  rw [run_bind_of_ok (run_get m), run_bind, run_orFail]
  cases hm : f m with
  | error e => rfl
  | ok m' => exact (hnext ⟨⟩ m').trans (hf m m' hm)

theorem keeps_ensureDirectories (wrap : FileError → StartError) (path : String) :
    Keeps (ensureDirectories wrap path) :=
  .change fun _ ↦ rfl

/-- To find a directory of the user touches no database. -/
theorem keeps_userDirectory (name inHome : String) (missing : StartError) :
    Keeps (userDirectory name inHome missing) := by
  refine (keeps_environment? _).bind fun own ↦ (keeps_environment? _).bind fun home ↦ ?_
  split
  · exact keeps_pure _
  · exact keeps_pure _
  · exact keeps_throw _

theorem keeps_usualConfigPath : Keeps usualConfigPath := by
  refine (keeps_environment? _).bind fun path ↦ ?_
  split
  · exact keeps_pure _
  · exact (keeps_userDirectory _ _ _).bind fun root ↦
      (keeps_ensureDirectories _ _).bind fun _ ↦ keeps_pure _

theorem keeps_usualDatabasePath : Keeps usualDatabasePath := by
  refine (keeps_environment? _).bind fun path ↦ ?_
  split
  · exact keeps_pure _
  · exact (keeps_userDirectory _ _ _).bind fun root ↦
      (keeps_ensureDirectories _ _).bind fun _ ↦ keeps_pure _

/-- Loading a configuration changes nothing at all. -/
theorem run_loadConfig (path : String) (m : Machine) :
    (loadConfig path).run m =
      (match m.file? path with
      | none => .ok {}
      | some .directory => .error (.configFile path .isDirectory)
      | some (.file content) =>
        match String.fromUTF8? content with
        | some text => (Config.read text).mapError (.config path)
        | none => .error (.config path .notToml), m) := by
  rw [loadConfig, run_bind_of_ok (run_get m)]
  cases m.file? path with
  | none => rfl
  | some node =>
    cases node with
    | directory => rfl
    | file content =>
      cases htext : String.fromUTF8? content with
      | none =>
        simp only [htext]
        rfl
      | some text =>
        simp only [htext]
        exact run_orFail _ _ _

theorem keeps_loadConfig (path : String) : Keeps (loadConfig path) := by
  intro m
  rw [run_loadConfig]

theorem keeps_openLog (path level config : String) : Keeps (openLog path level config) := by
  have hopened : Keeps (do
      set (← orFail (.logFile path) ((← get).touch path))
      let filter := Log.filter (← environment? "VENDORHUB_LOG") level
      let rules ← orFail (.logFilter filter) (Log.readFilter filter)
      if Log.Rule.keep rules Log.starting then
        modify (·.append path (" INFO vendorhub: starting config=" ++ config ++ "\n"))) := by
    refine Keeps.get_set (fun m m' htouch ↦ ?_) fun _ ↦
      (keeps_environment? _).bind fun own ↦ (keeps_orFail _ _).bind fun rules ↦ ?_
    · rw [Machine.touch] at htouch
      cases hfiles : m.files.touch path with
      | error cause => simp [hfiles, Except.map] at htouch
      | ok files =>
        rw [hfiles] at htouch
        cases htouch
        rfl
    · split
      · exact fun _ ↦ rfl
      · exact keeps_pure _
  unfold openLog
  dsimp only
  split
  · exact (keeps_ensureDirectories _ _).bind fun _ ↦ hopened
  · exact hopened

end Command.Step

end PitchDesk

import PitchDesk.Proofs.Command.Step
import PitchDesk.Proofs.Store.Settings

/-!
# What a check is good for

With `--check` the command reads its configuration and opens its settings database, and stops
there. Without it the command does the same and goes on to sign in (`Step.run_start`), so after a
check nothing of what was checked can fail. Signing in reads the stored settings, which the check
does not: what a database holds under a setting may be no text at all, or a text that is no value
of the setting. The address of the user is read before anything else is done, and the switch of the
sidebar at the very end.

* `Step.failsOnly_signIn`: how signing in may fail, with the settings database that it is given;
* `Step.start_of_checked`: how a command may fail whose configuration was checked;
* `Step.unreadable_setting_passes_check`: it may fail with a setting that cannot be read.

## One run against another

The statement compares two runs from the same surroundings, the one that only checks and the one
that goes on. Both begin with `Step.setUp`, and they are told apart by one switch of their options;
`Options.AskForSession` is what has to be known of the two lists of arguments, and nothing else of
them matters. The database that is found is the same in both: no step of `setUp` before it is
opened touches the databases (`PitchDesk.Proofs.Command.Step`), and signing in starts where `setUp`
ended.

Which of the two failures comes first is told too, since they are far apart: an address that cannot
be read ends the command before the service is asked, a switch that cannot be read only after the
service has accepted who signs in.
-/

namespace PitchDesk

namespace Command

/-! ### Options -/

namespace Options

/-- Options that ask for no text to be printed. -/
def PrintsNothing (o : Options) : Prop :=
  o.showsHelp = false ∧ o.printsConfigPath = false ∧ o.printsTemplate = false ∧
    o.printsDatabasePath = false

/-- Arguments that ask for a session, with the configuration that other arguments ask for. -/
def AskForSession (checked arguments : List String) : Prop :=
  ∀ usual o, Options.read usual checked = .ok o → ∃ o', Options.read usual arguments = .ok o' ∧
    o'.PrintsNothing ∧ o'.checksOnly = false ∧ o'.configPath = o.configPath

/-- What a switch does to options that already ask for a check. -/
theorem switch?_check (o : Options) (argument : String) :
    switch? { o with checksOnly := true } argument =
      (o.switch? argument).map fun o ↦ { o with checksOnly := true } := by
  unfold switch?
  split <;> rfl

theorem readFrom_switch (o : Options) {argument : String} (hconfig : argument ≠ "--config")
    (hemail : argument ≠ "--email") (rest : List String) :
    readFrom o (argument :: rest) =
      match o.switch? argument with
      | some o => readFrom o rest
      | none => .error (.unknown argument) := by
  cases hswitch : o.switch? argument with
  | none => simp only [readFrom.eq_def o, if_neg hconfig, if_neg hemail, hswitch]
  | some o' => simp only [readFrom.eq_def o, if_neg hconfig, if_neg hemail, hswitch]

/-- To ask for a check first does not change what else the arguments ask for. -/
theorem readFrom_check (o : Options) (arguments : List String) :
    readFrom { o with checksOnly := true } arguments =
      (readFrom o arguments).map fun o ↦ { o with checksOnly := true } := by
  induction o, arguments using readFrom.induct with
  | case1 o => rfl
  | case2 o path rest ih => simpa [readFrom] using ih
  | case3 o => simp [readFrom, Except.map]
  | case4 o _ email rest ih => simpa [readFrom] using ih
  | case5 o _ => simp [readFrom, Except.map]
  | case6 o argument rest hconfig hemail o' hswitch ih =>
    rw [readFrom_switch _ hconfig hemail, readFrom_switch _ hconfig hemail, switch?_check, hswitch]
    exact ih
  | case7 o argument rest hconfig hemail hswitch =>
    rw [readFrom_switch _ hconfig hemail, readFrom_switch _ hconfig hemail, switch?_check, hswitch]
    rfl

/-- Arguments that ask for a session do so too when a check was asked for before. -/
theorem askForSession_check_cons {arguments : List String}
    (h : ∀ usual o, Options.read usual arguments = .ok o → o.PrintsNothing ∧ o.checksOnly = false) :
    AskForSession ("--check" :: arguments) arguments := by
  intro usual o hread
  have hcheck : Options.read usual ("--check" :: arguments) =
      (Options.read usual arguments).map fun o ↦ { o with checksOnly := true } :=
    (readFrom.eq_def _ _).trans (readFrom_check { configPath := usual } arguments)
  rw [hcheck] at hread
  cases hplain : Options.read usual arguments with
  | error e => simp [hplain, Except.map] at hread
  | ok o' =>
    rw [hplain] at hread
    cases hread
    exact ⟨o', rfl, (h usual o' hplain).1, (h usual o' hplain).2, rfl⟩

end Options

/-! ### Failures -/

/-- Failures of signing in itself: the details, the service, and writing the settings. -/
inductive StartError.OfSigningIn : StartError → Prop
  | credentials (cause : CredentialsError) : OfSigningIn (.credentials cause)
  | signIn (cause : ServiceError) : OfSigningIn (.signIn cause)
  | writeStore (cause : StoreError) : OfSigningIn (.writeStore cause)

/-- The failure to read a setting of a table that cannot be told. -/
def StartError.OfUnreadable (table : SettingTable) (e : StartError) : Prop :=
  ∃ key cause, table.Unreadable key cause ∧ e = .readStore cause

namespace Step

variable {o : Options} {config : Config} {store : Store} {client : Client} {ttl : Duration}
  {table : SettingTable} {m m' : Machine}

/-! ### Signing in -/

/-- With a database that has a table, signing in fails on its own account, or because a stored
setting cannot be read. -/
theorem failsOnly_signIn (htable : store.table = some table) :
    FailsOnly (fun e ↦ e.OfSigningIn ∨ e.OfUnreadable table)
      (signIn o config store client ttl) := by
  unfold signIn
  refine .bind (.orFail fun e hlast ↦ .inr ⟨.lastEmail, e, ?_, rfl⟩) fun last _ _ _ ↦ ?_
  · exact (Store.get?_eq_error_iff htable).1 (Store.lastEmail?_eq_error_iff.1 hlast)
  refine .bind (failsOnly_environment? _) fun password _ _ _ ↦ ?_
  refine .bind (.orFail fun e _ ↦ .inl (.credentials e)) fun form _ _ _ ↦ ?_
  refine .bind failsOnly_get fun _ _ _ _ ↦ ?_
  refine .bind (.orFail fun e _ ↦ .inl (.signIn e)) fun session _ _ _ ↦ ?_
  refine .bind (.orFail fun e _ ↦ .inl (.writeStore e)) fun store' _ _ hput ↦ ?_
  refine .bind (failsOnly_modify _) fun _ _ _ _ ↦ ?_
  refine .bind (.orFail fun e hcollapsed ↦ .inr ⟨.sidebarCollapsed, e, ?_, rfl⟩) fun _ _ _ _ ↦
    failsOnly_pure _
  -- putting the address has left the switch as it was
  have hget := Store.sidebarCollapsed?_eq_error_iff.1 hcollapsed
  rw [Store.get?_put_of_ne (run_orFail_eq_ok_iff.1 hput).1 (by decide)] at hget
  exact (Store.get?_eq_error_iff htable).1 hget

/-- Signing in always fails with an address that cannot be read, whatever the arguments give. -/
theorem run_signIn_of_unreadable (htable : store.table = some table) {cause : StoreError}
    (h : table.Unreadable .lastEmail cause) (m : Machine) :
    (signIn o config store client ttl).run m = (.error (.readStore cause), m) := by
  have hlast : store.lastEmail? = .error cause :=
    Store.lastEmail?_eq_error_iff.2 ((Store.get?_eq_error_iff htable).2 h)
  rw [signIn, run_bind, run_orFail, hlast]
  rfl

/-- What comes of signing in, unless it fails, is a session with settings that can be read. They
could be read before as well. -/
theorem signIn_eq_ok {outcome : Outcome}
    (h : (signIn o config store client ttl).run m = (.ok outcome, m')) :
    ∃ start, outcome = .signedIn start ∧ (∀ key, ∃ value, start.store.get? key = .ok value) ∧
      ∀ key e, store.get? key ≠ .error e := by
  simp only [signIn, run_bind_eq_ok_iff, run_orFail_eq_ok_iff] at h
  obtain ⟨last, _, ⟨hlast, -⟩, password, _, -, form, _, -, _, _, -, session, _, -, store', _,
    ⟨hput, -⟩, _, _, -, collapsed, _, ⟨hcollapsed, -⟩, h⟩ := h
  cases h
  have hswitch : ∃ value, store'.get? .sidebarCollapsed = .ok value := by
    cases hget : store'.get? .sidebarCollapsed with
    | ok value => exact ⟨value, rfl⟩
    | error e =>
      rw [Store.sidebarCollapsed?_eq_error_iff.2 hget] at hcollapsed
      cases hcollapsed
  refine ⟨_, rfl, fun key ↦ ?_, fun key e herror ↦ ?_⟩
  · cases key with
    | lastEmail => exact ⟨_, Store.get?_put hput⟩
    | sidebarCollapsed => exact hswitch
  · cases key with
    | lastEmail =>
      rw [Store.lastEmail?_eq_error_iff.2 herror] at hlast
      cases hlast
    | sidebarCollapsed =>
      obtain ⟨value, hvalue⟩ := hswitch
      rw [Store.get?_put_of_ne hput (by decide), herror] at hvalue
      cases hvalue

/-! ### What is checked -/

/-- What the command has when everything is checked. -/
structure Setup where
  config : Config
  store : Store
  client : Client
  menuCacheTtl : Duration

/-- The path of the settings database. -/
def databasePath (config : Config) : Step String :=
  match config.databasePath? with
  | some path => pure path
  | none => usualDatabasePath

theorem keeps_databasePath (config : Config) : Keeps (databasePath config) := by
  rw [databasePath]
  split
  · exact keeps_pure _
  · exact keeps_usualDatabasePath

/-- Everything that is checked, with the configuration at a path. -/
def setUp (path : String) : Step Setup := do
  let config ← loadConfig path
  let database ← databasePath config
  openLog (config.logFile database) config.logLevel path
  let store ← openStore database
  let _ ← orFail .timeout config.timeout
  let client ← orFail (.baseUrl path) (Client.new config.baseUrl)
  let ttl ← orFail .menuCacheTtl config.menuCacheTtl
  return ⟨config, store, client, ttl⟩

/-- The table of the settings database is new, or that of one of the databases that were there. -/
theorem table_of_openStore {path : String} (h : (openStore path).run m = (.ok store, m')) :
    ∃ table, store.table = some table ∧
      (table.rows = [] ∨ ∃ place, m.databases.lookup place = some (some table)) := by
  simp only [openStore, run_bind_eq_ok_iff, run_orFail_eq_ok_iff] at h
  obtain ⟨opened, m₁, hopen, made, _, ⟨hmade, -⟩, _, _, -, h⟩ := h
  cases h
  rcases Store.table_of_bootstrap hmade with hnew | ⟨rfl, table, htable⟩
  · exact ⟨_, hnew, .inl rfl⟩
  · rw [run_change] at hopen
    have hopened : (Store.open? m.files m.databases path).1 = .ok store :=
      Except.mapError_eq_ok_iff.1 (Prod.mk.inj hopen).1
    exact ⟨table, htable, .inr (Store.lookup_of_open? hopened htable)⟩

/-- The settings that everything is checked with are new, or those of a database that was there. -/
theorem table_of_setUp {path : String} {s : Setup} (h : (setUp path).run m = (.ok s, m')) :
    ∃ table, s.store.table = some table ∧
      (table.rows = [] ∨ ∃ place, m.databases.lookup place = some (some table)) := by
  simp only [setUp, run_bind_eq_ok_iff] at h
  obtain ⟨config, m₁, hconfig, database, m₂, hdatabase, _, m₃, hlog, store, m₄, hstore, _, _, -,
    client, _, -, ttl, _, -, h⟩ := h
  cases h
  -- none of the steps before has touched the databases
  have hkeeps : m₃.databases = m.databases :=
    ((keeps_openLog _ _ _).eq hlog).trans
      (((keeps_databasePath config).eq hdatabase).trans ((keeps_loadConfig path).eq hconfig))
  rw [← hkeeps]
  exact table_of_openStore hstore

variable {usual : String} {m₁ : Machine} {arguments : List String}

/-- A command that prints nothing checks everything, and then signs in unless it only checks. -/
theorem run_start (husual : usualConfigPath.run m = (.ok usual, m₁))
    (hread : Options.read usual arguments = .ok o) (hprints : o.PrintsNothing) :
    (start arguments).run m = (setUp o.configPath >>= fun s ↦
      if o.checksOnly then pure .checked
      else signIn o s.config s.store s.client s.menuCacheTtl).run m₁ := by
  obtain ⟨hhelp, hpath, htemplate, hdatabase⟩ := hprints
  rw [start, run_bind_of_ok husual, hread, run_bind_of_ok (run_orFail _ _ _)]
  simp only [hhelp, hpath, htemplate, hdatabase, setUp, bind_assoc, pure_bind,
    Bool.false_eq_true, if_false]
  refine congrArg (fun x : Step Outcome ↦ x.run m₁) (bind_congr fun config ↦ ?_)
  rw [databasePath]
  cases config.databasePath? with
  | none => rfl
  | some path => simp only [pure_bind]

/-- A command that only checks and succeeds has checked everything. -/
theorem setUp_of_checked (h : (start arguments).run m = (.ok .checked, m')) :
    ∃ usual m₁ o s, usualConfigPath.run m = (.ok usual, m₁) ∧
      Options.read usual arguments = .ok o ∧ (setUp o.configPath).run m₁ = (.ok s, m') := by
  have hstart := h
  rw [start, run_bind_eq_ok_iff] at h
  obtain ⟨usual, m₁, husual, h⟩ := h
  rw [run_bind_eq_ok_iff] at h
  obtain ⟨o, _, hoptions, h⟩ := h
  obtain ⟨hread, rfl⟩ := run_orFail_eq_ok_iff.1 hoptions
  have hprints : o.PrintsNothing := by
    -- each text that can be asked for would be printed in place of the check
    split at h
    · cases h
    split at h
    · cases h
    split at h
    · cases h
    rename_i hhelp hpath htemplate
    refine ⟨Bool.eq_false_iff.2 hhelp, Bool.eq_false_iff.2 hpath, Bool.eq_false_iff.2 htemplate,
      Bool.eq_false_iff.2 fun hdatabase ↦ ?_⟩
    rw [run_bind_eq_ok_iff] at h
    obtain ⟨config, m₂, -, h⟩ := h
    simp only [hdatabase, if_true] at h
    split at h <;>
    · rw [run_bind_eq_ok_iff] at h
      obtain ⟨database, _, -, h⟩ := h
      cases h
  rw [run_start husual hread hprints, run_bind_eq_ok_iff] at hstart
  obtain ⟨s, _, hsetUp, hend⟩ := hstart
  split at hend
  · cases hend
    exact ⟨usual, m₁, o, s, husual, hread, hsetUp⟩
  · obtain ⟨start, houtcome, -, -⟩ := signIn_eq_ok hend
    cases houtcome

/-- **After a check only signing in can fail, but for a setting that cannot be read.** Whatever the
surroundings are, if a command that checks them succeeds, then a command that asks for a session
with the same configuration finds a table of settings, which is new or was there before, and
1. if what stands in the table under the settings are texts that are values of them, it comes to a
session whose settings all can be read, or fails with the details to sign in with, with the service,
or with writing a setting;
2. otherwise it never comes to a session, and fails with one of these or with a setting that it
cannot read;
3. and if it is the address of the user that is no text, it fails with that, before it signs in. -/
theorem start_of_checked {checked arguments : List String}
    (hchecked : (start checked).run m = (.ok .checked, m'))
    (hask : Options.AskForSession checked arguments) :
    ∃ table : SettingTable,
      (table.rows = [] ∨ ∃ place, m.databases.lookup place = some (some table)) ∧
      (table.Readable →
        (∃ s m'', (start arguments).run m = (.ok (.signedIn s), m'') ∧
          ∀ key, ∃ value, s.store.get? key = .ok value) ∨
        ∃ e m'', (start arguments).run m = (.error e, m'') ∧ e.OfSigningIn) ∧
      (¬table.Readable → ∃ e m'', (start arguments).run m = (.error e, m'') ∧
        (e.OfSigningIn ∨ e.OfUnreadable table)) ∧
      ∀ cause, table.Unreadable .lastEmail cause →
        (start arguments).run m = (.error (.readStore cause), m') := by
  obtain ⟨usual, m₁, o, s, husual, hread, hsetUp⟩ := setUp_of_checked hchecked
  obtain ⟨o', hread', hprints, honly, hpath⟩ := hask usual o hread
  have hrun : (start arguments).run m =
      (signIn o' s.config s.store s.client s.menuCacheTtl).run m' := by
    rw [run_start husual hread' hprints, hpath, run_bind_of_ok hsetUp, honly]
    rfl
  obtain ⟨table, htable, hold⟩ := table_of_setUp hsetUp
  rw [keeps_usualConfigPath.eq husual] at hold
  -- up to here both commands do the same; what is left to look at is signing in
  rw [hrun]
  refine ⟨table, hold, and_assoc.1
    ⟨?_, fun cause hcause ↦ run_signIn_of_unreadable htable hcause m'⟩⟩
  rcases hend : (signIn o' s.config s.store s.client s.menuCacheTtl).run m' with ⟨e | outcome, m''⟩
  · have hfail := failsOnly_signIn htable m' m'' e hend
    refine ⟨fun hreadable ↦ .inr ⟨e, m'', rfl, hfail.resolve_right ?_⟩,
      fun _ ↦ ⟨e, m'', rfl, hfail⟩⟩
    rintro ⟨key, cause, hcause, -⟩
    exact SettingTable.readable_iff.1 hreadable key cause hcause
  · obtain ⟨start, rfl, hvalues, hnone⟩ := signIn_eq_ok hend
    refine ⟨fun _ ↦ .inl ⟨start, m'', rfl, hvalues⟩, fun hunreadable ↦ absurd ?_ hunreadable⟩
    exact SettingTable.readable_iff.2 fun key cause hcause ↦
      hnone key cause ((Store.get?_eq_error_iff htable).2 hcause)

/-- A machine without a configuration file, on which the service accepts whoever signs in, and the
settings database has some rows. -/
def sampleMachine (rows : List (String × Stored)) : Machine where
  environment := [("VENDORHUB_CONFIG_PATH", "config.toml"), ("VENDORHUB_DB_PATH", "settings.db"),
    ("VENDORHUB_LOG", "off"), ("VENDORHUB_PASSWORD", "a long password")]
  files := (FileTree.empty "/desk").insert "settings.db" (.file "a database".toUTF8)
  databases := [(["settings.db"], some ⟨.current, rows⟩)]
  send := fun _ ↦ .ok ⟨200, "\x7b\"status\":true,\"data\":\x7b\"token\":\"t\",\"user\":" ++
    "\x7b\"id\":7,\"name\":\"Mira\",\"email\":\"mira@desk.test\",\"role\":\"admin\"\x7d\x7d\x7d"⟩
  noTerminal := "no terminal"

/-- Arguments that ask for a session. -/
def sampleArguments : List String := ["--email", "mira@desk.test"]

theorem askForSession_sample :
    Options.AskForSession ("--check" :: sampleArguments) sampleArguments := by
  refine Options.askForSession_check_cons fun usual o hread ↦ ?_
  cases hread
  exact ⟨⟨rfl, rfl, rfl, rfl⟩, rfl⟩

/-- Rows with a switch that a person may have written by hand. -/
def handwrittenRows : List (String × Stored) :=
  [("auth.last_email", .text " mira@desk.test "), ("ui.sidebar_collapsed", .text " On ")]

/-- What was written by hand is read, if it is a value of its setting. -/
theorem session_of_checked :
    ∃ m' s m'', (start ("--check" :: sampleArguments)).run (sampleMachine handwrittenRows) =
        (.ok .checked, m') ∧
      (start sampleArguments).run (sampleMachine handwrittenRows) = (.ok (.signedIn s), m'') ∧
      ∀ key, ∃ value, s.store.get? key = .ok value := by
  have hok : ((start ("--check" :: sampleArguments)).run (sampleMachine handwrittenRows)).1 =
      .ok .checked := by
    decide +kernel
  have hsession :
      ((start sampleArguments).run (sampleMachine handwrittenRows)).1.isOk = true := by
    decide +kernel
  have hchecked := run_eq_of_fst hok
  obtain ⟨table, htable, hreadable, -⟩ := start_of_checked hchecked askForSession_sample
  have hvalues : table.Readable := by
    rintro key stored hstored
    rcases htable with hrows | ⟨place, hplace⟩
    · rw [hrows] at hstored
      cases hstored
    · simp only [sampleMachine, List.lookup_cons, List.lookup_nil] at hplace
      split at hplace
      · cases hplace
        cases key <;> cases hstored <;> exact ⟨_, rfl, by decide +kernel⟩
      · cases hplace
  rcases hreadable hvalues with ⟨s, m'', hrun, hvalues⟩ | ⟨e, m'', hrun, -⟩
  · exact ⟨_, s, m'', hchecked, hrun, hvalues⟩
  · rw [hrun] at hsession
    cases hsession

/-- Rows with a switch that is no truth value. -/
def sidewaysRows : List (String × Stored) :=
  [("ui.sidebar_collapsed", .text "sideways")]

/-- Rows with an address that is stored as bytes. -/
def blobRows : List (String × Stored) :=
  [("auth.last_email", .other ["Invalid column type Blob at index: 0, name: value"])]

/-- Anything else passes the check, and then the command fails: with a switch that is no truth value
after the service has accepted who signs in, and with an address that is no text before that. -/
theorem unreadable_setting_passes_check :
    Options.AskForSession ("--check" :: sampleArguments) sampleArguments ∧
      ((start ("--check" :: sampleArguments)).run (sampleMachine sidewaysRows)).1 =
        .ok .checked ∧
      ((start sampleArguments).run (sampleMachine sidewaysRows)).1 =
        .error (.readStore (.invalidValue .sidebarCollapsed "sideways")) ∧
      ((start ("--check" :: sampleArguments)).run (sampleMachine blobRows)).1 = .ok .checked ∧
      ((start sampleArguments).run (sampleMachine blobRows)).1 =
        .error (.readStore (.notText "auth.last_email"
          ["Invalid column type Blob at index: 0, name: value"])) := by
  refine ⟨askForSession_sample, ?_, ?_, ?_, ?_⟩ <;> decide +kernel

end Step

end Command

end PitchDesk

import PitchDesk.Proofs.Text.Blank
import PitchDesk.Store.Basic

/-!
# A store as a map

To its users a store is a map from settings to values, although it holds texts under texts. Two
facts carry this: a text that was put under a key is the one that is found there, and nothing
changes under another key (`SettingTable.lookup_put`, `SettingTable.lookup_put_of_ne`); and the
text under which a value is stored reads back as that value (`SettingValue.read?_of_stored?`).

Others may have written to a table as well, so that what stands under a key is no text, or a text
that is no value of the setting. `SettingTable.Unreadable` lists these cases, and
`Store.get?_eq_error_iff` says that there are no others in which a store with a table does not tell
a setting.

* `Store.get?_put` and `Store.get?_put_of_ne`: what a put changes and what it leaves alone;
* `Store.settings_of_run`: along every run of operations each setting has the value that was put
  last;
* `Store.settings_lost_in_memory`: a store in memory does not outlive being opened again.

## What a run keeps

A run starts with a store whose table is made then, so all that it holds was put by the run. An
operation may fail, and then the store stays as it was: `put_eq_ok_iff` says all that a put has done
which did not fail, so nothing is half done. Opening a store again gives what its file has, which is
why only a store with a file may be opened again, and a table that was made before is kept
(`table_of_bootstrap`).
-/

namespace PitchDesk

/-! ### Texts under texts -/

namespace SettingTable

variable {key other text : String} {rows : List (String × Stored)}

/-- The text that was put under a key is found there. -/
theorem lookup_put : (put key text rows).lookup key = some (.text text) := by
  induction rows with
  | nil => simp [put]
  | cons row rows ih =>
    rw [put]
    split
    · simp
    · rename_i hrow
      split
      · simp
      · have hkey : (key == row.1) = false := by simpa using Ne.symm hrow
        rw [List.lookup_cons, hkey]
        exact ih

/-- What stands under another key stays when a text is put. -/
theorem lookup_put_of_ne (h : other ≠ key) :
    (put key text rows).lookup other = rows.lookup other := by
  have hother : (other == key) = false := by simpa using h
  induction rows with
  | nil => simp [put, List.lookup_cons, hother]
  | cons row rows ih =>
    rw [put]
    split
    · rename_i hrow
      rw [List.lookup_cons, List.lookup_cons, hother, hrow, hother]
    · split
      · rw [List.lookup_cons, hother]
      · rw [List.lookup_cons, List.lookup_cons, ih]

end SettingTable

/-! ### Values as texts -/

/-- Settings are told apart by what their keys are called. -/
theorem SettingKey.code_inj {key other : SettingKey} : key.code = other.code ↔ key = other := by
  cases key <;> cases other <;> decide

namespace SettingValue

variable {key : SettingKey} {value : SettingValue} {stored : String}

/-- The kind of a value. -/
def kind : SettingValue → SettingKind
  | .bool _ => .bool
  | .text _ => .text

/-- The text that a value is, if it is one. -/
def text? : SettingValue → Option String
  | .bool _ => none
  | .text s => some s

/-- The text under which a value is stored reads back as that value. -/
theorem read?_of_stored? (h : value.stored? key = some stored) : read? key stored = some value := by
  cases key with
  | sidebarCollapsed =>
    cases value with
    | bool b =>
      cases h
      cases b <;> decide +kernel
    | text s => cases h
  | lastEmail =>
    cases value with
    | bool b => cases h
    | text s =>
      cases h
      rfl

/-- A setting stores the values of its kind. -/
theorem stored?_eq_none_iff : value.stored? key = none ↔ value.kind ≠ key.kind := by
  cases key <;> cases value <;> simp [stored?, kind, SettingKey.kind]

end SettingValue

/-! ### What a table may hold -/

namespace SettingTable

variable {t : SettingTable} {key : SettingKey} {e : StoreError}

/-- What stands under the settings of a table, if anything does, are texts that are values of them.
-/
def Readable (t : SettingTable) : Prop :=
  ∀ key stored, t.rows.lookup (SettingKey.code key) = some stored →
    ∃ text, stored = .text text ∧ SettingValue.read? key text ≠ none

/-- A setting of a table cannot be told, and why. -/
inductive Unreadable (t : SettingTable) : SettingKey → StoreError → Prop
  | notText {key : SettingKey} {complaint : List String}
    (stored : t.rows.lookup key.code = some (.other complaint)) :
    Unreadable t key (.notText key.code complaint)
  | notValue {key : SettingKey} {text : String}
    (stored : t.rows.lookup key.code = some (.text text))
    (notValue : SettingValue.read? key text = none) : Unreadable t key (.invalidValue key text)

/-- A table is readable if each of its settings can be told. -/
theorem readable_iff : t.Readable ↔ ∀ key e, ¬t.Unreadable key e := by
  constructor
  · rintro h key e (hstored | ⟨hstored, hnot⟩)
    · obtain ⟨text, ⟨⟩, -⟩ := h key _ hstored
    · obtain ⟨text, ⟨⟩, hvalue⟩ := h key _ hstored
      exact hvalue hnot
  · rintro h key (text | complaint) hstored
    · exact ⟨text, rfl, fun hnot ↦ h key _ (.notValue hstored hnot)⟩
    · exact absurd (.notText hstored) (h key _)

/-- Any text is an address, so the address cannot be told only if it is no text. -/
theorem unreadable_lastEmail_iff :
    t.Unreadable .lastEmail e ↔ ∃ complaint,
      t.rows.lookup SettingKey.lastEmail.code = some (.other complaint) ∧
        e = .notText SettingKey.lastEmail.code complaint := by
  constructor
  · rintro (hstored | ⟨-, hnot⟩)
    · exact ⟨_, hstored, rfl⟩
    · cases hnot
  · rintro ⟨complaint, hstored, rfl⟩
    exact .notText hstored

end SettingTable

/-! ### Putting and getting -/

namespace Store

variable {s s' : Store} {key other : SettingKey} {value : SettingValue} {table : SettingTable}

/-- A store has a table that can be read and written. -/
def Ready (s : Store) : Prop :=
  ∃ rows, s.table = some ⟨.current, rows⟩

/-- A setting is what its table holds under its key, read as a value. -/
theorem get?_of_table (h : s.table = some table) (key : SettingKey) :
    s.get? key = match table.rows.lookup key.code with
      | none => .ok none
      | some (.other complaint) => .error (.notText key.code complaint)
      | some (.text text) =>
        match SettingValue.read? key text with
        | some value => .ok (some value)
        | none => .error (.invalidValue key text) := by
  rw [get?, raw?, h]
  dsimp only
  rcases table.rows.lookup key.code with - | text | complaint
  · rfl
  · show (match SettingValue.read? key text with | some value => _ | none => _) =
      (match SettingValue.read? key text with | some value => _ | none => _)
    cases SettingValue.read? key text <;> rfl
  · rfl

/-- A store with a table tells a setting unless that is unreadable in the table. -/
theorem get?_eq_error_iff (h : s.table = some table) {e : StoreError} :
    s.get? key = .error e ↔ table.Unreadable key e := by
  rw [get?_of_table h]
  constructor
  · intro herror
    split at herror
    · cases herror
    · cases herror
      exact .notText ‹_›
    · split at herror <;> cases herror
      exact .notValue ‹_› ‹_›
  · rintro (hstored | ⟨hstored, hnot⟩)
    · rw [hstored]
    · simp only [hstored, hnot]

/-- What a put that did not fail did. -/
theorem put_eq_ok_iff : s.put key value = .ok s' ↔
    ∃ stored rows, value.stored? key = some stored ∧ s.table = some ⟨.current, rows⟩ ∧
      { s with table := some ⟨.current, SettingTable.put key.code stored rows⟩ } = s' := by
  rw [put]
  cases value.stored? key with
  | none => simp
  | some stored =>
    simp only [putRaw]
    cases s.table with
    | none => simp
    | some table =>
      obtain ⟨form, rows⟩ := table
      cases form <;> simp

theorem Ready.put (h : s.Ready) (hkind : value.kind = key.kind) :
    ∃ s', s.put key value = .ok s' := by
  obtain ⟨rows, hrows⟩ := h
  cases hstored : value.stored? key with
  | none => exact absurd hkind (SettingValue.stored?_eq_none_iff.1 hstored)
  | some stored => exact ⟨_, put_eq_ok_iff.2 ⟨stored, rows, hstored, hrows, rfl⟩⟩

/-- Values of another kind are not put. -/
theorem put_of_kind_ne (h : value.kind ≠ key.kind) : s.put key value = .error (.wrongKind key) := by
  rw [put, SettingValue.stored?_eq_none_iff.2 h]

/-- A store that something was put into is ready for more. -/
theorem ready_of_put (h : s.put key value = .ok s') : s'.Ready := by
  obtain ⟨stored, rows, -, -, rfl⟩ := put_eq_ok_iff.1 h
  exact ⟨_, rfl⟩

/-- A value that was put is what is got. -/
theorem get?_put (h : s.put key value = .ok s') : s'.get? key = .ok (some value) := by
  obtain ⟨stored, rows, hstored, -, rfl⟩ := put_eq_ok_iff.1 h
  rw [get?_of_table rfl, SettingTable.lookup_put]
  simp only [SettingValue.read?_of_stored? hstored]

/-- Putting one setting leaves the others alone. -/
theorem get?_put_of_ne (h : s.put key value = .ok s') (hne : other ≠ key) :
    s'.get? other = s.get? other := by
  obtain ⟨stored, rows, -, hrows, rfl⟩ := put_eq_ok_iff.1 h
  have hcode : other.code ≠ key.code := fun hcode ↦ hne (SettingKey.code_inj.1 hcode)
  rw [get?_of_table rfl, get?_of_table hrows, SettingTable.lookup_put_of_ne hcode]

/-! ### Opening -/

/-- A database that is opened has the table that its file has. -/
theorem lookup_of_open? {files : FileTree} {databases : List (List String × Option SettingTable)}
    {path : String} (h : (open? files databases path).1 = .ok s) (htable : s.table = some table) :
    ∃ place, databases.lookup place = some (some table) := by
  unfold open? at h
  split at h
  · cases h
  · cases h
    cases htable
  · rename_i place _
    split at h
    · rename_i kept hkept
      cases h
      cases htable
      exact ⟨place, hkept⟩
    · split at h
      · cases h
      · dsimp only at h
        split at h <;> cases h
        cases htable

/-- A table is made where there is none, and stays where there is one. -/
theorem table_of_bootstrap (h : s.bootstrap = .ok s') :
    s'.table = some ⟨.current, []⟩ ∨ s' = s ∧ ∃ table, s.table = some table := by
  rw [bootstrap] at h
  cases htable : s.table with
  | none =>
    rw [htable] at h
    cases h
    exact .inl rfl
  | some table =>
    simp only [htable] at h
    split at h
    · cases h
    · cases h
      exact .inr ⟨rfl, table, rfl⟩

/-! ### Runs -/

/-- What is done with a store. -/
inductive Op where
  | put (key : SettingKey) (value : SettingValue)
  | putSidebarCollapsed (collapsed : Bool)
  | putLastEmail (email : String)
  | bootstrap
  | reopen
  deriving DecidableEq, Repr

/-- What comes of an operation. -/
def step (s : Store) : Op → Except StoreError Store
  | .put key value => s.put key value
  | .putSidebarCollapsed collapsed => s.putSidebarCollapsed collapsed
  | .putLastEmail email => s.putLastEmail email
  | .bootstrap => s.bootstrap
  | .reopen => .ok s.reopen

/-- The setting that an operation puts, with its value. An address is put without the blanks around
it. -/
def Op.assigned? : Op → Option (SettingKey × SettingValue)
  | .put key value => some (key, value)
  | .putSidebarCollapsed collapsed => some (.sidebarCollapsed, .bool collapsed)
  | .putLastEmail email => some (.lastEmail, .text (Text.trim email))
  | .bootstrap => none
  | .reopen => none

/-- The store after an operation. One that fails leaves it as it is. -/
def after (s : Store) (op : Op) : Store :=
  match s.step op with
  | .ok s' => s'
  | .error _ => s

/-- What an operation put, unless it failed. -/
def entries (s : Store) (op : Op) : List (SettingKey × SettingValue) :=
  match s.step op with
  | .ok _ => op.assigned?.toList
  | .error _ => []

/-- A run of operations from a store with a new table. The log has the settings that were put, the
latest last. A store in memory is not opened again on the way. -/
inductive Run : Store → List (SettingKey × SettingValue) → Prop where
  | new {s s' : Store} (empty : s.table = none) (made : s.bootstrap = .ok s') : Run s' []
  | step {s : Store} {log : List (SettingKey × SettingValue)} (before : Run s log) (op : Op)
    (kept : op = .reopen → s.file.isSome) : Run (s.after op) (log ++ s.entries op)

/-- The value that was put last under a key. -/
def lastPut? (log : List (SettingKey × SettingValue)) (key : SettingKey) : Option SettingValue :=
  log.reverse.lookup key

variable {op : Op} {log : List (SettingKey × SettingValue)}

theorem lastPut?_concat (log : List (SettingKey × SettingValue)) (key : SettingKey)
    (value : SettingValue) (other : SettingKey) :
    lastPut? (log ++ [(key, value)]) other =
      if other = key then some value else lastPut? log other := by
  rw [lastPut?, List.reverse_concat, List.lookup_cons]
  by_cases h : other = key
  · simp [h]
  · rw [if_neg h, beq_eq_false_iff_ne.2 h, lastPut?]

/-- Every route to put a setting is a put. -/
theorem step_of_assigned? (h : op.assigned? = some (key, value)) : s.step op = s.put key value := by
  cases op <;> cases h <;> rfl

/-- Opening a store again, or making its table again, changes nothing unless it is in memory. -/
theorem Ready.step_of_assigned?_eq_none (h : s.Ready) (hop : op.assigned? = none)
    (kept : op = .reopen → s.file.isSome) : s.step op = .ok s := by
  obtain ⟨rows, hrows⟩ := h
  cases op with
  | put _ _ | putSidebarCollapsed _ | putLastEmail _ => cases hop
  | bootstrap => simp [step, bootstrap, hrows]
  | reopen => simp [step, reopen, kept rfl]

theorem after_of_ok (h : s.step op = .ok s') :
    s.after op = s' ∧ s.entries op = op.assigned?.toList := by
  simp [after, entries, h]

theorem after_of_error {e : StoreError} (h : s.step op = .error e) :
    s.after op = s ∧ s.entries op = [] := by
  simp [after, entries, h]

/-- What every store on a run is: one that can be used and has the values that were put last. -/
theorem Run.holds (h : Run s log) : s.Ready ∧ ∀ key, s.get? key = .ok (lastPut? log key) := by
  induction h with
  | @new s s' empty made =>
    rw [bootstrap, empty] at made
    cases made
    refine ⟨⟨[], rfl⟩, fun key ↦ ?_⟩
    rw [get?_of_table rfl]
    rfl
  | @step s log before op kept ih =>
    obtain ⟨hready, hget⟩ := ih
    cases hassigned : op.assigned? with
    | none =>
      obtain ⟨hafter, hentries⟩ := after_of_ok (hready.step_of_assigned?_eq_none hassigned kept)
      rw [hafter, hentries, hassigned, Option.toList_none, List.append_nil]
      exact ⟨hready, hget⟩
    | some entry =>
      obtain ⟨key, value⟩ := entry
      -- a value of another kind is refused and is not in the log either
      by_cases hkind : value.kind = key.kind
      · obtain ⟨s', hput⟩ := hready.put hkind
        obtain ⟨hafter, hentries⟩ := after_of_ok ((step_of_assigned? hassigned).trans hput)
        rw [hafter, hentries, hassigned, Option.toList_some]
        refine ⟨ready_of_put hput, fun other ↦ ?_⟩
        rw [lastPut?_concat]
        split
        · subst other
          exact get?_put hput
        · rw [get?_put_of_ne hput ‹_›, hget]
      · obtain ⟨hafter, hentries⟩ :=
          after_of_error ((step_of_assigned? hassigned).trans (put_of_kind_ne hkind))
        rw [hafter, hentries, List.append_nil]
        exact ⟨hready, hget⟩

/-! ### What is read of a store -/

/-- The settings that are listed are those that are there, in the order of the settings. -/
theorem settings_eq {last : SettingKey → Option SettingValue}
    (h : ∀ key, s.get? key = .ok (last key)) :
    s.settings = .ok (SettingKey.all.filterMap fun key ↦ (last key).map (key, ·)) := by
  simp only [settings, SettingKey.all, List.mapM_cons, List.mapM_nil, h]
  rfl

/-- The address that was used last is told without the blanks around it, unless nothing else is
left. -/
theorem lastEmail?_eq {last : Option SettingValue} (h : s.get? .lastEmail = .ok last) :
    s.lastEmail? = .ok (((last.bind (·.text?)).map Text.trim).filter (· ≠ "")) := by
  rw [lastEmail?, h]
  cases last with
  | none => rfl
  | some value =>
    cases value with
    | bool b => rfl
    | text email =>
      show Except.ok (if Text.isBlankText email then none else some (Text.trim email)) =
        Except.ok ((some (Text.trim email)).filter (· ≠ ""))
      rw [Option.filter_some]
      by_cases hblank : Text.isBlankText email = true
      · simp [hblank, Text.trim_eq_empty_iff.2 hblank]
      · simp [hblank, Text.trim_eq_empty_iff]

/-- The address is told unless its value cannot be. -/
theorem lastEmail?_eq_error_iff {e : StoreError} :
    s.lastEmail? = .error e ↔ s.get? .lastEmail = .error e := by
  cases hget : s.get? .lastEmail with
  | ok value => simp [lastEmail?_eq hget]
  | error e' => simp [lastEmail?, hget, bind, Except.bind]

/-- The switch of the sidebar is told unless its value cannot be. -/
theorem sidebarCollapsed?_eq_error_iff {e : StoreError} :
    s.sidebarCollapsed? = .error e ↔ s.get? .sidebarCollapsed = .error e := by
  rw [sidebarCollapsed?]
  rcases s.get? .sidebarCollapsed with e' | - | b | text <;>
    simp [bind, Except.bind, pure, Except.pure]

/-- **A store is a map that remembers.** Along every run of operations:
1. each setting has the value that was put last under it, and none if none was put;
2. a value of the kind of its setting is put, which leaves the other settings alone, and any other
value is refused, which leaves the store as it is;
3. the address is told without the blanks around it, unless it is blank or was never put;
4. the settings that have a value are listed in order, with those values;
5. a store in memory that is opened again has no table, and the one that is made for it is new. -/
theorem settings_of_run (h : Run s log) :
    (∀ key, s.get? key = .ok (lastPut? log key)) ∧
    (∀ op key value, op.assigned? = some (key, value) →
      (value.kind = key.kind →
        ∃ s', s.step op = .ok s' ∧ ∀ other, other ≠ key → s'.get? other = s.get? other) ∧
      (value.kind ≠ key.kind → s.step op = .error (.wrongKind key) ∧ s.after op = s)) ∧
    s.lastEmail? =
      .ok ((((lastPut? log .lastEmail).bind (·.text?)).map Text.trim).filter (· ≠ "")) ∧
    s.settings = .ok (SettingKey.all.filterMap fun key ↦ (lastPut? log key).map (key, ·)) ∧
    (s.file = none → (∀ key, s.reopen.get? key = .error (.unreadable key.code)) ∧
      ∃ s', s.reopen.bootstrap = .ok s' ∧ Run s' []) := by
  obtain ⟨hready, hget⟩ := h.holds
  refine ⟨hget, fun op key value hassigned ↦ ⟨fun hkind ↦ ?_, fun hkind ↦ ?_⟩,
    lastEmail?_eq (hget _), settings_eq hget, fun hfile ↦ ?_⟩
  · obtain ⟨s', hput⟩ := hready.put hkind
    exact ⟨s', (step_of_assigned? hassigned).trans hput, fun other hne ↦ get?_put_of_ne hput hne⟩
  · have hstep := (step_of_assigned? hassigned).trans (put_of_kind_ne (s := s) hkind)
    exact ⟨hstep, (after_of_error hstep).1⟩
  · have hreopen : s.reopen = inMemory := by simp [reopen, hfile]
    rw [hreopen]
    exact ⟨fun key ↦ rfl, _, rfl, .new (s := inMemory) rfl rfl⟩

/-- In a file the settings outlive being opened again: an address with blanks around it and a
switch, which was first put as a text in vain. -/
theorem settings_outlive_reopening :
    ∃ s log, Run s log ∧ s.file = some ["settings.db"] ∧
      log = [(.lastEmail, .text " ops@hub.test "), (.sidebarCollapsed, .bool true)] ∧
      s.get? .lastEmail = .ok (some (.text " ops@hub.test ")) ∧
      s.lastEmail? = .ok (some "ops@hub.test") ∧
      s.settings =
        .ok [(.sidebarCollapsed, .bool true), (.lastEmail, .text " ops@hub.test ")] := by
  have h : Run _ _ :=
    .step (.step (.step (.step (.step (.new (s := ⟨some ["settings.db"], none⟩) rfl rfl)
      (.put .lastEmail (.text " ops@hub.test ")) nofun)
      (.put .sidebarCollapsed (.text "yes")) nofun)
      (.putSidebarCollapsed true) nofun)
      .reopen fun _ ↦ by decide +kernel)
      .bootstrap nofun
  obtain ⟨hget, -, hemail, hsettings, -⟩ := settings_of_run h
  refine ⟨_, _, h, ?_, ?_, (hget _).trans ?_, hemail.trans ?_, hsettings.trans ?_⟩ <;>
    decide +kernel

/-- In memory they do not: what was put is gone once the store is opened again, first with the table
and then for good. -/
theorem settings_lost_in_memory :
    ∃ s s' s'', inMemory.bootstrap = .ok s ∧ s.putSidebarCollapsed true = .ok s' ∧
      s'.get? .sidebarCollapsed = .ok (some (.bool true)) ∧
      s'.reopen.get? .sidebarCollapsed = .error (.unreadable "ui.sidebar_collapsed") ∧
      s'.reopen.bootstrap = .ok s'' ∧ s''.get? .sidebarCollapsed = .ok none := by
  refine ⟨_, _, _, rfl, rfl, ?_, ?_, rfl, ?_⟩ <;> decide +kernel

end Store

end PitchDesk

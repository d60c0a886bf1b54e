import PitchDesk.Proofs.Command.Step
import PitchDesk.Proofs.Service.Envelope
import PitchDesk.Proofs.Text.Blank

/-!
# What an accepted configuration says

A configuration is checked once, when it is loaded, and asked many times afterwards. The check
looks at what the file gives as it stands there, and what is asked for is made of it by other
steps, or is taken from elsewhere where nothing is given. So each part of the check has a statement
of its own about what may be asked for after it.

* `Config.check_eq_ok_iff`: a configuration is accepted if every part of it is;
* `Config.answers_of_load`: what every configuration that was loaded says, and which two questions
  it may fail to answer;
* `Config.load_unanswerableFile`: a file that fails both is accepted.

Two parts are checked for less than is asked of them later. An address must not be blank, but the
slashes at its end are dropped only when it is asked for, and nothing may be left. A lifetime must
be a duration, but it is then turned into one that is counted with a sign, and may be too long for
that. For each the exact condition on the file is stated, `GivesSlashes` and `GivesEndlessTtl`, so
that all other files are known to answer.
-/

namespace PitchDesk

/-- Nothing is left of an address without its slashes exactly if it is nothing but slashes. -/
theorem Url.withoutSlashes_eq_empty_iff {text : String} :
    withoutSlashes text = "" ↔ ∀ ch ∈ (Text.trim text).toList, ch = '/' := by
  rw [withoutSlashes, String.ofList_eq_empty_iff]
  refine List.rdropWhile_eq_nil_iff.trans ?_
  simp only [beq_iff_eq]

namespace Config

variable {c : Config}

/-! ### One check after the other -/

/-- A configuration is accepted if each of its parts is. -/
theorem check_eq_ok_iff : c.check = .ok () ↔
    c.checkBaseUrl = .ok () ∧ c.checkTimeout = .ok () ∧ c.checkPageSize = .ok () ∧
      c.checkDatabasePath = .ok () ∧ c.checkMaxUploadSize = .ok () ∧
      c.checkMenuCacheTtl = .ok () ∧ c.checkLogLevel = .ok () := by
  simp only [check, Except.bind_eq_ok_iff, Unique.exists_iff]

/-! ### What each part of the check is good for -/

/-- The address that a file gives is nothing but slashes. -/
def GivesSlashes (c : Config) : Prop :=
  ∃ raw, c.baseUrl? = some raw ∧ Text.trim raw ≠ "" ∧ ∀ ch ∈ (Text.trim raw).toList, ch = '/'

/-- Of an address that is accepted nothing is left exactly if it is nothing but slashes. -/
theorem baseUrl_eq_empty_iff (h : c.checkBaseUrl = .ok ()) : c.baseUrl = "" ↔ c.GivesSlashes := by
  rw [baseUrl, GivesSlashes, Url.withoutSlashes_eq_empty_iff]
  rw [checkBaseUrl] at h
  cases hgiven : c.baseUrl? with
  | none =>
    refine ⟨fun hslashes ↦ ?_, by rintro ⟨raw, ⟨⟩, -⟩⟩
    have hletter : 'h' ∈ (Text.trim defaultBaseUrl).toList := by decide +kernel
    exact absurd (hslashes 'h' hletter) (by decide)
  | some raw =>
    have hraw : Text.trim raw ≠ "" := by
      rw [ne_eq, Text.trim_eq_empty_iff]
      intro hblank
      simp [hgiven, hblank] at h
    simp [hraw]

/-- A time limit that is accepted can be told, and is longer than none. -/
theorem timeout_of_check (h : c.checkTimeout = .ok ()) :
    ∃ d, c.timeout = .ok d ∧ d.isPositive = true := by
  rw [timeout]
  rw [checkTimeout] at h
  cases hgiven : c.timeout? with
  | none => exact ⟨⟨10, 0⟩, by decide +kernel⟩
  | some raw =>
    simp only [hgiven] at h
    cases hread : Duration.read raw with
    | error cause => simp [hread] at h
    | ok d =>
      refine ⟨d, hread, ?_⟩
      simpa [hread] using h

/-- A page has a row, and at most a hundred. -/
theorem pageSize_of_check (h : c.checkPageSize = .ok ()) :
    1 ≤ c.pageSize.toNat ∧ c.pageSize.toNat ≤ 100 := by
  rw [pageSize]
  rw [checkPageSize] at h
  cases hgiven : c.pageSize? with
  | none => decide
  | some n =>
    have hsize : 1 ≤ n ∧ n ≤ maxPageSize := by simpa [hgiven] using h
    simpa [UInt32.le_iff_toNat_le, maxPageSize] using hsize

/-- An upload may have some size. -/
theorem maxUploadBytes_of_check (h : c.checkMaxUploadSize = .ok ()) : 1 ≤ c.maxUploadBytes := by
  rw [maxUploadBytes]
  rw [checkMaxUploadSize] at h
  cases hgiven : c.maxUploadSize? with
  | none => decide
  | some n =>
    have hsize : 0 < n.toInt := by
      simpa [hgiven, Int64.le_iff_toInt_le] using h
    have hnot : ¬n < 0 := by
      rw [Int64.lt_iff_toInt_lt]
      exact Int.not_lt.2 (Int.le_of_lt hsize)
    simp only [if_neg hnot]
    omega

/-- The level of logging is a known one. -/
theorem logLevel_of_check (h : c.checkLogLevel = .ok ()) : c.logLevel ∈ logLevels := by
  rw [logLevel]
  rw [checkLogLevel] at h
  cases hgiven : c.logLevel? with
  | none => decide +kernel
  | some raw => simpa [hgiven] using h

/-- The lifetime of menus that a file gives has more seconds than can be told. -/
def GivesEndlessTtl (c : Config) : Prop :=
  ∃ raw d, c.menuCacheTtl? = some raw ∧ Duration.read raw = .ok d ∧
    0x8000000000000000 ≤ d.seconds.toNat

/-- A lifetime of menus that is accepted is a duration, but it may be too long to be told. -/
theorem menuCacheTtl_of_check (h : c.checkMenuCacheTtl = .ok ()) :
    (c.GivesEndlessTtl → c.menuCacheTtl = .error .outOfRange) ∧
      (¬c.GivesEndlessTtl → ∃ d, c.menuCacheTtl = .ok d) := by
  rw [menuCacheTtl, GivesEndlessTtl]
  rw [checkMenuCacheTtl] at h
  cases hgiven : c.menuCacheTtl? with
  | none => exact ⟨nofun, fun _ ↦ ⟨⟨1800, 0⟩, by decide +kernel⟩⟩
  | some raw =>
    simp only [hgiven] at h
    cases hread : Duration.read raw with
    | error cause => simp [hread] at h
    | ok d =>
      have hmax : Int64.maxValue.toInt < d.seconds.toNat ↔
          0x8000000000000000 ≤ d.seconds.toNat := by
        rw [show Int64.maxValue.toInt = 0x7FFFFFFFFFFFFFFF by decide]
        omega
      have hgives : (∃ raw' d', some raw = some raw' ∧ Duration.read raw' = .ok d' ∧
          0x8000000000000000 ≤ d'.seconds.toNat) ↔ 0x8000000000000000 ≤ d.seconds.toNat := by
        simp [hread]
      simp only [hgives, Option.getD_some, hread, hmax]
      constructor
      · intro hlong
        rw [if_pos hlong]
      · intro hlong
        exact ⟨d, if_neg hlong⟩

/-! ### Loading -/

/-- What is read from a text was checked. -/
theorem check_of_read {text : String} (h : read text = .ok c) : c.check = .ok () := by
  unfold read at h
  split at h
  · cases h
  · split at h
    · cases h
    · split at h
      · cases h
      · split at h
        · cases h
        · rename_i c' _
          cases hcheck : c'.check with
          | error cause => simp [hcheck, Except.map] at h
          | ok =>
            simp only [hcheck, Except.map, Except.ok.injEq] at h
            rw [← h, hcheck]

theorem check_of_load {path : String} {m m' : Command.Machine}
    (h : (Command.Step.loadConfig path).run m = (.ok c, m')) : c.check = .ok () := by
  rw [Command.Step.run_loadConfig] at h
  obtain ⟨hload, -⟩ := Prod.mk.inj h
  split at hload
  · cases hload
    decide
  · cases hload
  · split at hload
    · exact check_of_read (Except.mapError_eq_ok_iff.1 hload)
    · cases hload

/-- **What a configuration that was loaded says.** Whatever the file holds, and also if there is
none,
1. the service may take some time to answer, longer than none;
2. a page has at least one row and at most a hundred;
3. an upload may have at least one byte;
4. the level of logging is one of those that are known;
5. the address of the service is empty exactly if the file gives one of nothing but slashes;
6. the lifetime of menus can be told, exactly unless the file gives one of too many seconds. -/
theorem answers_of_load {path : String} {m m' : Command.Machine}
    (h : (Command.Step.loadConfig path).run m = (.ok c, m')) :
    (∃ d, c.timeout = .ok d ∧ d.isPositive = true) ∧
    (1 ≤ c.pageSize.toNat ∧ c.pageSize.toNat ≤ 100) ∧
    1 ≤ c.maxUploadBytes ∧
    c.logLevel ∈ logLevels ∧
    (c.baseUrl = "" ↔ c.GivesSlashes) ∧
    (¬c.GivesEndlessTtl → ∃ d, c.menuCacheTtl = .ok d) ∧
    (c.GivesEndlessTtl → c.menuCacheTtl = .error .outOfRange) := by
  obtain ⟨hurl, htimeout, hpage, -, hupload, httl, hlevel⟩ := check_eq_ok_iff.1 (check_of_load h)
  obtain ⟨hlong, hshort⟩ := menuCacheTtl_of_check httl
  exact ⟨timeout_of_check htimeout, pageSize_of_check hpage, maxUploadBytes_of_check hupload,
    logLevel_of_check hlevel, baseUrl_eq_empty_iff hurl, hshort, hlong⟩

/-- A machine with a configuration file. -/
def sampleMachine (content : String) : Command.Machine where
  environment := []
  files := (FileTree.empty "/desk").insert "config.toml" (.file content.toUTF8)
  databases := []
  send := fun r ↦ .error (Client.unreachable r)
  noTerminal := "no terminal"

/-- A file whose values are at the edge of what is good for an answer. -/
def boundaryFile : String :=
  "version = 1\n[api]\nbase_url = \" http://desk.test// \"\ntimeout = \"1ms\"\npage_size = 100\n" ++
    "[session]\nmenu_cache_ttl = \"9223372036854775807s\"\n[log]\nlevel = \" WARN \"\n"

/-- What the file gives. -/
def boundary : Config where
  baseUrl? := some " http://desk.test// "
  timeout? := some "1ms"
  pageSize? := some 100
  menuCacheTtl? := some "9223372036854775807s"
  logLevel? := some " WARN "

theorem load_boundaryFile :
    (Command.Step.loadConfig "config.toml").run (sampleMachine boundaryFile) =
        (.ok boundary, sampleMachine boundaryFile) ∧
      (∃ d, boundary.timeout = .ok d ∧ d.isPositive = true) ∧
      boundary.pageSize.toNat ≤ 100 ∧ boundary.logLevel ∈ logLevels ∧
      ¬boundary.GivesSlashes ∧ boundary.baseUrl = "http://desk.test" ∧
      ¬boundary.GivesEndlessTtl ∧ ∃ d, boundary.menuCacheTtl = .ok d := by
  have hload : (Command.Step.loadConfig "config.toml").run (sampleMachine boundaryFile) =
      (.ok boundary, sampleMachine boundaryFile) := by
    rw [Command.Step.run_loadConfig]
    refine Prod.ext ?_ rfl
    decide +kernel
  obtain ⟨htimeout, hsize, -, hlevel, hurl, httl, -⟩ := answers_of_load hload
  have haddress : boundary.baseUrl = "http://desk.test" := by decide +kernel
  have hslashes : ¬boundary.GivesSlashes := by
    rw [← hurl, haddress]
    decide
  have hshort : ¬boundary.GivesEndlessTtl := by
    have hread : Duration.read "9223372036854775807s" = .ok ⟨0x7FFFFFFFFFFFFFFF, 0⟩ := by
      decide +kernel
    rintro ⟨raw, d, ⟨⟩, hd, hlong⟩
    rw [hread] at hd
    cases hd
    exact absurd hlong (by decide)
  exact ⟨hload, htimeout, hsize.2, hlevel, hslashes, haddress, hshort, httl hshort⟩

/-- A file with an address of nothing but slashes and a lifetime of too many seconds. -/
def unanswerableFile : String :=
  "version = 1\n[api]\nbase_url = \"/\"\n[session]\nmenu_cache_ttl = \"9223372036854775808s\"\n"

/-- Such a file is accepted, although nothing is left of the address, which the client then does not
take, and the lifetime cannot be told. -/
theorem load_unanswerableFile :
    ∃ c m', (Command.Step.loadConfig "config.toml").run (sampleMachine unanswerableFile) =
        (.ok c, m') ∧
      c.baseUrl = "" ∧ Client.new c.baseUrl = .error .empty ∧
      c.menuCacheTtl = .error .outOfRange := by
  have hload : (Command.Step.loadConfig "config.toml").run (sampleMachine unanswerableFile) =
      (.ok { baseUrl? := some "/", menuCacheTtl? := some "9223372036854775808s" },
        sampleMachine unanswerableFile) := by
    rw [Command.Step.run_loadConfig]
    refine Prod.ext ?_ rfl
    decide +kernel
  refine ⟨_, _, hload, ?_, ?_, ?_⟩ <;> decide +kernel

end Config

end PitchDesk

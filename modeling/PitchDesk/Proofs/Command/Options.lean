import Mathlib.Data.List.Induction
import PitchDesk.Command.Options

/-!
# What the arguments ask for

Arguments are accepted exactly if they fall into parts: a switch, or an option with whatever
argument comes after it. The reading of a part does not depend on what follows it,
`Options.readFrom_arguments_append`, so the parts are read one after the other, and there is only
one way to take arguments apart, `Part.flatMap_arguments_injective`.

What a part gives is kept until another part gives the same option, so in the end the last part of
each option counts, `Part.lastOf`, wherever it stands among the others. `Options.read_of_parts`
puts this together.

## Parts, and not arguments

Whether an argument is a switch cannot be told from the argument: after an option with a value it
is the value, whatever it looks like. A part has its arguments together, so the statements about
interleaving are about lists of parts; that such a list is there for exactly the arguments that are
accepted is what makes them statements about arguments. `Part.switch` carries the way in which the
switch was written, so that its arguments are determined and it can be told apart from others.
-/

namespace PitchDesk.Command

/-! ### Parts -/

/-- The options without a value. -/
inductive Switch where
  | printsConfigPath
  | printsDatabasePath
  | printsTemplate
  | checksOnly
  | showsHelp
  deriving DecidableEq, Repr

/-- How a switch may be written. -/
def Switch.names : Switch → List String
  | .printsConfigPath => ["--print-config-path"]
  | .printsDatabasePath => ["--print-path"]
  | .printsTemplate => ["--print-example-config"]
  | .checksOnly => ["--check"]
  | .showsHelp => ["--help", "-h"]

/-- What belongs together among the arguments: a switch as it may be written, or an option with the
argument after it, whatever that looks like. -/
inductive Part where
  | switch (s : Switch) (name : String) (h : name ∈ s.names)
  | config (path : String)
  | email (address : String)
  deriving DecidableEq

/-- An option, whatever it is given as. -/
inductive Key where
  | switch (s : Switch)
  | config
  | email
  deriving DecidableEq, Repr

namespace Part

/-- The arguments of a part. -/
def arguments : Part → List String
  | switch _ name _ => [name]
  | config path => ["--config", path]
  | email address => ["--email", address]

/-- The option that a part gives. -/
def key : Part → Key
  | switch s _ _ => .switch s
  | config _ => .config
  | email _ => .email

/-- The path that a part gives. -/
def path? : Part → Option String
  | config path => some path
  | _ => none

/-- The address that a part gives. -/
def address? : Part → Option String
  | email address => some address
  | _ => none

/-- The last of some parts that gives an option. -/
def lastOf (k : Key) (parts : List Part) : Option Part :=
  (parts.filter (·.key = k)).getLast?

@[simp]
theorem lastOf_nil (k : Key) : lastOf k [] = none :=
  rfl

/-- One more part is the last that gives its option, and does not matter to the others. -/
theorem lastOf_concat (k : Key) (parts : List Part) (p : Part) :
    lastOf k (parts ++ [p]) = if p.key = k then some p else lastOf k parts := by
  by_cases h : p.key = k <;> simp [lastOf, List.filter_append, h]

/-- There is a last part that gives an option if any part gives it. -/
theorem isSome_lastOf {k : Key} {parts : List Part} :
    (lastOf k parts).isSome = true ↔ ∃ p ∈ parts, p.key = k := by
  simp [lastOf]

end Part

namespace Options

variable {o o' : Options} {argument : String}

/-! ### What a part changes -/

/-- Whether a switch is on. -/
def isOn (o : Options) : Switch → Bool
  | .printsConfigPath => o.printsConfigPath
  | .printsDatabasePath => o.printsDatabasePath
  | .printsTemplate => o.printsTemplate
  | .checksOnly => o.checksOnly
  | .showsHelp => o.showsHelp

/-- Turns a switch on. -/
def turnOn (o : Options) : Switch → Options
  | .printsConfigPath => { o with printsConfigPath := true }
  | .printsDatabasePath => { o with printsDatabasePath := true }
  | .printsTemplate => { o with printsTemplate := true }
  | .checksOnly => { o with checksOnly := true }
  | .showsHelp => { o with showsHelp := true }

/-- Adds what a part gives. -/
def add (o : Options) : Part → Options
  | .switch s _ _ => o.turnOn s
  | .config path => { o with configPath := path }
  | .email address => { o with email := some address }

@[simp]
theorem isOn_off (configPath : String) (s : Switch) :
    isOn { configPath := configPath } s = false := by
  cases s <;> rfl

@[simp]
theorem isOn_turnOn (o : Options) (s s' : Switch) :
    (o.turnOn s).isOn s' = (o.isOn s' || decide (s = s')) := by
  cases s <;> cases s' <;> simp [turnOn, isOn]

@[simp]
theorem configPath_turnOn (o : Options) (s : Switch) : (o.turnOn s).configPath = o.configPath := by
  cases s <;> rfl

@[simp]
theorem email_turnOn (o : Options) (s : Switch) : (o.turnOn s).email = o.email := by
  cases s <;> rfl

/-- Options are the same if they have the same switches on and the same values. -/
theorem eq_of_isOn (hpath : o.configPath = o'.configPath) (hemail : o.email = o'.email)
    (hon : ∀ s, o.isOn s = o'.isOn s) : o = o' := by
  cases o
  cases o'
  simp only [Options.mk.injEq]
  exact ⟨hpath, hemail, hon .printsConfigPath, hon .printsDatabasePath, hon .printsTemplate,
    hon .checksOnly, hon .showsHelp⟩

/-! ### The arguments of a part -/

/-- An argument is a switch if it is one of the ways in which the switch may be written. -/
theorem switch?_eq_some_iff :
    o.switch? argument = some o' ↔ ∃ s : Switch, argument ∈ s.names ∧ o' = o.turnOn s := by
  constructor
  · intro h
    unfold switch? at h
    split at h
    · cases h; exact ⟨.printsConfigPath, by decide, rfl⟩
    · cases h; exact ⟨.printsDatabasePath, by decide, rfl⟩
    · cases h; exact ⟨.printsTemplate, by decide, rfl⟩
    · cases h; exact ⟨.checksOnly, by decide, rfl⟩
    · cases h; exact ⟨.showsHelp, by decide, rfl⟩
    · cases h; exact ⟨.showsHelp, by decide, rfl⟩
    · cases h
  · rintro ⟨s, hs, rfl⟩
    cases s with
    | showsHelp =>
      simp only [Switch.names, List.mem_cons, List.not_mem_nil, or_false] at hs
      rcases hs with rfl | rfl <;> rfl
    | _ =>
      simp only [Switch.names, List.mem_singleton] at hs
      subst hs
      rfl

end Options

/-- No switch is written like an option with a value. -/
theorem Switch.ne_of_mem_names {s : Switch} {name : String} (h : name ∈ s.names) :
    name ≠ "--config" ∧ name ≠ "--email" := by
  revert name
  cases s <;> decide

/-- A switch is told by how it is written. -/
theorem Switch.eq_of_mem_names {s s' : Switch} {name : String} (h : name ∈ s.names)
    (h' : name ∈ s'.names) : s = s' := by
  let off : Options := { configPath := "" }
  have hon := Options.switch?_eq_some_iff (o := off).2 ⟨s, h, rfl⟩
  rw [Options.switch?_eq_some_iff.2 ⟨s', h', rfl⟩, Option.some.injEq] at hon
  have hs := congrArg (Options.isOn · s) hon
  simp only [Options.isOn_turnOn, off, Options.isOn_off, Bool.false_or, decide_true,
    decide_eq_true_eq] at hs
  exact hs.symm

namespace Part

/-- Where arguments begin with a part, no other part could be meant. -/
theorem eq_of_arguments_append {p p' : Part} {rest rest' : List String}
    (h : p.arguments ++ rest = p'.arguments ++ rest') : p = p' ∧ rest = rest' := by
  cases p with
  | switch s name hname =>
    obtain ⟨hconfig, hemail⟩ := Switch.ne_of_mem_names hname
    cases p' with
    | switch s' name' hname' =>
      simp only [arguments, List.singleton_append, List.cons.injEq] at h
      obtain ⟨rfl, hrest⟩ := h
      obtain rfl := Switch.eq_of_mem_names hname hname'
      exact ⟨rfl, hrest⟩
    | config path => exact absurd (List.cons.inj h).1 hconfig
    | email address => exact absurd (List.cons.inj h).1 hemail
  | config path =>
    cases p' with
    | switch s name hname =>
      exact absurd (List.cons.inj h).1.symm (Switch.ne_of_mem_names hname).1
    | config path' => simpa [arguments] using h
    | email address => simp [arguments] at h
  | email address =>
    cases p' with
    | switch s name hname =>
      exact absurd (List.cons.inj h).1.symm (Switch.ne_of_mem_names hname).2
    | config path => simp [arguments] at h
    | email address' => simpa [arguments] using h

/-- There is only one way to take arguments apart. -/
theorem flatMap_arguments_injective {parts parts' : List Part}
    (h : parts.flatMap arguments = parts'.flatMap arguments) : parts = parts' := by
  have hne (p : Part) (rest : List String) : [] ≠ p.arguments ++ rest := by
    cases p <;> simp [arguments]
  induction parts generalizing parts' with
  | nil =>
    cases parts' with
    | nil => rfl
    | cons p' parts' => exact absurd h (hne p' _)
  | cons p parts ih =>
    cases parts' with
    | nil => exact absurd h.symm (hne p _)
    | cons p' parts' =>
      obtain ⟨rfl, hrest⟩ := eq_of_arguments_append h
      rw [ih hrest]

end Part

namespace Options

variable {o o' : Options}

/-! ### Reading part by part -/

/-- A part is read whatever follows it. -/
theorem readFrom_arguments_append (o : Options) (p : Part) (rest : List String) :
    readFrom o (p.arguments ++ rest) = readFrom (o.add p) rest := by
  cases p with
  | switch s name h =>
    obtain ⟨hconfig, hemail⟩ := Switch.ne_of_mem_names h
    rw [Part.arguments, List.singleton_append, readFrom.eq_def]
    simp only [if_neg hconfig, if_neg hemail, switch?_eq_some_iff.2 ⟨s, h, rfl⟩]
    rfl
  | config path => simp [Part.arguments, readFrom, add]
  | email address => simp [Part.arguments, readFrom, add]

/-- Parts are read one after the other, and always accepted. -/
theorem readFrom_flatMap_arguments (o : Options) (parts : List Part) :
    readFrom o (parts.flatMap Part.arguments) = .ok (parts.foldl add o) := by
  induction parts generalizing o with
  | nil => rfl
  | cons p parts ih => rw [List.flatMap_cons, readFrom_arguments_append, ih, List.foldl_cons]

/-- Only parts are accepted. -/
theorem exists_parts_of_readFrom {arguments : List String} (h : readFrom o arguments = .ok o') :
    ∃ parts : List Part, parts.flatMap Part.arguments = arguments := by
  fun_induction readFrom o arguments with
  | case1 => exact ⟨[], rfl⟩
  | case2 o path rest ih =>
    obtain ⟨parts, rfl⟩ := ih h
    exact ⟨.config path :: parts, rfl⟩
  | case3 => cases h
  | case4 o _ address rest ih =>
    obtain ⟨parts, rfl⟩ := ih h
    exact ⟨.email _ :: parts, rfl⟩
  | case5 => cases h
  | case6 o argument rest _ _ o₁ hswitch ih =>
    obtain ⟨parts, rfl⟩ := ih h
    obtain ⟨s, hs, -⟩ := switch?_eq_some_iff.1 hswitch
    exact ⟨.switch s argument hs :: parts, rfl⟩
  | case7 => cases h

/-! ### The last part of each option -/

/-- After some parts a switch is on if it was on before, or if one of them is that switch. -/
theorem isOn_foldl_add (o : Options) (parts : List Part) (s : Switch) :
    (parts.foldl add o).isOn s = (o.isOn s || (Part.lastOf (.switch s) parts).isSome) := by
  induction parts using List.reverseRecOn with
  | nil => simp
  | append_singleton parts p ih =>
    rw [List.foldl_append, List.foldl_cons, List.foldl_nil, Part.lastOf_concat]
    cases p with
    | switch s' name h =>
      simp only [add, isOn_turnOn, ih, Part.key, Key.switch.injEq]
      by_cases hs : s' = s <;> simp [hs]
    | config path =>
      rw [if_neg (show ¬(Part.config path).key = .switch s from nofun), ← ih]
      cases s <;> rfl
    | email address =>
      rw [if_neg (show ¬(Part.email address).key = .switch s from nofun), ← ih]
      cases s <;> rfl

theorem configPath_foldl_add (o : Options) (parts : List Part) :
    (parts.foldl add o).configPath =
      ((Part.lastOf .config parts).bind Part.path?).getD o.configPath := by
  induction parts using List.reverseRecOn with
  | nil => rfl
  | append_singleton parts p ih =>
    rw [List.foldl_append, List.foldl_cons, List.foldl_nil, Part.lastOf_concat]
    cases p with
    | switch s name h => simpa [add, Part.key] using ih
    | config path => simp [add, Part.key, Part.path?]
    | email address => simpa [add, Part.key] using ih

theorem email_foldl_add (o : Options) (parts : List Part) :
    (parts.foldl add o).email = ((Part.lastOf .email parts).bind Part.address?).or o.email := by
  induction parts using List.reverseRecOn with
  | nil => rfl
  | append_singleton parts p ih =>
    rw [List.foldl_append, List.foldl_cons, List.foldl_nil, Part.lastOf_concat]
    cases p with
    | switch s name h => simpa [add, Part.key] using ih
    | config path => simpa [add, Part.key] using ih
    | email address => simp [add, Part.key, Part.address?]

/-- **What the arguments ask for.** Arguments are accepted exactly if they fall into parts, in one
way then. A switch is on exactly if one of the parts is that switch, and the path and the address
are those of the last parts that give them. So of each option the last part counts and nothing else,
neither the parts before it nor how the parts of the options are mixed. -/
theorem read_of_parts (configPath : String) :
    (∀ arguments, (∃ o, read configPath arguments = .ok o) ↔
      ∃! parts : List Part, parts.flatMap Part.arguments = arguments) ∧
    (∀ parts : List Part, ∃ o, read configPath (parts.flatMap Part.arguments) = .ok o ∧
      (∀ s, o.isOn s = true ↔ ∃ p ∈ parts, p.key = .switch s) ∧
      o.configPath = ((Part.lastOf .config parts).bind Part.path?).getD configPath ∧
      o.email = (Part.lastOf .email parts).bind Part.address?) ∧
    ∀ parts parts' : List Part, (∀ k, Part.lastOf k parts = Part.lastOf k parts') →
      read configPath (parts.flatMap Part.arguments) =
        read configPath (parts'.flatMap Part.arguments) := by
  refine ⟨fun arguments ↦ ⟨?_, ?_⟩, fun parts ↦ ?_, fun parts parts' h ↦ ?_⟩
  · rintro ⟨o, ho⟩
    obtain ⟨parts, rfl⟩ := exists_parts_of_readFrom ho
    exact ⟨parts, rfl, fun parts' h ↦ Part.flatMap_arguments_injective h⟩
  · rintro ⟨parts, rfl, -⟩
    exact ⟨_, readFrom_flatMap_arguments _ parts⟩
  · refine ⟨_, readFrom_flatMap_arguments _ parts, fun s ↦ ?_, configPath_foldl_add _ parts, ?_⟩
    · rw [isOn_foldl_add, isOn_off, Bool.false_or, Part.isSome_lastOf]
    · rw [email_foldl_add, Option.or_none]
  · rw [read, read, readFrom_flatMap_arguments, readFrom_flatMap_arguments]
    refine congrArg Except.ok (eq_of_isOn ?_ ?_ fun s ↦ ?_)
    · simp only [configPath_foldl_add, h]
    · simp only [email_foldl_add, h]
    · simp only [isOn_foldl_add, h]

/-- An option that looks like a switch is a value where one is due, and one that is given again
counts from there on. -/
theorem last_address_counts :
    (∀ k, Part.lastOf k [.email "--check", .config "a.toml", .email "mira@desk.test"] =
      Part.lastOf k [.email "mira@desk.test", .config "a.toml"]) ∧
    read "b.toml" ["--email", "--check", "--config", "a.toml", "--email", "mira@desk.test"] =
      read "b.toml" ["--email", "mira@desk.test", "--config", "a.toml"] ∧
    ∃ o, read "b.toml" ["--email", "--check"] = .ok o ∧ o.isOn .checksOnly = false ∧
      o.configPath = "b.toml" ∧ o.email = some "--check" := by
  have hlast (k : Key) :
      Part.lastOf k [.email "--check", .config "a.toml", .email "mira@desk.test"] =
        Part.lastOf k [.email "mira@desk.test", .config "a.toml"] := by
    cases k with
    | switch s => rfl
    | config => rfl
    | email => rfl
  obtain ⟨-, hparts, hmixed⟩ := read_of_parts "b.toml"
  obtain ⟨o, ho, hon, hpath, hemail⟩ := hparts [.email "--check"]
  refine ⟨hlast, hmixed _ _ hlast, o, ho, ?_, hpath, hemail⟩
  rw [← Bool.not_eq_true, hon]
  simp [Part.key]

end Options

end PitchDesk.Command

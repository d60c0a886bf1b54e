import Mathlib.Data.List.Iterate
import Mathlib.Data.List.Nodup
import PitchDesk.Proofs.Sample.Records

/-!
# Sample records one after another

A faker is called again and again, for single records or for rows of them, and a submission or a
payment may be asked for any event and vendor that it gave back before. Everything that is made on
the way is written down with what it was made for, `Call.make`: rows of submissions take an event
and vendors that are never given back, but that take ids nevertheless.

Each call adds records with the ids that come next, and what it makes fits, `Logged`. So this holds
of whole runs, `Run.logged`, and as long as the ids do not run out, they are the numbers from one
on, `Run.made_of_calls`.

## Made and shown

What a caller sees of a run are the records that were given back, and what has to be counted are
those that were made. `Call.answer` is the first and calls the faker; `Call.make` is the second and
is written beside it, with `Call.answer_eq` saying that both draw the same: the answer is what the
call shows of what it makes, and they leave the faker in the same state. So nothing is claimed of a
faker that is not called in just this way.

An event or a vendor may be used again only if it was shown, which is all that a caller can do.
That it fits is known from its having been made (`Run.sublist`).
-/

namespace PitchDesk.Sample

open Faker

/-! ### What is made -/

/-- A record that was made, with the event and the vendor that it was made for. -/
inductive Made where
  | event (event : Event)
  | vendor (vendor : Vendor)
  | submission (event : Event) (vendor : Vendor) (submission : Submission)
  | payment (event : Event) (vendor : Vendor) (payment : Payment)
  deriving DecidableEq, Repr

namespace Made

/-- The id that a record was made with. -/
def id : Made → Int64
  | event e => e.id
  | vendor v => v.id
  | submission _ _ s => s.id
  | payment _ _ p => p.id

/-- The record itself. -/
def record : Made → Record
  | event e => .event e
  | vendor v => .vendor v
  | submission _ _ s => .submission s
  | payment _ _ p => .payment p

/-- What a record was made for. -/
def sources : Made → List Made
  | event _ | vendor _ => []
  | submission e v _ | payment e v _ => [event e, vendor v]

/-- Whether a record is a submission. -/
def isSubmission : Made → Bool
  | submission _ _ _ => true
  | _ => false

theorem mem_of_event {made : List Made} {e : Event} (h : .event e ∈ made.map record) :
    .event e ∈ made := by
  obtain ⟨m, hm, hrecord⟩ := List.mem_map.1 h
  cases m <;> cases hrecord
  exact hm

theorem mem_of_vendor {made : List Made} {v : Vendor} (h : .vendor v ∈ made.map record) :
    .vendor v ∈ made := by
  obtain ⟨m, hm, hrecord⟩ := List.mem_map.1 h
  cases m <;> cases hrecord
  exact hm

/-- A record is as records of its kind are drawn. -/
def Fits : Made → Prop
  | event e => EventFits e
  | vendor v => VendorFits v
  | submission e v s => SubmissionFits e v s
  | payment e v p => PaymentFits e v p

end Made

/-! ### Calls -/

/-- What a faker is asked for. -/
inductive Call where
  | event
  | vendor
  | submission (event : Event) (vendor : Vendor)
  | payment (event : Event) (vendor : Vendor)
  | eventRows (count : Nat)
  | submissionRows (count : Nat)
  deriving DecidableEq, Repr

namespace Call

/-- What a call gives back. -/
def answer : Call → Draw (List Record)
  | event => do return [.event (← Faker.event)]
  | vendor => do return [.vendor (← Faker.vendor)]
  | submission e v => do return [.submission (← Faker.submission e v)]
  | payment e v => do return [.payment (← Faker.payment e v)]
  | eventRows count => Faker.eventRows count
  | submissionRows count => Faker.submissionRows count

/-- Makes something a number of times. -/
def times (x : Draw (List Made)) : Nat → Draw (List Made)
  | 0 => return []
  | n + 1 => do
    let first ← x
    return first ++ (← times x n)

/-- Makes one record. -/
def one {α : Type} (m : α → Made) (x : Draw α) : Draw (List Made) := do
  return [m (← x)]

/-- Makes one record, and then what is made for it. -/
def oneWith {α : Type} (m : α → Made) (x : Draw α) (more : α → Draw (List Made)) :
    Draw (List Made) := do
  let a ← x
  return m a :: (← more a)

/-- All that is made by a call, in the order in which it is made. -/
def make : Call → Draw (List Made)
  | event => one .event Faker.event
  | vendor => one .vendor Faker.vendor
  | submission e v => one (.submission e v) (Faker.submission e v)
  | payment e v => one (.payment e v) (Faker.payment e v)
  | eventRows count => times (one .event Faker.event) count
  | submissionRows count =>
    oneWith .event Faker.event fun e ↦
      let row := oneWith .vendor Faker.vendor fun v ↦
        one (.submission e v) (Faker.submission e v)
      times row count

/-- What is given back of all that is made. The event and the vendors of rows of submissions are
not. -/
def shows : Call → Made → Bool
  | submissionRows _, m => m.isSubmission
  | _, _ => true

/-- A call is for an event and a vendor that were given back before. -/
def Takes (shown : List Record) : Call → Prop
  | submission e v | payment e v => .event e ∈ shown ∧ .vendor v ∈ shown
  | _ => True

instance (shown : List Record) (c : Call) : Decidable (c.Takes shown) :=
  match c with
  | submission _ _ | payment _ _ => inferInstanceAs (Decidable (_ ∧ _))
  | event | vendor | eventRows _ | submissionRows _ => inferInstanceAs (Decidable True)

/-- What a call takes may still be taken when more was given back. -/
theorem Takes.mono {c : Call} {shown shown' : List Record} (h : c.Takes shown)
    (hsub : shown ⊆ shown') : c.Takes shown' := by
  cases c with
  | submission e v | payment e v => exact ⟨hsub h.1, hsub h.2⟩
  | event | vendor | eventRows _ | submissionRows _ => trivial

/-- Rows are what is given back of what is made for each of them. -/
theorem rows_eq {row : Draw Record} {x : Draw (List Made)} (shows : Made → Bool)
    (h : ∀ f, (row f).2 = (x f).2 ∧ [(row f).1] = ((x f).1.filter shows).map Made.record)
    (n : Nat) (f : Faker) :
    rows row n f = (((times x n f).1.filter shows).map Made.record, (times x n f).2) := by
  induction n generalizing f with
  | zero => rfl
  | succ n ih =>
    obtain ⟨hstate, hrow⟩ := h f
    have hrows : rows row (n + 1) f =
        ((row f).1 :: (rows row n (row f).2).1, (rows row n (row f).2).2) := rfl
    have htimes : times x (n + 1) f =
        ((x f).1 ++ (times x n (x f).2).1, (times x n (x f).2).2) := rfl
    rw [hrows, htimes, hstate, ih, List.filter_append, List.map_append, ← hrow]
    rfl

/-- Of a vendor and a submission that are made, the submission is given back. -/
theorem pitch_eq (x : Draw Vendor) (y : Vendor → Draw Submission) (e : Event) (f : Faker) :
    let row : Draw Record := do return .submission (← y (← x))
    let made := oneWith .vendor x fun v ↦ one (.submission e v) (y v)
    (row f).2 = (made f).2 ∧
      [(row f).1] = ((made f).1.filter Made.isSubmission).map Made.record :=
  ⟨rfl, rfl⟩

/-- **A call gives back what it shows of what it makes.** -/
theorem answer_eq (c : Call) (f : Faker) :
    c.answer f = (((c.make f).1.filter c.shows).map Made.record, (c.make f).2) := by
  cases c with
  | event | vendor | submission _ _ | payment _ _ => rfl
  | eventRows count => exact rows_eq (fun _ ↦ true) (fun _ ↦ ⟨rfl, rfl⟩) count f
  | submissionRows count =>
    have hrow := pitch_eq Faker.vendor (Faker.submission (Faker.event f).1) (Faker.event f).1
    exact rows_eq Made.isSubmission hrow count (Faker.event f).2

end Call

/-! ### Ids one after another -/

/-- From one state of a faker to another, records were made with the ids that come next. All of them
fit, and each was made for what was made before. -/
structure Logged (before : List Made) (f : Faker) (made : List Made) (g : Faker) : Prop where
  ids : made.map Made.id = List.iterate (· + 1) f.nextId made.length
  nextId : g.nextId = (· + 1)^[made.length] f.nextId
  fits : ∀ m ∈ made, m.Fits
  sources : ∀ m ∈ made, ∀ source ∈ m.sources, source ∈ before ++ made

variable {before made more : List Made} {f g h : Faker}

namespace Logged

theorem nil (before : List Made) (f : Faker) : Logged before f [] f where
  ids := by rw [List.map_nil, List.length_nil, List.iterate]
  nextId := by rw [List.length_nil, Function.iterate_zero_apply]
  fits := by simp
  sources := by simp

theorem append (hmade : Logged before f made g) (hmore : Logged (before ++ made) g more h) :
    Logged before f (made ++ more) h where
  ids := by
    rw [List.map_append, hmade.ids, hmore.ids, hmade.nextId, List.length_append, List.iterate_add]
  nextId := by
    rw [hmore.nextId, hmade.nextId, List.length_append, Nat.add_comm, Function.iterate_add_apply]
  fits m hm := (List.mem_append.1 hm).elim (hmade.fits m) (hmore.fits m)
  sources m hm source hsource := by
    rw [← List.append_assoc]
    rcases List.mem_append.1 hm with hm | hm
    · exact List.mem_append_left _ (hmade.sources m hm source hsource)
    · exact hmore.sources m hm source hsource

theorem single {m : Made} (hid : m.id = f.nextId) (hnext : g.nextId = f.nextId + 1)
    (hfits : m.Fits) (hsources : ∀ source ∈ m.sources, source ∈ before) :
    Logged before f [m] g where
  ids := by
    rw [List.map_singleton, hid]
    rfl
  nextId := hnext
  fits := by simpa using hfits
  sources := by
    intro m' hm source hsource
    rw [List.mem_singleton.1 hm] at hsource
    exact List.mem_append_left _ (hsources source hsource)

end Logged

/-! ### What calls make -/

/-- Whatever the state of the faker, what is made goes on from what was made before. -/
def Logs (before : List Made) (x : Draw (List Made)) : Prop :=
  ∀ f, Logged before f (x f).1 (x f).2

section Logs

variable {α : Type} {m : α → Made} {x : Draw α}

/-- One record takes one id, and goes on from what was made before. -/
theorem logs_one (hx : Issues x fun id a ↦ (m a).id = id ∧ (m a).Fits)
    (hsources : ∀ a, ∀ source ∈ (m a).sources, source ∈ before) : Logs before (Call.one m x) := by
  intro f
  obtain ⟨⟨hid, hfits⟩, hnext⟩ := hx f
  exact .single hid hnext hfits (hsources _)

/-- What is made for a record goes on from that record. -/
theorem logs_oneWith {more : α → Draw (List Made)}
    (hx : Issues x fun id a ↦ (m a).id = id ∧ (m a).Fits)
    (hsources : ∀ a, ∀ source ∈ (m a).sources, source ∈ before)
    (hmore : ∀ a, (m a).Fits → Logs (before ++ [m a]) (more a)) :
    Logs before (Call.oneWith m x more) := by
  intro f
  have hone := logs_one hx hsources f
  exact hone.append (hmore _ (hx f).1.2 _)

/-- What is made each time is written down one after another. -/
theorem logs_times {x : Draw (List Made)} (ready : List Made → Prop)
    (hx : ∀ before, ready before → Logs before x)
    (hready : ∀ before made, ready before → ready (before ++ made))
    (hbefore : ready before) (n : Nat) : Logs before (Call.times x n) := by
  induction n generalizing before with
  | zero => exact .nil before
  | succ n ih =>
    intro f
    exact (hx before hbefore f).append (ih (hready _ _ hbefore) (x f).2)

end Logs

theorem logs_event (before : List Made) : Logs before (Call.one .event Faker.event) :=
  logs_one event_fits (by simp [Made.sources])

theorem logs_submission {e : Event} {v : Vendor} (hfits : EventFits e) (he : .event e ∈ before)
    (hv : .vendor v ∈ before) :
    Logs before (Call.one (.submission e v) (Faker.submission e v)) :=
  logs_one (submission_fits v hfits.year) (by simp [Made.sources, he, hv])

/-- What a call makes goes on from what was made before. -/
theorem logs_make {c : Call} (hfits : ∀ m ∈ before, m.Fits)
    (htakes : c.Takes (before.map Made.record)) : Logs before c.make := by
  cases c with
  | event => exact logs_event before
  | vendor => exact logs_one vendor_fits (by simp [Made.sources])
  | submission e v =>
    have he := Made.mem_of_event htakes.1
    exact logs_submission (hfits _ he) he (Made.mem_of_vendor htakes.2)
  | payment e v =>
    have he := Made.mem_of_event htakes.1
    have hv := Made.mem_of_vendor htakes.2
    exact logs_one (payment_fits e v) (by simp [Made.sources, he, hv])
  | eventRows count =>
    exact logs_times (fun _ ↦ True) (fun before _ ↦ logs_event before)
      (fun _ _ _ ↦ trivial) trivial count
  | submissionRows count =>
    refine logs_oneWith event_fits (by simp [Made.sources]) fun e hfits ↦ ?_
    -- the event stays among what was made before while the rows are made
    refine logs_times (fun before ↦ .event e ∈ before) (fun before he ↦ ?_)
      (fun _ _ he ↦ List.mem_append_left _ he) (by simp) count
    refine logs_oneWith vendor_fits (by simp [Made.sources]) fun v _ ↦ ?_
    exact logs_submission hfits (List.mem_append_left _ he) (by simp)

/-! ### Whole runs -/

/-- A run of calls to the faker of a seed: what was given back, what was made, and where the faker
stands. -/
inductive Run (seed : UInt64) : List Record → List Made → Faker → Prop where
  | new : Run seed [] [] (.ofSeed seed)
  | call {shown : List Record} {made : List Made} {f : Faker} (before : Run seed shown made f)
    (c : Call) (takes : c.Takes shown) :
    Run seed (shown ++ (c.answer f).1) (made ++ (c.make f).1) (c.answer f).2

namespace Run

variable {seed : UInt64} {shown : List Record}

/-- What is given back was made. -/
theorem sublist (h : Run seed shown made f) : shown.Sublist (made.map Made.record) := by
  induction h with
  | new => exact List.Sublist.refl []
  | call _ c _ ih =>
    rw [c.answer_eq, List.map_append]
    exact ih.append (List.filter_sublist.map _)

/-- In every run, records take the ids from the first one on, and fit. -/
theorem logged (h : Run seed shown made f) : Logged [] (.ofSeed seed) made f := by
  induction h with
  | new => exact .nil [] _
  | @call shown made f before c takes ih =>
    rw [c.answer_eq]
    have hmake : Logs made c.make := logs_make ih.fits (takes.mono before.sublist.subset)
    exact ih.append (hmake f)

/-- Numbers that are counted up from one do not wrap around before the last of all. -/
theorem toInt_iterate_succ {n : Nat} (h : n < 2 ^ 63 - 1) :
    ((· + 1)^[n] (1 : Int64)).toInt = n + 1 := by
  induction n with
  | zero => rfl
  | succ n ih =>
    have hone : (1 : Int64).toInt = 1 := rfl
    rw [Function.iterate_succ_apply', Int64.toInt_add, ih (by omega), hone,
      Int.bmod_eq_of_le (by omega) (by omega), Int.natCast_succ]

/-- **Sample records are numbered from one on, and fit.** In every run of fewer than 2⁶³ - 1
records,
1. a call gives back what it shows of what it makes;
2. the ids are 1, 2, 3 and so on, in the order in which the records were made, so no two records of
any kind have the same;
3. every text is picked from inside its table;
4. every event starts in 2026 and ends one to three days later, if its end is given; every
submission is from one to sixty days before its event and has the ids of the event and of the vendor
that it was made for; every payment is of 50,000 to 5,049,999 cents and was paid on some day exactly
if it is paid; and every telephone number is written as such a number;
5. the event and the vendor that a record was made for were made by the same faker. -/
theorem made_of_calls (h : Run seed shown made f) (hfew : made.length < 2 ^ 63 - 1) :
    (∀ (c : Call) g, c.answer g = (((c.make g).1.filter c.shows).map Made.record, (c.make g).2)) ∧
    (made.map (·.id.toInt) = (List.range made.length).map (fun n : Nat ↦ (n : Int) + 1) ∧
      (made.map Made.id).Nodup) ∧
    (∀ items ∈ tables, ∀ g : Faker,
      items[(g.generator.below items.length).1]? = some (pick items g).1) ∧
    (∀ m ∈ made, m.Fits) ∧
    (∀ m ∈ made, ∀ source ∈ m.sources, source ∈ made) := by
  have hlog := h.logged
  -- below the bound adding to a signed word does not wrap, so the ids are the numbers from 1 on
  have hids : made.map (·.id.toInt) =
      (List.range made.length).map (fun n : Nat ↦ (n : Int) + 1) := by
    have hmap : made.map (·.id.toInt) = (made.map Made.id).map Int64.toInt := by
      rw [List.map_map]
      rfl
    rw [hmap, hlog.ids, ← List.range_map_iterate, List.map_map]
    refine List.map_congr_left fun n hn ↦ toInt_iterate_succ ?_
    exact Nat.lt_trans (List.mem_range.1 hn) hfew
  refine ⟨Call.answer_eq, ⟨hids, ?_⟩, fun items hitems g ↦ getElem?_below ?_ g, hlog.fits,
    hlog.sources⟩
  · have hnumbers : ((made.map Made.id).map Int64.toInt).Nodup := by
      rw [List.map_map]
      show (made.map (·.id.toInt)).Nodup
      rw [hids]
      exact List.nodup_range.map fun n n' hn ↦ Int.ofNat_inj.1 ((Int.add_left_inj 1).1 hn)
    exact List.Nodup.of_map _ hnumbers
  · have htables : ∀ items ∈ tables, items ≠ [] := by decide
    exact htables items hitems

/-- An event at the end of the year, which ends in the next one. -/
def newYearEvent : Event :=
  ⟨1, "Seattle Expo 2026", "Seattle", ⟨2026, 12, 31, by decide⟩, some ⟨2027, 1, 2, by decide⟩,
    .opened, 15⟩

/-- A vendor for that event. -/
def newYearVendor : Vendor :=
  ⟨2, "Apex Group", "Jordan Gray", "jordan.gray@apex.example", "(205) 504-7637", "Security", false⟩

/-- One seed gives these two first. After a submission and a payment for them, a row for another
event takes three more ids, and only the last of them is given back. -/
theorem made_at_new_year :
    ∃ shown made f, Run 1854 shown made f ∧ made.length < 2 ^ 63 - 1 ∧ shown.length = 5 ∧
      made.map (·.id.toInt) = [1, 2, 3, 4, 5, 6, 7] ∧
      .event newYearEvent ∈ made ∧ EventFits newYearEvent ∧
      .vendor newYearVendor ∈ made ∧ VendorFits newYearVendor := by
  have hrun : Run 1854 _ _ _ :=
    .call (.call (.call (.call (.call .new .event trivial) .vendor trivial)
      (.submission newYearEvent newYearVendor) (by decide +kernel))
      (.payment newYearEvent newYearVendor) (by decide +kernel))
      (.submissionRows 1) trivial
  obtain ⟨-, ⟨hids, -⟩, -, hfits, -⟩ := made_of_calls hrun (by decide +kernel)
  refine ⟨_, _, _, hrun, by decide +kernel, by decide +kernel, hids.trans (by decide +kernel),
    ?he, hfits _ ?he, ?hv, hfits _ ?hv⟩ <;> decide +kernel

end Run

end PitchDesk.Sample

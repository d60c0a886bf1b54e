import PitchDesk.Proofs.Calendar.Counting
import PitchDesk.Proofs.Text.Decimal
import PitchDesk.Sample.Records

/-!
# What sample records are like

A number that is drawn is below its bound whatever the state of the generator, so a text is always
picked from inside its table, and nothing that is drawn depends on the seed beyond that. A record
is drawn by handing out an id and then picking its fields one after another; what is known of each
pick goes into the next (`Faker.Picks.bind`), and the last one gives what is known of the record:
`Faker.event_fits`, `Faker.vendor_fits`, `Faker.submission_fits` and `Faker.payment_fits`.

Dates are compared by the numbers of their days, so an event at the end of the year may end in the
next one, and a submission may be from the year before.

There are two kinds of draws. Those that `Picks` something hand out no id, and may come in any
number; those that `Issues` a record hand out exactly one, and before all else. So the id of a
record is the one that came next when it was asked for, which is what whole runs are counted by.
-/

namespace PitchDesk.Sample

/-! ### Fitting records -/

/-- The tables that texts are picked from. -/
def tables : List (List String) :=
  [eventKinds, cities, categories, companyWords, companySuffixes, firstNames, lastNames,
    pitchTopics]

/-- A telephone number: three digits in brackets, three more, and four after a hyphen. -/
def IsPhone (text : String) : Prop :=
  ∃ area exchange line : List Char,
    text.toList = '(' :: area ++ ')' :: ' ' :: exchange ++ '-' :: line ∧
      area.length = 3 ∧ exchange.length = 3 ∧ line.length = 4 ∧
      ∀ c ∈ area ++ exchange ++ line, c.isDigit = true

/-- An event as it is drawn. -/
structure EventFits (e : Event) : Prop where
  location : e.location ∈ cities
  title : ∃ kind ∈ eventKinds, e.title = e.location ++ " " ++ kind ++ " 2026"
  year : e.startsOn.year = 2026
  ends : ∀ d, e.endsOn = some d →
    ∃ days : Nat, 1 ≤ days ∧ days ≤ 3 ∧ d.dayNumber = e.startsOn.dayNumber + days

/-- A vendor as it is drawn. -/
structure VendorFits (v : Vendor) : Prop where
  companyName : ∃ word ∈ companyWords, ∃ suffix ∈ companySuffixes,
    v.companyName = word ++ " " ++ suffix
  contactName : ∃ first ∈ firstNames, ∃ last ∈ lastNames, v.contactName = first ++ " " ++ last
  phone : IsPhone v.phone
  category : v.category ∈ categories

/-- A submission as it is drawn for an event and a vendor. -/
structure SubmissionFits (e : Event) (v : Vendor) (s : Submission) : Prop where
  eventId : s.eventId = e.id
  eventTitle : s.eventTitle = e.title
  vendorId : s.vendorId = v.id
  vendorName : s.vendorName = v.companyName
  pitchTitle : s.pitchTitle ∈ pitchTopics
  submitted : ∃ days : Nat, 1 ≤ days ∧ days ≤ 60 ∧
    s.submittedOn.dayNumber = e.startsOn.dayNumber - days

/-- A payment as it is drawn for an event and a vendor. -/
structure PaymentFits (e : Event) (v : Vendor) (p : Payment) : Prop where
  eventTitle : p.eventTitle = e.title
  vendorName : p.vendorName = v.companyName
  amount : 50000 ≤ p.amountCents.toInt ∧ p.amountCents.toInt ≤ 5049999
  paidOn : p.paidOn = if p.status = .paid then some e.startsOn else none

namespace Faker

variable {α β : Type} {p : α → Prop} {q : β → Prop} {x : Draw α} {k : α → Draw β}

/-! ### Drawing numbers and texts -/

/-- A draw hands out no id, and whatever it gives has a property. -/
def Picks (x : Draw α) (p : α → Prop) : Prop :=
  ∀ f, p (x f).1 ∧ (x f).2.nextId = f.nextId

/-- What is known of one pick may be used for the next. -/
theorem Picks.bind (hx : Picks x p) (hk : ∀ a, p a → Picks (k a) q) : Picks (x >>= k) q := by
  intro f
  obtain ⟨ha, hid⟩ := hx f
  obtain ⟨hb, hid'⟩ := hk _ ha (x f).2
  exact ⟨hb, hid'.trans hid⟩

theorem picks_pure {a : α} (h : p a) : Picks (pure a) p :=
  fun _ ↦ ⟨h, rfl⟩

/-- A number that is drawn is below its bound. -/
theorem below_lt {n : Nat} (h : 0 < n) (g : Generator) : (g.below n).1 < n := by
  unfold Generator.below
  split
  · exact h
  · exact Nat.mod_lt _ h

/-- A draw of a number picks one below its bound. -/
theorem picks_below {n : Nat} (h : 0 < n) : Picks (below n) (· < n) :=
  fun f ↦ ⟨below_lt h f.generator, rfl⟩

theorem picks_coin : Picks coin fun _ ↦ True := by
  intro f
  refine ⟨trivial, ?_⟩
  unfold coin
  rcases f.generator.coin with ⟨b, g⟩
  rfl

/-- A text is picked from inside its table. -/
theorem getElem?_below {items : List String} (h : items ≠ []) (f : Faker) :
    items[(f.generator.below items.length).1]? = some (pick items f).1 := by
  have hlt := below_lt (List.length_pos_iff.2 h) f.generator
  have hpick : (pick items f).1 = items.getD (f.generator.below items.length).1 "" := rfl
  rw [hpick, List.getD_eq_getElem?_getD, List.getElem?_eq_getElem hlt, Option.getD_some]

/-- A draw of a text picks one of its table. -/
theorem picks_pick {items : List String} (h : items ≠ []) : Picks (pick items) (· ∈ items) :=
  fun f ↦ ⟨List.mem_of_getElem? (getElem?_below h f), rfl⟩

/-! ### Telephone numbers -/

/-- Three numbers of three, three and four digits make a telephone number. -/
theorem isPhone_phoneText {area exchange line : Nat} (harea : area < 1000)
    (hexchange : exchange < 1000) (hline : line < 10000) :
    IsPhone (phoneText area exchange line) := by
  refine ⟨(Text.padded 3 area).toList, (Text.padded 3 exchange).toList,
    (Text.padded 4 line).toList, ?_, Text.length_padded (by decide) harea,
    Text.length_padded (by decide) hexchange, Text.length_padded (by decide) hline, ?_⟩
  · simp [phoneText]
  · intro c hc
    simp only [List.mem_append] at hc
    rcases hc with (hc | hc) | hc <;> exact Text.isDigit_of_mem_padded hc

/-! ### Drawing records -/

/-- A draw hands out one id, and whatever it gives fits the id. -/
def Issues (x : Draw α) (p : Int64 → α → Prop) : Prop :=
  ∀ f, p f.nextId (x f).1 ∧ (x f).2.nextId = f.nextId + 1

/-- A draw that begins with an id and goes on with picks hands out that id. -/
theorem issues_newId {k : Int64 → Draw α} {p : Int64 → α → Prop}
    (h : ∀ id, Picks (k id) (p id)) : Issues (newId >>= k) p := by
  intro f
  exact h f.nextId { f with nextId := f.nextId + 1 }

/-- A day of 2026. -/
theorem year_plusDays_firstDay {days : Nat} (h : days < 365) :
    (firstDay.plusDays days).year = 2026 := by
  have hnumber := firstDay.dayNumber_plusDays days
  have hfirst : firstDay.dayNumber = Calendar.daysBefore 2026 + 1 := rfl
  have hlast : Date.last.dayNumber = Calendar.daysBefore 10000 := rfl
  have hend : Calendar.daysBefore 2027 = Calendar.daysBefore 2026 + 365 := rfl
  have hlate : Calendar.daysBefore 2027 ≤ Calendar.daysBefore 10000 :=
    Calendar.daysBefore_le (by decide)
  refine Date.year_eq_of_dayNumber (by omega) ?_
  show _ ≤ Calendar.daysBefore 2027
  omega

/-- Days after an event has started are still in the calendar. -/
theorem dayNumber_plusDays_of_year {d : Date} (hd : d.year = 2026) {days : Nat} (h : days ≤ 3) :
    (d.plusDays days).dayNumber = d.dayNumber + days := by
  have hhigh := d.dayNumber_bounds.2
  have hlast : Calendar.daysBefore 2027 + 3 ≤ Date.last.dayNumber := by decide
  rw [hd] at hhigh
  rw [d.dayNumber_plusDays]
  refine Int.min_eq_left ?_
  have hend : Calendar.daysBefore (2026 + 1) = Calendar.daysBefore 2027 := rfl
  omega

/-- So are the days before it starts. -/
theorem dayNumber_minusDays_of_year {d : Date} (hd : d.year = 2026) {days : Nat} (h : days ≤ 60) :
    (d.minusDays days).dayNumber = d.dayNumber - days := by
  have hlow := d.dayNumber_bounds.1
  have hfirst : Date.first.dayNumber + 60 ≤ Calendar.daysBefore 2026 := by decide
  rw [hd] at hlow
  rw [d.dayNumber_minusDays]
  refine Int.max_eq_left ?_
  omega

theorem event_fits : Issues event fun id e ↦ e.id = id ∧ EventFits e := by
  refine issues_newId fun id ↦ ?_
  refine (picks_pick (by decide)).bind fun kind hkind ↦ ?_
  refine (picks_pick (by decide)).bind fun city hcity ↦ ?_
  refine (picks_below (by decide)).bind fun start hstart ↦ ?_
  refine (picks_below (by decide)).bind fun days hdays ↦ ?_
  refine (picks_below (by decide)).bind fun status _ ↦ ?_
  refine (picks_below (by decide)).bind fun count _ ↦ picks_pure ?_
  have hyear := year_plusDays_firstDay hstart
  refine ⟨rfl, hcity, ⟨kind, hkind, rfl⟩, hyear, fun d hd ↦ ?_⟩
  split at hd
  · cases hd
  · cases hd
    exact ⟨days, by omega, by omega, dayNumber_plusDays_of_year hyear (by omega)⟩

theorem vendor_fits : Issues vendor fun id v ↦ v.id = id ∧ VendorFits v := by
  refine issues_newId fun id ↦ ?_
  refine (picks_pick (by decide)).bind fun word hword ↦ ?_
  refine (picks_pick (by decide)).bind fun suffix hsuffix ↦ ?_
  refine (picks_pick (by decide)).bind fun first hfirst ↦ ?_
  refine (picks_pick (by decide)).bind fun last hlast ↦ ?_
  refine (picks_below (by decide)).bind fun area harea ↦ ?_
  refine (picks_below (by decide)).bind fun exchange hexchange ↦ ?_
  refine (picks_below (by decide)).bind fun line hline ↦ ?_
  refine (picks_pick (by decide)).bind fun category hcategory ↦ ?_
  refine picks_coin.bind fun verified _ ↦ picks_pure ?_
  exact ⟨rfl, ⟨word, hword, suffix, hsuffix, rfl⟩, ⟨first, hfirst, last, hlast, rfl⟩,
    isPhone_phoneText (by omega) (by omega) hline, hcategory⟩

theorem submission_fits {e : Event} (v : Vendor) (he : e.startsOn.year = 2026) :
    Issues (submission e v) fun id s ↦ s.id = id ∧ SubmissionFits e v s := by
  refine issues_newId fun id ↦ ?_
  refine (picks_below (by decide)).bind fun status _ ↦ ?_
  refine (picks_pick (by decide)).bind fun topic htopic ↦ ?_
  refine (picks_below (by decide)).bind fun days hdays ↦ picks_pure ?_
  exact ⟨rfl, rfl, rfl, rfl, rfl, htopic, 1 + days, by omega, by omega,
    dayNumber_minusDays_of_year he (by omega)⟩

theorem payment_fits (e : Event) (v : Vendor) :
    Issues (payment e v) fun id p ↦ p.id = id ∧ PaymentFits e v p := by
  refine issues_newId fun id ↦ ?_
  refine (picks_below (by decide)).bind fun status _ ↦ ?_
  refine (picks_below (by decide)).bind fun amount hamount ↦ picks_pure ?_
  refine ⟨rfl, rfl, rfl, ?_, rfl⟩
  show 50000 ≤ (Int64.ofNat (50000 + amount)).toInt ∧ (Int64.ofNat (50000 + amount)).toInt ≤ 5049999
  rw [Int64.toInt_ofNat_of_lt (by omega)]
  omega

end Faker

end PitchDesk.Sample

import PitchDesk.Record.Basic
import PitchDesk.Sample.Generator

/-!
# Sample records

Records made up from a seed, for lists to be tried out with. Ids are handed out from 1 on, whatever
the kind of record; events take place in 2026, and what belongs to an event fits it.

A faker is a generator and the next id, and a draw is a step of it: `Draw` is a state monad over
both, so what is drawn later depends on everything that was drawn before. Rows of submissions draw
one event for all of them and a vendor for each. These are not given back, but their ids are used
up all the same.
-/

namespace PitchDesk.Sample

/-- Kinds of events. -/
def eventKinds : List String :=
  ["Conference", "Expo", "Summit", "Gala", "Festival", "Trade Show", "Wedding Fair", "Retreat"]

/-- Places of events. -/
def cities : List String :=
  ["Austin", "Seattle", "Denver", "Madison", "Raleigh", "Portland", "Boise", "Nashville",
   "Columbus", "Omaha"]

/-- What vendors offer. -/
def categories : List String :=
  ["Catering", "Audio/Visual", "Decor", "Photography", "Security", "Transport", "Venue",
   "Entertainment"]

/-- First words of company names. -/
def companyWords : List String :=
  ["Harbor", "Summit", "Bright", "Cedar", "Apex", "Lakeside", "Heritage", "Northwind",
   "Silverline", "Bluebird"]

/-- Last words of company names. -/
def companySuffixes : List String :=
  ["Co", "Group", "Works", "Collective", "Partners"]

/-- First names. -/
def firstNames : List String :=
  ["Avery", "Jordan", "Taylor", "Riley", "Morgan", "Casey", "Quinn", "Parker", "Kai", "Robin",
   "Hayden", "Rowan"]

/-- Last names. -/
def lastNames : List String :=
  ["Walker", "Martin", "Hill", "Evans", "Lopez", "Gray", "Reed", "Turner", "Flores", "Price",
   "Morris", "Brooks"]

/-- Titles of pitches. -/
def pitchTopics : List String :=
  ["Seasonal tasting menu", "Stage lighting package", "Floral centerpieces", "Drone photography",
   "Crowd management plan", "Shuttle loop service", "Rooftop venue hire", "Live jazz trio"]

/-- The first day of the year in which events take place. -/
def firstDay : Date := ⟨2026, 1, 1, by decide⟩

/-- Where the making of records stands: the generator, and the next id. -/
structure Faker where
  generator : Generator
  nextId : Int64
  deriving DecidableEq, Repr

/-- Something drawn by a faker. -/
abbrev Draw (α : Type) : Type := StateM Faker α

namespace Faker

/-- The faker of a seed; the seed zero counts as one. -/
def ofSeed (seed : UInt64) : Faker :=
  ⟨.ofSeed (if seed = 0 then 1 else seed), 1⟩

/-- Draws a number below `n`. -/
def below (n : Nat) : Draw Nat := fun f ↦
  let (x, g) := f.generator.below n
  (x, { f with generator := g })

/-- Draws one of two. -/
def coin : Draw Bool := fun f ↦
  let (b, g) := f.generator.coin
  (b, { f with generator := g })

/-- Hands out the next id. -/
def newId : Draw Int64 := fun f ↦
  (f.nextId, { f with nextId := f.nextId + 1 })

/-- Draws one of some texts. -/
def pick (items : List String) : Draw String := do
  return items.getD (← below items.length) ""

/-- Draws an event of one to four days. -/
def event : Draw Event := do
  let id ← newId
  let kind ← pick eventKinds
  let city ← pick cities
  let startsOn := firstDay.plusDays (← below 365)
  let days ← below 4
  let status : EventStatus :=
    match ← below 3 with
    | 0 => .draft
    | 1 => .opened
    | _ => .closed
  let count ← below 40
  return {
    id := id
    title := city ++ " " ++ kind ++ " 2026"
    location := city
    startsOn := startsOn
    endsOn := if days = 0 then none else some (startsOn.plusDays days)
    status := status
    submissionCount := .ofNat count }

/-- A telephone number of its three groups. -/
def phoneText (area exchange line : Nat) : String :=
  "(" ++ Text.padded 3 area ++ ") " ++ Text.padded 3 exchange ++ "-" ++ Text.padded 4 line

/-- Draws a vendor. -/
def vendor : Draw Vendor := do
  let id ← newId
  let word ← pick companyWords
  let suffix ← pick companySuffixes
  let first ← pick firstNames
  let last ← pick lastNames
  let area ← below 800
  let exchange ← below 800
  let line ← below 10000
  let category ← pick categories
  let verified ← coin
  return {
    id := id
    companyName := word ++ " " ++ suffix
    contactName := first ++ " " ++ last
    email := Text.lowerAscii first ++ "." ++ Text.lowerAscii last ++ "@" ++
      Text.lowerAscii word ++ ".example"
    phone := phoneText (200 + area) (200 + exchange) line
    category := category
    verified := verified }

/-- Draws a submission of a vendor for an event, handed in before the event starts. -/
def submission (event : Event) (vendor : Vendor) : Draw Submission := do
  let id ← newId
  let status : SubmissionStatus :=
    match ← below 4 with
    | 0 => .pending
    | 1 => .shortlisted
    | 2 => .winner
    | _ => .rejected
  let topic ← pick pitchTopics
  let days ← below 60
  return {
    id := id
    eventId := event.id
    eventTitle := event.title
    vendorId := vendor.id
    vendorName := vendor.companyName
    pitchTitle := topic
    status := status
    submittedOn := event.startsOn.minusDays (1 + days) }

/-- Draws a payment to a vendor for an event; one that is paid was paid when the event started. -/
def payment (event : Event) (vendor : Vendor) : Draw Payment := do
  let id ← newId
  let status : PaymentStatus :=
    match ← below 3 with
    | 0 => .pending
    | 1 => .paid
    | _ => .failed
  let amount ← below 5000000
  return {
    id := id
    vendorName := vendor.companyName
    eventTitle := event.title
    amountCents := .ofNat (50000 + amount)
    status := status
    paidOn := if status = .paid then some event.startsOn else none }

/-- Draws as many rows as asked for. -/
def rows (row : Draw Record) : Nat → Draw (List Record)
  | 0 => return []
  | n + 1 => do
    let first ← row
    return first :: (← rows row n)

/-- Draws rows of events. -/
def eventRows (count : Nat) : Draw (List Record) :=
  rows (do return .event (← event)) count

/-- Draws rows of submissions of different vendors for one event. -/
def submissionRows (count : Nat) : Draw (List Record) := do
  let e ← event
  rows (do return .submission (← submission e (← vendor))) count

end Faker

end PitchDesk.Sample

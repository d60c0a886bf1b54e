import PitchDesk.Failure
import PitchDesk.Text.Blank

/-!
# Lists that are loaded page by page

A `Listing` holds what is shown of one list: the rows of a page, the page and the search term that
they were asked for with, and whether an answer is awaited. Each request has a sequence number, and
only the answer to the latest request is accepted, so that a slow early answer never overwrites a
newer one. A failure leaves the rows as they are.

A list does not know what it is a list of, nor who answers. An operation that asks for a page gives
the list with the request written down, and the request is read off it (`Listing.request`); so
there is no list whose latest request and query disagree. Numbers of requests are words and wrap
around, which takes as many requests as there are words. Pages are asked for by number, and the
number after the last of all numbers is that number itself.
-/

namespace PitchDesk

/-- A request for one page. -/
structure PageRequest where
  seq : UInt64
  page : UInt32
  pageSize : UInt32
  search : String
  deriving DecidableEq, Repr

/-- One page of a list, with the totals if they were told. -/
structure Page (α : Type) where
  items : List α
  totalItems : Option UInt64
  totalPages : Option UInt32
  deriving DecidableEq, Repr

/-- A page with each item changed. -/
def Page.map {α β : Type} (f : α → β) (p : Page α) : Page β :=
  ⟨p.items.map f, p.totalItems, p.totalPages⟩

/-- What is asked for, and how many pages there are. -/
structure ListQuery where
  page : UInt32
  pageSize : UInt32
  term : String
  totalPages : UInt32
  deriving DecidableEq, Repr

/-- Whether an answer is awaited, and how the last one turned out. -/
inductive LoadState where
  | idle
  | loading
  | loaded
  | failed (message : String)
  deriving DecidableEq, Repr

/-- What became of an answer. -/
inductive Delivery where
  | applied
  | failed
  | stale
  deriving DecidableEq, Repr

/-- A key typed into the search field. -/
inductive SearchKey where
  | char (c : Char)
  | backspace
  | enter
  deriving DecidableEq, Repr

/-- What is shown of one list. -/
structure Listing (α : Type) where
  query : ListQuery
  /-- What stands in the search field. -/
  input : String
  rows : List α
  totalItems : Option UInt64
  state : LoadState
  /-- The number of the latest request. -/
  latest : UInt64
  deriving DecidableEq, Repr

namespace Listing

variable {α : Type}

/-- A list that nothing was asked for yet. A page has at least one row. -/
def new (pageSize : UInt32) : Listing α where
  query := ⟨1, max pageSize 1, "", 1⟩
  input := ""
  rows := []
  totalItems := none
  state := .idle
  latest := 0

/-- Whether an answer is awaited. -/
def isLoading (l : Listing α) : Bool :=
  l.state == .loading

/-- How the last answer failed, if it did. -/
def error? (l : Listing α) : Option String :=
  match l.state with
  | .failed message => some message
  | _ => none

/-- The latest request, as the query has it. -/
def request (l : Listing α) : PageRequest :=
  ⟨l.latest, l.query.page, l.query.pageSize, l.query.term⟩

/-- Asks for the current page again. -/
def refresh (l : Listing α) : Listing α :=
  { l with latest := l.latest + 1, state := .loading }

/-- Changes what stands in the search field. -/
def setInput (l : Listing α) (input : String) : Listing α :=
  { l with input := input }

/-- Asks for the first page of what the search field says. -/
def search (l : Listing α) : Listing α :=
  refresh { l with query := { l.query with term := Text.trim l.input, page := 1 } }

/-- Empties the search field and asks for the first page of everything. -/
def reset (l : Listing α) : Listing α :=
  refresh { l with input := "", query := { l.query with term := "", page := 1 } }

/-- Asks for a page, if there is such a page. -/
def goToPage? (l : Listing α) (page : UInt32) : Option (Listing α) :=
  if page < 1 ∨ l.query.totalPages < page then none
  else some (refresh { l with query := { l.query with page := page } })

/-- The page after the current one, if numbers allow. -/
def pageAfter (l : Listing α) : UInt32 :=
  if l.query.page + 1 = 0 then l.query.page else l.query.page + 1

/-- The page before the current one; zero, which is no page, if there is none. -/
def pageBefore (l : Listing α) : UInt32 :=
  if l.query.page = 0 then 0 else l.query.page - 1

/-- Asks for the next page, if there is one. -/
def nextPage? (l : Listing α) : Option (Listing α) :=
  l.goToPage? l.pageAfter

/-- Asks for the page before, if there is one. -/
def prevPage? (l : Listing α) : Option (Listing α) :=
  l.goToPage? l.pageBefore

/-- Types a key into the search field. Tells whether that asked for a page. -/
def typeKey (l : Listing α) : SearchKey → Listing α × Bool
  | .char c => ({ l with input := l.input.push c }, false)
  | .backspace => ({ l with input := String.ofList l.input.toList.dropLast }, false)
  | .enter => (l.search, true)

/-- Takes the answer to a request. -/
def apply (l : Listing α) (seq : UInt64) (answer : Except Failure (Page α)) :
    Listing α × Delivery :=
  if seq ≠ l.latest then (l, .stale)
  -- the query is left alone: it still stands for the request that is answered here
  else
    match answer with
    | .ok page =>
      ({ l with
          rows := page.items
          totalItems := page.totalItems
          query := { l.query with totalPages := max (page.totalPages.getD 1) 1 }
          state := .loaded }, .applied)
    | .error failure => ({ l with state := .failed failure.full }, .failed)

end Listing

end PitchDesk

import PitchDesk.Menu.Hierarchy
import PitchDesk.Menu.Preset

/-!
# Which menu is shown

A session shows the menu that the service sent, or the preset of the user's role if the service sent
nothing. A menu from the service is kept for a while, for the user that it was fetched for.

A menu without any records counts as none, so a service that sends an empty list has the preset
shown. The cache holds one menu, with the user and the time that it is of; it is asked with the
time at which the menu is needed, and an entry that is too old is not taken away but only not used.
-/

namespace PitchDesk

namespace Menu

/-- Where a menu comes from. -/
inductive Source where
  | server
  | fallback
  deriving DecidableEq, Repr

/-- The menu to show, with its origin. -/
structure Resolved where
  source : Source
  forest : Forest MenuRecord
  deriving Repr

/-- The menu of a role when the service answered with some records, or failed. -/
def resolve (role : Role) (fetched : Option (List MenuRecord)) : Resolved :=
  match fetched with
  | some (r :: rs) => ⟨.server, hierarchy (r :: rs)⟩
  | _ => ⟨.fallback, hierarchy (presetFor role)⟩

end Menu

/-- A menu that was fetched for a user at some time, in nanoseconds. -/
structure CachedMenu where
  user : Int64
  fetchedAt : Int
  menu : Menu.Resolved
  deriving Repr

/-- The menu that is kept, and for how many nanoseconds it stays good. -/
structure MenuCache where
  lifetime : Int
  entry : Option CachedMenu
  deriving Repr

namespace MenuCache

/-- A cache that holds nothing. -/
def empty (lifetime : Int) : MenuCache := ⟨lifetime, none⟩

/-- The menu of a user, if it was kept and is not too old. -/
def get? (c : MenuCache) (user : Int64) (now : Int) : Option Menu.Resolved :=
  match c.entry with
  | none => none
  | some e =>
    if e.user ≠ user then none
    else if c.lifetime < now - e.fetchedAt then none
    else some e.menu

/-- Keeps the menu of a user, and nothing else. -/
def store (c : MenuCache) (user : Int64) (menu : Menu.Resolved) (now : Int) : MenuCache :=
  { c with entry := some ⟨user, now, menu⟩ }

/-- Forgets what was kept. -/
def invalidate (c : MenuCache) : MenuCache :=
  { c with entry := none }

/-- Whether nothing is kept. -/
def isEmpty (c : MenuCache) : Bool :=
  c.entry.isNone

end MenuCache

end PitchDesk

import PitchDesk.Config
import PitchDesk.Menu.Resolved
import PitchDesk.Service.Client
import PitchDesk.Store.Basic

/-!
# What a session works with

Behind the screen stand the client that is signed in, the settings database, and the menu that was
last fetched. A menu from the service is kept for the user until its lifetime is over; the preset
that stands in for it is never kept, so that the service is asked again the next time.

The transport and the time come with each call, so a backend is a value and two loads differ only
by what they were given. A load tells which request it sent beside the menu that it gives
(`LoadedMenu`): whether there was an exchange at all and what went over the transport in it are
different questions, as a request that cannot be written is not sent.
-/

namespace PitchDesk

/-- What a session works with. -/
structure Backend where
  client : Client
  session : Session
  store : Store
  menus : MenuCache
  pageSize : UInt32 := Config.defaultPageSize
  maxUploadBytes : Nat := Upload.defaultLimit

namespace Backend

/-- The same with other limits. A page has at least one row. -/
def withLimits (b : Backend) (pageSize : UInt32) (maxUploadBytes : Nat) : Backend :=
  { b with pageSize := max pageSize 1, maxUploadBytes := maxUploadBytes }

/-- What the user may do. -/
def oracle (b : Backend) : Oracle := b.session.oracle

/-- A menu that was loaded, with the exchange with the service if there was one. -/
structure LoadedMenu where
  menu : Menu.Resolved
  exchange? : Option (Exchange (List MenuRecord))

/-- Loads the menu of the user at some time. -/
def loadMenu (b : Backend) (send : Client.Transport) (now : Int) : LoadedMenu × Backend :=
  match b.menus.get? b.session.user.id now with
  | some menu => (⟨menu, none⟩, b)
  | none =>
    let asked := b.client.exchange send b.client.menus
    let menu := Menu.resolve b.session.user.role asked.result.toOption
    let menus :=
      if menu.source = .server then b.menus.store b.session.user.id menu now else b.menus
    (⟨menu, some asked⟩, { b with menus := menus })

/-- Fetches a page of a list. -/
def fetch (b : Backend) (send : Client.Transport) (resource : Resource) (p : PageRequest) :
    Except ServiceError (Page Record) :=
  b.client.perform send (b.client.page resource p)

/-- Deletes a record. -/
def delete (b : Backend) (send : Client.Transport) (resource : Resource) (id : Int64) :
    Except ServiceError Unit :=
  b.client.perform send (b.client.delete resource id)

/-- Uploads a document that is accepted. -/
def upload (b : Backend) (send : Client.Transport) (files : FileTree) (resource : Resource)
    (id : Int64) (u : Upload) : Except ServiceError Unit :=
  match u.check b.maxUploadBytes with
  | .error cause => .error (.form cause)
  | .ok _ => do b.client.perform send (← b.client.upload files resource id u)

/-- Remembers whether the sidebar is collapsed. -/
def setSidebarCollapsed (b : Backend) (collapsed : Bool) : Except StoreError Backend :=
  (b.store.putSidebarCollapsed collapsed).map fun store ↦ { b with store := store }

/-- Signs out: forgets the menu and the token. -/
def logout (b : Backend) : Backend :=
  { b with menus := b.menus.invalidate, client := { b.client with token := none } }

end Backend

end PitchDesk

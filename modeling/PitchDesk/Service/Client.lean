import PitchDesk.Access.Permission
import PitchDesk.File.Tree
import PitchDesk.Json.Writer
import PitchDesk.Listing
import PitchDesk.Record.Wire
import PitchDesk.Service.Error
import PitchDesk.Url.Reader

/-!
# Requests to the service

Each thing that the service can be asked for is a `Call`: the request to send, and how to read the
answer. A call can fail before anything is sent, when its form is not accepted or its file cannot
be read. `Client.exchange` sends the request of a call over a transport, which either fails or
brings an answer, and notes what was sent; `Client.perform` is what comes of it.

A call is answered whatever its status is, and only then looked at: an answer of success is read by
the call, any other is a failure with its status code. The address of an endpoint is that of the
service with the names of the endpoint after it; headers are part of a request, and a header that
cannot be written keeps the request from being sent (`Request.fault?`).
-/

namespace PitchDesk

/-! ### Requests -/

/-- What a request asks to be done. -/
inductive Method where
  | get
  | post
  | delete
  deriving DecidableEq, Repr

/-- The name of a method. -/
def Method.name : Method → String
  | .get => "GET"
  | .post => "POST"
  | .delete => "DELETE"

/-- What a request carries. -/
inductive RequestBody where
  | none
  | json (value : Json)
  /-- A title and a file with its name, type and content. A directory has no content. -/
  | document (title fileName : String) (mediaType : String) (content : Option ByteArray)

/-- A request to the service. -/
structure Request where
  method : Method
  url : Url
  token : Option String
  body : RequestBody

namespace Request

/-- The header that tells who asks. -/
def authorization? (r : Request) : Option String :=
  r.token.map ("Bearer " ++ ·)

/-- Characters that no header may hold: the controls other than the tabulator. -/
def isForbiddenInHeader (c : Char) : Bool :=
  (c.toNat < 0x20 && c != '\t') || c.toNat == 0x7F

/-- The address of a request as error messages show it. -/
def shownUrl (r : Request) : String :=
  "url (" ++ r.url.anonymous.toText ++ ")"

/-- Why a request cannot be sent, if it cannot. -/
def fault? (r : Request) : Option String :=
  if r.authorization?.any (·.toList.any isForbiddenInHeader) then some "builder error"
  else
    match r.body with
    | .document _ _ _ none => some ("request or response body error for " ++ r.shownUrl)
    | _ => none

end Request

namespace RequestBody

/-- The type of what a request carries. The parts of a document are separated by a boundary. -/
def contentType? (boundary : String) : RequestBody → Option String
  | .none => Option.none
  | .json _ => some "application/json"
  | .document _ _ _ _ => some ("multipart/form-data; boundary=" ++ boundary)

/-- The bytes that a request carries. -/
def bytes (boundary : String) : RequestBody → ByteArray
  | .none => .empty
  | .json value => value.toText.toUTF8
  | .document title fileName mediaType content =>
    let head :=
      "--" ++ boundary ++ "\r\nContent-Disposition: form-data; name=\"title\"\r\n\r\n" ++ title ++
        "\r\n--" ++ boundary ++ "\r\nContent-Disposition: form-data; name=\"file\"; filename=\"" ++
        fileName ++ "\"\r\nContent-Type: " ++ mediaType ++ "\r\n\r\n"
    head.toUTF8 ++ content.getD .empty ++ ("\r\n--" ++ boundary ++ "--\r\n").toUTF8

/-- The type of a file by its extension. -/
def mediaTypeOf (path : String) : String :=
  match (Path.extension? path).map Text.lowerAscii with
  | some "pdf" => "application/pdf"
  | some "doc" => "application/msword"
  | some "docx" => "application/vnd.openxmlformats-officedocument.wordprocessingml.document"
  | some "png" => "image/png"
  | some "jpg" | some "jpeg" => "image/jpeg"
  | _ => "application/octet-stream"

end RequestBody

/-! ### Calls -/

/-- A request and how its answer is read. -/
structure Call (α : Type) where
  request : Request
  accept : Response → Except ServiceError α

/-- What was sent for a call, and what came of it. -/
structure Exchange (α : Type) where
  sent : List Request
  result : Except ServiceError α

/-- Who asks, and where the service is. -/
structure Client where
  baseUrl : Url
  token : Option String
  deriving DecidableEq, Repr

/-- Why a text is not the address of a service. -/
inductive BaseUrlError where
  | empty
  | invalid (text : String) (cause : UrlError)
  | notWeb (scheme : String)
  deriving DecidableEq, Repr

/-- The wording of each cause. -/
def BaseUrlError.message : BaseUrlError → String
  | .empty => "api.base_url must not be empty"
  | .invalid text _ => "api.base_url " ++ Text.quoted text ++ " is not a valid URL"
  | .notWeb scheme => "api.base_url must use http or https, got " ++ Text.quoted scheme

/-- The wording of each cause, with what caused it. -/
def BaseUrlError.full (e : BaseUrlError) : String :=
  match e with
  | .invalid _ cause => e.message ++ ": " ++ cause.message
  | _ => e.message

/-- What signing in brings. -/
structure SignIn where
  token : String
  user : SessionUser
  permissions : List Permission
  deriving DecidableEq, Repr

instance : Wire SignIn where
  toJson s := .ofFields
    [("token", Wire.toJson s.token), ("user", Wire.toJson s.user),
     ("permissions", Wire.toJson s.permissions)]
  ofJson? v := do
    let f ← Wire.fields? ["token", "user", "permissions"] v
    return {
      token := ← f.required "token"
      user := ← f.required "user"
      permissions := ← f.withDefault "permissions" [] }

/-- The rows of a list of one kind of record. -/
structure Rows (resource : Resource) where
  rows : List Record
  deriving DecidableEq, Repr

instance (resource : Resource) : Wire (Rows resource) where
  toJson r := .array (r.rows.map Record.toJson)
  ofJson?
    | .array items => (items.mapM (Record.ofJson? resource)).map Rows.mk
    | _ => none

namespace Client

/-- A client of the service at an address, before anybody has signed in. -/
def new (baseUrl : String) : Except BaseUrlError Client :=
  let text := Url.withoutSlashes baseUrl
  if text.isEmpty then .error .empty
  else
    match Url.read (text ++ "/") with
    | .ok (.web url) => .ok ⟨url, none⟩
    | .ok (.other scheme) => .error (.notWeb scheme)
    | .error cause => .error (.invalid text cause)

/-- A request of this client. -/
def request (c : Client) (method : Method) (segments : List String) (body : RequestBody) :
    Request :=
  ⟨method, c.baseUrl.endpoint segments, c.token, body⟩

/-- Asks to sign in. -/
def login (c : Client) (form : LoginForm) : Call Session where
  request := c.request .post ["auth", "login"] <|
    .json (.ofFields [("email", .text form.email), ("password", .text form.password)])
  accept r := do
    let s ← (← r.envelope SignIn "login").required "login"
    if Text.isBlankText s.token then throw .emptyToken
    return .ofGrants s.token s.user s.permissions

/-- Asks for another password, if the form is accepted. -/
def changePassword (c : Client) (form : PasswordForm) : Except ServiceError (Call Unit) :=
  match form.check with
  | .error cause => .error (.form cause)
  | .ok _ => .ok {
      request := c.request .post ["auth", "password"] <|
        .json (.ofFields
          [("current_password", .text form.current), ("new_password", .text form.new)])
      accept := fun r ↦ r.expectDone "password change" }

/-- Asks for the menu of the user. -/
def menus (c : Client) : Call (List MenuRecord) where
  request := c.request .get ["menus"] .none
  accept r := do
    return (← (← r.envelope (List MenuRecord) "menu").checked).data.getD []

/-- Asks for a page of a list. -/
def page (c : Client) (resource : Resource) (p : PageRequest) : Call (Page Record) where
  request :=
    let r := c.request .get [resource.code] .none
    { r with
      url := ((r.url.addParameter "page" (toString p.page.toNat)).addParameter "limit"
        (toString p.pageSize.toNat)).addParameter "search" p.search }
  accept r := do
    let e ← (← r.envelope (Rows resource) resource.code).checked
    return ⟨(e.data.map (·.rows)).getD [], e.totalData, e.totalPages⟩

/-- Asks for a record to be deleted. -/
def delete (c : Client) (resource : Resource) (id : Int64) : Call Unit where
  request := c.request .delete [resource.code, toString id.toInt] .none
  accept r := r.expectDone "delete"

/-- Sends a document that belongs to a record, if its file can be read. -/
def upload (c : Client) (files : FileTree) (resource : Resource) (id : Int64) (u : Upload) :
    Except ServiceError (Call Unit) :=
  match files.get? u.path with
  | none => .error (.unreadableFile u.path)
  | some node =>
    let content := match node with
      | .file content => some content
      | .directory => none
    .ok {
      request := c.request .post [resource.code, toString id.toInt, "documents"] <|
        .document (Text.trim u.title) u.fileName (RequestBody.mediaTypeOf u.path) content
      accept := fun r ↦ r.expectDone "upload" }

/-! ### Sending -/

/-- What brings requests to the service: an answer, or what was wrong with the connection. -/
abbrev Transport : Type := Request → Except String Response

/-- What a connection that does not come about says of itself. -/
def unreachable (r : Request) : String :=
  "error sending request for " ++ r.shownUrl

/-- The failure of a request that gets no answer. -/
def unreached (c : Client) (cause : String) : ServiceError :=
  .connection (Url.withoutSlashes c.baseUrl.toText) cause

/-- Sends the request of a call, if it can be sent, and reads the answer. -/
def exchange {α : Type} (c : Client) (send : Transport) (call : Call α) : Exchange α :=
  match call.request.fault? with
  -- a request that cannot be written is told like a connection that does not come about
  | some cause => ⟨[], .error (c.unreached cause)⟩
  | none =>
    ⟨[call.request],
      match send call.request with
      | .error cause => .error (c.unreached cause)
      | .ok r => if r.isSuccess then call.accept r else .error r.failure⟩

/-- What comes of a call. -/
def perform {α : Type} (c : Client) (send : Transport) (call : Call α) : Except ServiceError α :=
  (c.exchange send call).result

end Client

end PitchDesk

import PitchDesk.File.Path
import PitchDesk.Text.Blank

/-!
# Forms

What is checked before a request is sent: signing in, changing the password and uploading a
document. Each form tells the first fault in a fixed order.

A check gives the first fault or nothing. An accepted form is not changed by it: what is sent of a
form is for the client to say. Lengths are counted in characters and sizes in bytes.
-/

namespace PitchDesk

/-- Why a form is not accepted. -/
inductive FormError where
  | required (field : String)
  | invalidEmail
  | passwordTooShort
  | passwordMismatch
  | fileMissing (path : String)
  | unsupportedExtension (extension : String)
  | fileTooLarge (size limit : Nat)
  deriving DecidableEq, Repr

/-- The wording of each cause. -/
def FormError.message : FormError → String
  | .required field => field ++ " is required"
  | .invalidEmail => "email must contain '@'"
  | .passwordTooShort => "password must be at least 8 characters"
  | .passwordMismatch => "passwords do not match"
  | .fileMissing path => "file not found: " ++ path
  | .unsupportedExtension extension =>
    "file type ." ++ extension ++ " is not allowed (use pdf, doc, docx, png, jpg or jpeg)"
  | .fileTooLarge size limit =>
    "file is " ++ toString size ++ " bytes; the limit is " ++ toString limit ++ " bytes"

/-! ### Signing in -/

/-- What is asked for at signing in. -/
structure LoginForm where
  email : String
  password : String
  deriving DecidableEq, Repr

/-- An address with an at sign and a password are needed. -/
def LoginForm.check (f : LoginForm) : Except FormError Unit :=
  if Text.isBlankText f.email then .error (.required "email")
  else if f.password.isEmpty then .error (.required "password")
  else if !f.email.toList.contains '@' then .error .invalidEmail
  else .ok ()

/-! ### Changing the password -/

/-- What is asked for at changing the password. -/
structure PasswordForm where
  current : String
  new : String
  confirmation : String
  deriving DecidableEq, Repr

/-- The least number of characters of a password. -/
def PasswordForm.minLength : Nat := 8

/-- The old password and a long enough new one, typed twice, are needed. -/
def PasswordForm.check (f : PasswordForm) : Except FormError Unit :=
  if f.current.isEmpty then .error (.required "current password")
  else if f.new.length < minLength then .error .passwordTooShort
  else if f.new ≠ f.confirmation then .error .passwordMismatch
  else .ok ()

/-! ### Uploading a document -/

/-- A file to upload under a title. Its size is known if there is such a file. -/
structure Upload where
  path : String
  title : String
  size : Option Nat
  deriving DecidableEq, Repr

namespace Upload

/-- The extensions that documents may have. -/
def allowedExtensions : List String := ["pdf", "doc", "docx", "png", "jpg", "jpeg"]

/-- The size that a document may have unless another limit is set: ten mebibytes. -/
def defaultLimit : Nat := 10 * 1024 * 1024

/-- The extension of the file, in lower case. -/
def extension? (u : Upload) : Option String :=
  (Path.extension? u.path).map Text.lowerAscii

/-- The name of the file; empty if the path names none. -/
def fileName (u : Upload) : String :=
  (Path.fileName? u.path).getD ""

/-- A title and an existing file of an allowed kind and size are needed. -/
def check (u : Upload) (limit : Nat) : Except FormError Unit :=
  if Text.isBlankText u.title then .error (.required "title")
  else
    match u.size with
    | none => .error (.fileMissing u.path)
    | some size =>
      let extension := u.extension?.getD ""
      if !allowedExtensions.contains extension then .error (.unsupportedExtension extension)
      else if limit < size then .error (.fileTooLarge size limit)
      else .ok ()

end Upload

end PitchDesk

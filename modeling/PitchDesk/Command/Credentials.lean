import PitchDesk.Form

/-!
# Who signs in

The address to sign in with is the one that was asked for, or else the one that was used last. The
password is never an argument of the command.

The faults are told in the order in which the details are needed: first the address, then the
password, and then those of the form that they make.
-/

namespace PitchDesk.Command

/-- Why nobody can be signed in. -/
inductive CredentialsError where
  | noEmail
  | noPassword
  | invalid (cause : FormError)
  deriving DecidableEq, Repr

/-- The wording of each cause. -/
def CredentialsError.message : CredentialsError → String
  | .noEmail => "no email to sign in with; pass --email <addr>"
  | .noPassword => "set VENDORHUB_PASSWORD to the account password"
  | .invalid cause => "invalid sign-in details: " ++ cause.message

/-- The form to sign in with. Blanks around the address do not count. -/
def credentials (asked last password : Option String) : Except CredentialsError LoginForm :=
  match asked.or last, password with
  | none, _ => .error .noEmail
  | some _, none => .error .noPassword
  | some email, some password =>
    let form : LoginForm := ⟨Text.trim email, password⟩
    match form.check with
    | .ok _ => .ok form
    | .error cause => .error (.invalid cause)

end PitchDesk.Command

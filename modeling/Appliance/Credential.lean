import Appliance.Fault
import Appliance.Files
import Appliance.Scope
import Appliance.Secret
import Appliance.Text.Ascii
import Appliance.Text.Blank
import Appliance.Text.Quoted

/-!
# Credentials

Who asks for a token, and the proof: a certificate that a thumbprint names, a
certificate with its password, or a user name with its password. A credential
may name the identity provider that is to vouch for it.

* `Thumbprint`     : hexadecimal digits in upper case, at least one
* `Credential`     : an identity and the provider it asks for
* `Credential.debug` : the diagnostic text, without secrets
-/

namespace Appliance

/-- The digits of a thumbprint. -/
def isThumbprintDigit (c : Char) : Bool := ('0' ≤ c && c ≤ '9') || ('A' ≤ c && c ≤ 'F')

/-- Names a certificate: upper-case hexadecimal digits, at least one. -/
structure Thumbprint where
  text : String
  digits : text.toList.all isThumbprintDigit = true
  nonempty : text.toList ≠ []
deriving DecidableEq

namespace Thumbprint

/-- A thumbprint without blanks, in upper case. -/
def normalize (s : String) : String := Text.upper (Text.removeBlanks s)

/-- Reads a thumbprint in either case, with blanks anywhere. -/
def read (s : String) : Except InputFault Thumbprint :=
  let text := normalize s
  if nonempty : text.toList = [] then .error (.credential "certificate thumbprint is empty")
  else if digits : text.toList.all isThumbprintDigit = true then
    .ok { text, digits, nonempty }
  else .error (.credential ("certificate thumbprint '" ++ s ++ "' is not hexadecimal"))

end Thumbprint

/-- Who asks, and the proof. -/
inductive Identity where
  | thumbprint (t : Thumbprint)
  | certificate (data password : Secret)
  | password (username : String) (password : Secret)
deriving DecidableEq

/-- An identity, and the provider that is to vouch for it if one is named. -/
structure Credential where
  identity : Identity
  provider : Option String
deriving DecidableEq

namespace Credential

/-- A certificate named by its thumbprint. -/
def thumbprint (s : String) : Except InputFault Credential :=
  (Thumbprint.read s).map fun t => ⟨.thumbprint t, none⟩

/-- A certificate given by its data. -/
def certificate (data password : Secret) : Except InputFault Credential :=
  if data.isEmpty then .error (.credential "certificate data is empty")
  else .ok ⟨.certificate data password, none⟩

/-- A certificate given by a file, of which the content is known or why there is none. -/
def certificateFile (path : String) (content : Except Files.ReadFault Octets)
    (password : Secret) : Except InputFault Credential :=
  match content with
  | .ok data => certificate ⟨data⟩ password
  | .error f =>
    .error (.credential ("unable to read certificate file " ++ path ++ ": " ++ f.message))

/-- A user name and its password. -/
def password (username : String) (password : Secret) : Except InputFault Credential :=
  if (Text.trimChars username.toList).isEmpty then .error (.credential "username is empty")
  else .ok ⟨.password username password, none⟩

/-- Names the provider. A blank name stands for none. -/
def withProvider (c : Credential) (name : String) : Credential :=
  { c with provider := if (Text.trimChars name.toList).isEmpty then none else some name }

/-- Whether the proof is a certificate. -/
def isCertificate (c : Credential) : Bool :=
  match c.identity with
  | .password .. => false
  | _ => true

/-- The scope of a credential that names no provider. -/
def defaultScope (c : Credential) : Scope :=
  if c.isCertificate then Scope.certificate else Scope.localAccounts

/-- The name of the kind of proof. -/
def kind (c : Credential) : String :=
  match c.identity with
  | .thumbprint _ => "thumbprint"
  | .certificate .. => "certificate"
  | .password .. => "password"

/-- The diagnostic text of an optional text. -/
def optionText : Option String → String
  | none => "None"
  | some s => "Some(" ++ Text.quoted s ++ ")"

/-- The diagnostic text of named fields. -/
def recordText (name : String) (fields : List (String × String)) : String :=
  name ++ " \x7b " ++ String.intercalate ", " (fields.map fun f => f.1 ++ ": " ++ f.2) ++ " \x7d"

/-- Stands for a secret field. -/
def hidden : String := Text.quoted Secret.mask

/-- The diagnostic text, without secrets. -/
def debug (c : Credential) : String :=
  match c.identity with
  | .thumbprint t =>
    recordText "Thumbprint"
      [("thumbprint", Text.quoted t.text), ("provider", optionText c.provider)]
  | .certificate _ _ =>
    recordText "CertificateData"
      [("data", hidden), ("password", hidden), ("provider", optionText c.provider)]
  | .password username _ =>
    recordText "Password"
      [("username", Text.quoted username), ("password", hidden),
        ("provider", optionText c.provider)]

end Credential

end Appliance

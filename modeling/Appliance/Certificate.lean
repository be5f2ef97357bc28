import Appliance.Credential
import Appliance.Dialogue

/-!
# Client certificates

A credential with a certificate presents it on the connection. Where only a
thumbprint is known, a store supplies the certificate: a folder whose files are
named after thumbprints. These carry no password.

* `ClientCertificate` : an archive and its password
* `Store.search`      : the search for the certificate of a name, file by file
* `Store.find`        : the certificate that a name stands for
* `Store.gather`      : a folder, as far as it is read for a credential
* `presented`         : what a credential presents
-/

namespace Appliance

/-- A certificate archive and its password. -/
structure ClientCertificate where
  archive : Secret
  password : Secret
deriving DecidableEq

namespace ClientCertificate

/-- The diagnostic text, which tells the size of the archive. -/
def debug (c : ClientCertificate) : String :=
  Credential.recordText "ClientCertificate"
    [("der", Text.quoted ("[" ++ toString c.archive.size ++ " bytes]")),
      ("password", Credential.hidden)]

end ClientCertificate

namespace Certificate

/-- A folder of certificates: the path it is shown as, and where it is. -/
structure Store where
  path : String
  place : Files.Place

namespace Store

/-- The file extensions of certificates, in the order in which they are tried. -/
def extensions : List String := ["pfx", "p12"]

/-- The search for the certificate of a name in a folder, as a dialogue that asks for one file
of the folder after the other. One that is missing gives way to the next; any other failure ends
the search. -/
def search (path name : String) : List String →
    Dialogue String (Except Files.ReadFault Octets) (Except AuthFault ClientCertificate)
  | [] => .done (.error (.certificate ("no certificate with thumbprint " ++ name ++ " in " ++ path)))
  | extension :: rest =>
    let file := name ++ "." ++ extension
    .ask file fun
      | .ok content => .done (.ok ⟨⟨content⟩, Secret.empty⟩)
      | .error .missing => search path name rest
      | .error f =>
        .done (.error (.certificate
          ("unable to read " ++ Files.join path file ++ ": " ++ f.message)))

/-- The content of a file of the folder, which is read by its whole path. -/
def read (s : Store) (file : String) : Except Files.ReadFault Octets :=
  match Files.pathFault? (Files.join s.path file) with
  | some f => .error f
  | none => s.place.read file

/-- The certificate that a name stands for. -/
def find (s : Store) (name : String) : Except AuthFault ClientCertificate :=
  (search s.path name extensions).answered s.read

/-- A folder of which no more is known than what was read of its files. -/
def ofReads (path : String) (reads : List (String × Except Files.ReadFault Octets)) : Store :=
  ⟨path, ⟨.folder (reads.map fun r => (r.1, .ofContent r.2)), []⟩⟩

/-- The folder at a path, as far as the search for a credential's certificate asks for its files.
They are read by `read`, one after the other. -/
def gather {m : Type → Type} [Monad m] (read : String → m (Except Files.ReadFault Octets))
    (path : String) (c : Credential) : m Store :=
  match c.identity with
  | .thumbprint t =>
    ofReads path <$>
      (search path t.text extensions).exchanges fun file => read (Files.join path file)
  | _ => pure (ofReads path [])

end Store

/-- The certificate that a credential presents, if its kind has one. -/
def presented (store : Option Store) (c : Credential) :
    Except AuthFault (Option ClientCertificate) :=
  match c.identity with
  | .password .. => .ok none
  | .certificate data password => .ok (some ⟨data, password⟩)
  | .thumbprint t =>
    match store with
    | none =>
      .error (.certificate
        ("no certificate store configured to resolve thumbprint " ++ t.text))
    | some s => (s.find t.text).map some

end Certificate

end Appliance

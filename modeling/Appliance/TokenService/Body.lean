import Appliance.Json.Record
import Appliance.Text.Ascii

/-!
# Bodies of the token service

The records that the token service answers with: an issued token, a refusal, and
the list of identity providers.

* `IssuedBody`, `RefusalBody`, `ProviderEntry` : the records
* `IssuedBody.ofText?` and its companions      : read from JSON text
-/

namespace Appliance.TokenService

open Appliance.Json

/-- An issued token. -/
structure IssuedBody where
  accessToken : Option String
  /-- The lifetime in seconds. -/
  expiresIn : Option Nat
deriving DecidableEq, Repr

/-- Reads an issued token. -/
def IssuedBody.ofTree? (t : Tree) : Option IssuedBody := do
  match ← Record.fields? [["access_token"], ["expires_in"]] t with
  | [token, lifetime] =>
    return {
      accessToken := ← Record.optional? Tree.text? token
      expiresIn := ← Record.optional? (Tree.natBelow? 0x10000000000000000) lifetime }
  | _ => none

/-- Reads an issued token from its text. -/
def IssuedBody.ofText? (s : String) : Option IssuedBody := (Tree.ofText? s).bind ofTree?

/-- A refusal. Two services word it differently, so each part may go by two names. -/
structure RefusalBody where
  code : Option Int
  message : Option String
  error : Option String
  description : Option String
deriving DecidableEq, Repr

namespace RefusalBody

/-- A refusal that says nothing. -/
def silent : RefusalBody := ⟨none, none, none, none⟩

/-- Reads a refusal. -/
def ofTree? (t : Tree) : Option RefusalBody := do
  match ← Record.fields?
      [["code", "Code"], ["message", "Message"], ["error"], ["error_description"]] t with
  | [code, message, error, description] =>
    return {
      code := ← Record.optional? Tree.int64? code
      message := ← Record.optional? Tree.text? message
      error := ← Record.optional? Tree.text? error
      description := ← Record.optional? Tree.text? description }
  | _ => none

/-- Reads a refusal from its text. -/
def ofText? (s : String) : Option RefusalBody := (Tree.ofText? s).bind ofTree?

/-- The most specific wording there is. -/
def wording (r : RefusalBody) : Option String := (r.message.or r.description).or r.error

end RefusalBody

/-- An identity provider of the appliance. -/
structure ProviderEntry where
  id : String
  displayName : Option String
deriving DecidableEq, Repr

namespace ProviderEntry

/-- Reads an identity provider. -/
def ofTree? (t : Tree) : Option ProviderEntry := do
  match ← Record.fields? [["Id"], ["DisplayName"]] t with
  | [id, name] =>
    return {
      id := ← Record.required? Tree.text? id
      displayName := ← Record.optional? Tree.text? name }
  | _ => none

/-- Whether a provider goes by a name: its id or its displayed name, up to ASCII case. -/
def goesBy (p : ProviderEntry) (name : String) : Bool :=
  Text.sameLetters p.id name || p.displayName.any fun d => Text.sameLetters d name

/-- Reads a list of identity providers. -/
def listOfTree? (t : Tree) : Option (List ProviderEntry) := do
  match ← Record.fields? [["Providers"]] t with
  | [providers] => Record.orElse? (Tree.list? ofTree?) [] providers
  | _ => none

/-- Reads a list of identity providers from its text. -/
def listOfText? (s : String) : Option (List ProviderEntry) := (Tree.ofText? s).bind listOfTree?

end ProviderEntry

end Appliance.TokenService

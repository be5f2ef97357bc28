import Appliance.Hub.Opening
import Appliance.Listener
import Appliance.Proofs.TokenService.Lifetime
import Mathlib.Data.List.Forall2
import Mathlib.Data.Option.Defs

/-!
# What an onlooker cannot tell apart

Two passwords, two certificates, two tokens are alike if the program may treat them
alike: all that it may show of them is the same. Two requests are alike if they differ in
the password that they send at most, and two answers of the token service if they differ in
the text of the token that they issue at most.

* `Secret.Alike`, `Credential.Alike` : secrets, and credentials that hold them
* `Token.Alike`, `Glance.Alike`      : tokens, and sessions as a listener sees them
* `Request.Alike`, `Response.Alike`, `Reply.Alike` : what goes over the wire
* `Conversation.Alike`               : asks for alike things, whatever alike is answered
-/

namespace Appliance

/-- The same failure, or results that are alike. -/
inductive ExceptAlike {ε α β : Type} (R : α → β → Prop) : Except ε α → Except ε β → Prop where
  | error (e : ε) : ExceptAlike R (.error e) (.error e)
  | ok {a : α} {b : β} : R a b → ExceptAlike R (.ok a) (.ok b)

/-! ## Secrets and credentials -/

/-- Both are texts, or neither is. -/
def Secret.Alike (a b : Secret) : Prop := a.text?.isSome = b.text?.isSome

/-- Data of the same size with passwords that are alike; and the platform opens both archives
or neither. -/
structure ClientCertificate.Alike (platform : TokenService.Platform) (a b : ClientCertificate) :
    Prop where
  size : a.archive.size = b.archive.size
  password : a.password.Alike b.password
  opens : ∀ p q, a.password.text? = some p → b.password.text? = some q →
    platform.opens a.archive.octets p = platform.opens b.archive.octets q

/-- Who asks is the same, and the proofs are alike. -/
inductive Identity.Alike (platform : TokenService.Platform) : Identity → Identity → Prop where
  | thumbprint (t : Thumbprint) : Alike platform (.thumbprint t) (.thumbprint t)
  | certificate {data data' password password' : Secret} :
    ClientCertificate.Alike platform ⟨data, password⟩ ⟨data', password'⟩ →
      Alike platform (.certificate data password) (.certificate data' password')
  | password (username : String) {secret secret' : Secret} :
    secret.Alike secret' → Alike platform (.password username secret) (.password username secret')

/-- The identities are alike, and the providers are the same. -/
structure Credential.Alike (platform : TokenService.Platform) (a b : Credential) : Prop where
  identity : Identity.Alike platform a.identity b.identity
  provider : a.provider = b.provider

/-! ## Tokens -/

/-- Both texts may stand in a header, or neither. -/
def TextAlike (a b : String) : Prop := (Hub.bearer a).isOk = (Hub.bearer b).isOk

/-- They expire at the same instant, and both may be presented or neither. -/
structure Token.Alike (a b : Token) : Prop where
  expiry : a.expiry = b.expiry
  text : TextAlike a.text b.text

/-- The same time is left, and the tokens are alike. -/
structure Listener.Glance.Alike (a b : Listener.Glance) : Prop where
  secondsLeft : a.secondsLeft = b.secondsLeft
  token : Option.Rel Token.Alike a.token b.token

/-- The same effect, up to tokens that are alike. -/
inductive Listener.Effect.Alike : Listener.Effect → Listener.Effect → Prop where
  | same (e : Listener.Effect) : Alike e e
  | attempt (first : Bool) {g h : Listener.Glance} :
    g.Alike h → Alike (.attempt first g) (.attempt first h)
  | openChannel {t u : Token} : t.Alike u → Alike (.openChannel t) (.openChannel u)

/-! ## On the wire -/

namespace TokenService

open Appliance.Json

/-- The same kind of grant for the same user and scope. -/
inductive Grant.Alike : Grant → Grant → Prop where
  | certificate (scope : String) : Alike (.certificate scope) (.certificate scope)
  | password (username scope p q : String) :
    Alike (.password username p scope) (.password username q scope)

/-- The requests are the same, or both ask for a token and differ in the password. -/
inductive Request.Alike : Request → Request → Prop where
  | same (r : Request) : Alike r r
  | token (appliance : Address) {g h : Grant} :
    g.Alike h → Alike (tokenRequest appliance g) (tokenRequest appliance h)

/-- A key of an object that names the access token. -/
def tokenKey (key : List Piece) : Prop := (decodePieces key).map String.ofList = some "access_token"

/-- The members of two objects are the same, or both state an access token. -/
inductive MemberAlike : List Piece × Tree → List Piece × Tree → Prop where
  | same (m : List Piece × Tree) : MemberAlike m m
  | token {key text text' : List Piece} :
    tokenKey key → MemberAlike (key, .text text) (key, .text text')

/-- The trees are the same but for an access token, which they state under its name or as the
first item. -/
inductive TreeAlike : Tree → Tree → Prop where
  | object {ms ms' : List (List Piece × Tree)} :
    List.Forall₂ MemberAlike ms ms' → TreeAlike (.object ms) (.object ms')
  | array (text text' : List Piece) (rest : List Tree) :
    TreeAlike (.array (.text text :: rest)) (.array (.text text' :: rest))

/-- The answers are the same, or both issue a token and differ in its text at most. -/
inductive Response.Alike : Response → Response → Prop where
  | same (r : Response) : Alike r r
  | issue {r r' : Response} {t t' : Tree} {text text' : String} {seconds seconds' : Option Nat} :
    r.status = r'.status →
    Tree.ofText? (Text.Utf8.lossy r.body) = some t →
    Tree.ofText? (Text.Utf8.lossy r'.body) = some t' → TreeAlike t t' →
    r.Issues text seconds → r'.Issues text' seconds' → TextAlike text text' → Alike r r'

/-- The answers come at the same time and are alike. -/
structure Reply.Alike (a b : Reply) : Prop where
  time : a.time = b.time
  outcome : ExceptAlike Response.Alike a.outcome b.outcome

/-- Dialogues that ask alike things as long as they are answered alike things, and then have
results that `R` relates. -/
inductive Conversation.Alike {α β : Type} (R : α → β → Prop) :
    Dialogue Request Reply α → Dialogue Request Reply β → Prop where
  | done {a : α} {b : β} : R a b → Alike R (.done a) (.done b)
  | ask {q q' : Request} {next : Reply → Dialogue Request Reply α}
      {next' : Reply → Dialogue Request Reply β} :
    q.Alike q' → (∀ r r', r.Alike r' → Alike R (next r) (next' r')) →
      Alike R (.ask q next) (.ask q' next')

end TokenService

end Appliance

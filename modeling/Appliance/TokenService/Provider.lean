import Appliance.TokenService.Exchange

/-!
# Token providers

A token provider turns a credential into a scope, and a credential with a scope
into a token. The one of this module asks the token service of an appliance.

* `TokenProvider`    : the two services
* `resolveScope`     : the scope of a credential
* `authenticate`     : the token of a credential
* `provider`         : the two together
-/

namespace Appliance

/-- Turns credentials into scopes and tokens, by asks of type `Q` with answers of type `A`. -/
structure TokenProvider (Q A : Type) where
  resolve : Credential → Dialogue Q A (Except TokenService.Failure Scope)
  authenticate : Credential → Option Scope → Dialogue Q A (Except TokenService.Failure Token)

namespace TokenService

/-- What the platform can do with certificate archives. -/
structure Platform where
  /-- Whether an archive opens with a password. -/
  opens : Octets → String → Bool

/-- A platform that opens no archive. -/
def Platform.bare : Platform := ⟨fun _ _ => false⟩

/-- The id of the built-in provider for a kind of credential. -/
def builtInId (c : Credential) : String :=
  if c.isCertificate then Scope.certificateId else Scope.localId

/-- The scope of the first provider that goes by a name. -/
def choose (name : String) (providers : List ProviderEntry) : Except Fault Scope :=
  match providers.find? fun p => p.goesBy name with
  | some p => .ok ⟨p.id⟩
  | none => .error (.auth (.unknownProvider name (providers.map (·.id))))

/-- The scope that a reply with identity providers gives a name. Only a failure of the
network is passed on; with any other the list counts as empty. -/
def scopeOf (name : String) (found : Except Failure (List ProviderEntry)) :
    Except Failure Scope :=
  match found with
  | .ok providers => (choose name providers).mapError .fault
  | .error (.fault (.transport f)) => .error (.fault (.transport f))
  | .error _ => (choose name []).mapError .fault

/-- The scope of a credential: the default one, unless it names another provider, which
is then looked up. -/
def resolveScope (appliance : Address) (c : Credential) : Exchange Scope :=
  match c.provider with
  | none => .done (.ok c.defaultScope)
  | some name =>
    if Text.sameLetters name (builtInId c) then .done (.ok c.defaultScope)
    else (lookUpProviders appliance).map (scopeOf name)

/-- Makes the certificate ready for the connection. A connection without encryption
carries none, so nothing is asked of it there. -/
def attach (platform : Platform) (appliance : Address) (c : ClientCertificate) :
    Except AuthFault Unit :=
  if !appliance.isSecure then .ok ()
  else match c.password.text? with
    | none => .error (.certificate "certificate password is not valid UTF-8")
    | some password =>
      if platform.opens c.archive.octets password then .ok ()
      else .error (.certificate "the archive does not open")

/-- What a credential asks a token with, once its certificate is ready. -/
def grantOf (platform : Platform) (appliance : Address) (options : Options) (c : Credential)
    (scope : Scope) : Except Fault Grant :=
  match c.identity with
  | .password username secret =>
    match secret.text? with
    | some password => .ok (.password username password scope.text)
    | none => .error (.input (.credential "password is not valid UTF-8"))
  | _ =>
    match Certificate.presented options.store c with
    | .error f => .error (.auth f)
    | .ok none => .ok (.certificate scope.text)
    | .ok (some certificate) =>
      match attach platform appliance certificate with
      | .error f => .error (.auth f)
      | .ok _ => .ok (.certificate scope.text)

/-- Exchanges a credential for a token of a scope. -/
def exchange (platform : Platform) (appliance : Address) (options : Options) (c : Credential)
    (scope : Scope) : Exchange Token :=
  match grantOf platform appliance options c scope with
  | .error f => .done (.error (.fault f))
  | .ok grant => requestToken appliance options grant

/-- The token of a credential, in a given scope or in its own. -/
def authenticate (platform : Platform) (appliance : Address) (options : Options) (c : Credential)
    (scope : Option Scope) : Exchange Token :=
  match scope with
  | some s => exchange platform appliance options c s
  | none => (resolveScope appliance c).andThen fun
    | .error f => .done (.error f)
    | .ok s => exchange platform appliance options c s

/-- The token provider that asks the token service of an appliance. -/
def provider (platform : Platform) (appliance : Address) (options : Options) :
    TokenProvider Request Reply where
  resolve := resolveScope appliance
  authenticate := authenticate platform appliance options

end TokenService

end Appliance

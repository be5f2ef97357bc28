import Appliance.Address
import Appliance.CommandLine.Grammar
import Appliance.CommandLine.Report
import Appliance.Credential
import Appliance.Listener.Options
import Appliance.TokenService.Options

/-!
# Arguments

The arguments of this program: a command that gets a token, and one that listens
to events. Both connect to an appliance with a credential.

* `Invocation`         : what the program is asked to do
* `Invocation.read`    : reads the arguments
* `Connection.address`, `Connection.credential` : what to connect to, and with what
* `ListenCommand.options` : the times that a listener keeps
-/

namespace Appliance.CommandLine

/-- What to connect to, and with what. -/
structure Connection where
  appliance : String
  provider : Option String
  username : Option String
  thumbprint : Option String
  certFile : Option String
  certStore : Option String
  readPassword : Bool
  ignoreCertificates : Bool
deriving DecidableEq, Repr

/-- Gets a token. -/
structure TokenCommand where
  connection : Connection
  showToken : Bool
  refresh : Bool
  json : Bool
deriving DecidableEq, Repr

/-- Listens to events. -/
structure ListenCommand where
  connection : Connection
  /-- The names of the events; none for all. -/
  events : List String
  once : Bool
  /-- In seconds. -/
  retryDelay : Nat
  maxRetryDelay : Option Nat
  quiet : Bool
  json : Bool
deriving DecidableEq, Repr

/-- The command. -/
inductive Command where
  | token (c : TokenCommand)
  | listen (c : ListenCommand)
deriving DecidableEq, Repr

/-- What the program is asked to do. -/
structure Invocation where
  verbose : Nat
  jsonLogs : Bool
  command : Command
deriving DecidableEq, Repr

/-! ## Grammars -/

/-- A parameter that is given or not. -/
def flag (long : String) (short : Option Char) : Parameter := ⟨long, short, .flag, none, false⟩

/-- A parameter with a value, which the environment may supply. -/
def option (long : String) (short : Option Char) (kind : ValueKind) (source : Option String) :
    Parameter := ⟨long, short, .value kind, source, false⟩

/-- The parameters of every command. -/
def everywhere : List Parameter :=
  [⟨"verbose", some 'v', .count, none, false⟩, flag "json-logs" none,
    ⟨"help", some 'h', .help, none, false⟩]

/-- The parameters of a connection. -/
def connecting : List Parameter :=
  [{ option "appliance" (some 'a') .text (some "SAFEGUARD_APPLIANCE") with required := true },
    option "provider" none .text (some "SAFEGUARD_PROVIDER"),
    option "username" (some 'u') .text (some "SAFEGUARD_USERNAME"),
    option "thumbprint" (some 't') .text (some "SAFEGUARD_THUMBPRINT"),
    option "cert-file" none .path (some "SAFEGUARD_CERT_FILE"),
    option "cert-store" none .path (some "SAFEGUARD_CERT_STORE"),
    flag "read-password" (some 'p'), flag "ignore-ssl" none]

/-- A connection has one credential. -/
def oneCredential : List (String × String) :=
  [("username", "thumbprint"), ("username", "cert-file"), ("thumbprint", "cert-file")]

/-- The command that explains the others. -/
def helpCommand : String := "help"

/-- The program itself. -/
def programGrammar : Grammar where
  parameters := everywhere ++ [⟨"version", some 'V', .version, none, false⟩]
  commands := ["token", "listen", helpCommand]
  takesOthers := false
  conflicts := []

/-- The command that gets a token. -/
def tokenGrammar : Grammar where
  parameters :=
    connecting ++ [flag "show-token" none, flag "refresh" none, flag "json" none] ++ everywhere
  commands := []
  takesOthers := false
  conflicts := oneCredential

/-- The command that listens. -/
def listenGrammar : Grammar where
  parameters :=
    connecting ++
      [flag "once" none, option "retry-delay" none .number none,
        option "max-retry-delay" none .number none, flag "quiet" (some 'q'), flag "json" none] ++
      everywhere
  commands := []
  takesOthers := true
  conflicts := oneCredential

/-! ## Reading -/

/-- The connection that a command was given. -/
def Connection.ofReading (r : Reading) : Connection where
  appliance := (r.value? "appliance").getD ""
  provider := r.value? "provider"
  username := r.value? "username"
  thumbprint := r.value? "thumbprint"
  certFile := r.value? "cert-file"
  certStore := r.value? "cert-store"
  readPassword := r.has "read-password"
  ignoreCertificates := r.has "ignore-ssl"

/-- The seconds between attempts unless others are chosen. -/
def standardRetryDelay : Nat := 5

/-- The command that was given. -/
def Command.ofReading (name : String) (r : Reading) : Command :=
  let connection := Connection.ofReading r
  if name = "token" then
    .token { connection, showToken := r.has "show-token", refresh := r.has "refresh",
             json := r.has "json" }
  else
    .listen { connection, events := r.others, once := r.has "once",
              retryDelay := ((r.value? "retry-delay").bind number?).getD standardRetryDelay,
              maxRetryDelay := (r.value? "max-retry-delay").bind number?,
              quiet := r.has "quiet", json := r.has "json" }

/-- The most that verbosity counts. -/
def verbosityLimit : Nat := 255

/-- A parameter of every command counts where it was given last. -/
def given {α : Type} (r : Reading) (outer : Reading) (long : String) (f : Reading → α) : α :=
  if r.has long then f r else f outer

/-- Reads the arguments of a command. -/
def readCommand (environment : List (String × String)) (name : String) (arguments : List String) :
    Except UsageFault Reading :=
  let g := if name = "token" then tokenGrammar else listenGrammar
  (g.readAll Progress.start arguments).bind fun (p, _) => g.complete environment p none

/-- What the command that explains others says to its arguments. -/
def explain : List String → UsageFault
  | [] => .helpWanted
  | [name] => if programGrammar.commands.contains name then .helpWanted else .unknownCommand
  | _ => .unknownCommand

/-- Reads the arguments of the program. -/
def Invocation.read (environment : List (String × String)) (arguments : List String) :
    Except UsageFault Invocation :=
  (programGrammar.readAll Progress.start arguments).bind fun (p, command) =>
    match command with
    | none => (programGrammar.complete environment p none).bind fun _ => .error .commandMissing
    | some (name, rest) =>
      if name = helpCommand then .error (explain rest)
      else
        (readCommand environment name rest).bind fun inner =>
          (programGrammar.complete environment p command).map fun outer =>
            { verbose := given inner outer "verbose" fun r =>
                min (r.count "verbose") verbosityLimit
              jsonLogs := given inner outer "json-logs" fun r => r.has "json-logs"
              command := Command.ofReading name inner }

/-! ## What is connected to, and with what -/

namespace Connection

/-- The address of the appliance. -/
def address (c : Connection) : Except Report Address :=
  (Address.read c.appliance).mapError fun f => Report.ofFault "Invalid appliance address" (.input f)

/-- The options of the token service. The store is given by whoever has the files. -/
def serviceOptions (c : Connection) (store : Option Certificate.Store) : TokenService.Options :=
  { TokenService.Options.standard with ignoreCertificates := c.ignoreCertificates, store }

/-- What a password is wanted for. -/
inductive Wanted where
  | certificate (path : String)
  | user (name : String)
deriving DecidableEq, Repr

/-- What is asked when the password is typed. -/
def Wanted.label : Wanted → String
  | .certificate _ => "Certificate password"
  | .user name => "Password for " ++ name

/-- Names the provider, if one is given. -/
def withProvider (c : Connection) (credential : Credential) : Credential :=
  match c.provider with
  | some name => credential.withProvider name
  | none => credential

/-- The credential, or what a password is wanted for to make it. -/
def credential (c : Connection) : Except Report (Credential ⊕ Wanted) :=
  match c.thumbprint, c.certFile, c.username with
  | some t, _, _ =>
    match Credential.thumbprint t with
    | .ok credential => .ok (.inl (c.withProvider credential))
    | .error f => .error (Report.ofFault "Invalid thumbprint" (.input f))
  | none, some path, _ => .ok (.inr (.certificate path))
  | none, none, some name => .ok (.inr (.user name))
  | none, none, none =>
    .error (Report.plain "No credential given. Use --thumbprint, --cert-file or --username.")

end Connection

/-- The times that a listener keeps. -/
def ListenCommand.options (c : ListenCommand) : Listener.Options :=
  let initial := Duration.ofSeconds c.retryDelay
  { Listener.Options.standard with
    backoff := match c.maxRetryDelay with
      | some max => .exponential initial (Duration.ofSeconds max)
      | none => .fixed initial
    ignoreCertificates := c.connection.ignoreCertificates }

end Appliance.CommandLine

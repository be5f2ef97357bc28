import Appliance.Fault
import Appliance.Json.Tree
import Appliance.Text.Blank
import Appliance.Url.Web

/-!
# Appliance addresses

Where an appliance is. Secrets are sent to it, so the address is secure unless
the appliance is on this machine.

* `Address`          : an admissible web address
* `Address.read`     : reads an address, with or without scheme
* `Address.urlFor`   : the URL of a path on the appliance
* `Address.tokenUrl`, `Address.lookupUrl`, `Address.eventUrl` : the URLs of its services
-/

namespace Appliance

open Appliance.Url

/-- Whether a host is this machine. -/
def isLocalHost (host : String) : Bool := ["localhost", "127.0.0.1", "[::1]"].contains host

/-- Whether secrets may be sent to a web address. -/
def isAdmissible (w : Web) : Bool := w.secure || isLocalHost w.host.text

/-- The address of an appliance. -/
structure Address where
  web : Web
  admissible : isAdmissible web = true
deriving DecidableEq

namespace Address

/-- The written form. -/
def text (a : Address) : String := a.web.text

/-- The text of the host. -/
def host (a : Address) : String := a.web.host.text

/-- Whether the connection is secure. -/
def isSecure (a : Address) : Bool := a.web.secure

/-- Drops slashes from the end. -/
def dropLastSlashes (cs : List Char) : List Char := (cs.reverse.dropWhile (· == '/')).reverse

/-- The written form without slashes at the end. -/
def stem (a : Address) : List Char := dropLastSlashes a.web.chars

/-- The form that is shown. -/
def shown (a : Address) : String := String.ofList a.stem

/-- The URL of a path on the appliance. -/
def urlFor (a : Address) (path : String) : String :=
  String.ofList (a.stem ++ '/' :: path.toList.dropWhile (· == '/'))

/-- The path of the token service. -/
def tokenPath : String := "RSTS/oauth2/token"

/-- The path of the list of identity providers. -/
def lookupPath : String :=
  "RSTS/UserLogin/LoginController?response_type=token&redirect_uri=urn:InstalledApplication&loginRequestStep=1"

/-- The path of the event hub. -/
def eventPath : String := "service/event/signalr"

/-- The URL of the token service. -/
def tokenUrl (a : Address) : String := a.urlFor tokenPath

/-- The URL of the list of identity providers. -/
def lookupUrl (a : Address) : String := a.urlFor lookupPath

/-- The URL of a websocket in place of that of a web page. -/
def socketUrl (cs : List Char) : List Char :=
  match cs with
  | 'h' :: 't' :: 't' :: 'p' :: 's' :: ':' :: '/' :: '/' :: rest => "wss://".toList ++ rest
  | 'h' :: 't' :: 't' :: 'p' :: ':' :: '/' :: '/' :: rest => "ws://".toList ++ rest
  | _ => cs

/-- The URL of the event hub. -/
def eventUrl (a : Address) : String := String.ofList (socketUrl (a.urlFor eventPath).toList)

/-- Whether a text contains another. -/
def containsChars (part : List Char) : List Char → Bool
  | [] => part.isEmpty
  | c :: cs => part.isPrefixOf (c :: cs) || containsChars part cs

/-- The text with a scheme. -/
def withScheme (s : List Char) : List Char :=
  if containsChars "://".toList s then s else "https://".toList ++ s

/-- Reads an address without blanks at the ends. -/
def readTrimmed (s : List Char) : Except InputFault Address :=
  let refuse (reason : String) : Except InputFault Address :=
    .error (.address (String.ofList s) reason)
  if s.isEmpty then refuse "must not be empty"
  else match Url.read (withScheme s) with
    | .error f => refuse f.message
    | .ok .opaqueText => refuse "must be an absolute address"
    | .ok .foreign => refuse "must use HTTPS (HTTP allowed only for localhost)"
    | .ok (.web web) =>
      if admissible : isAdmissible web = true then .ok { web, admissible }
      else refuse "must use HTTPS (HTTP allowed only for localhost)"

/-- Reads an address. -/
def read (s : String) : Except InputFault Address := readTrimmed (Text.trimChars s.toList)

/-- The JSON text. -/
def json (a : Address) : String := String.ofList (Json.Value.stringText a.text)

/-- Reads an address from its JSON text. -/
def ofJson? (s : String) : Option Address :=
  ((Json.Tree.ofText? s).bind Json.Tree.text?).bind fun t => (read t).toOption

/-- The diagnostic text. -/
def debug (a : Address) : String := "ApplianceAddress(" ++ a.web.debug ++ ")"

/-- An address is secure or on this machine. -/
theorem secure_or_local (a : Address) : a.isSecure = true ∨ isLocalHost a.host = true := by
  simpa [isAdmissible, isSecure, host] using a.admissible

end Address

end Appliance

import Appliance.Json.Value
import Appliance.Text.Quoted
import Appliance.Url.Host

/-!
# Web addresses

The address of a server and a place on it: scheme, user information, host, port
and path. Reading brings all of them to one written form. Queries and fragments
are passed over. Texts of other schemes are read only as far as to tell whether
they are well formed.

* `Web`       : a web address
* `Web.text`  : its written form
* `read`      : reads a text with a scheme
-/

namespace Appliance.Url

open Appliance.Text

/-! ## Paths -/

/-- Whether a segment stays where it is. -/
def isDot (segment : List Char) : Bool :=
  [".", "%2e", "%2E"].contains (String.ofList segment)

/-- Whether a segment leads up. -/
def isDoubleDot (segment : List Char) : Bool :=
  ["..", ".%2e", ".%2E", "%2e.", "%2E.", "%2e%2e", "%2e%2E", "%2E%2e", "%2E%2E"].contains
    (String.ofList segment)

/-- Whether a segment names a drive, which cannot be left upwards. -/
def isDrive : List Char → Bool
  | [c, d] => c.isAlpha && (d == ':' || d == '|')
  | _ => false

/-- The segments after going up, the last one first. -/
def up : List (List Char) → List (List Char)
  | [] => []
  | s :: rest => if isDrive s then s :: rest else rest

/-- Follows segments from the top; those passed so far are given last one first. -/
def follow : List (List Char) → List (List Char) → List (List Char)
  | passed, [] => passed.reverse
  | passed, [s] =>
    if isDoubleDot s then ([] :: up passed).reverse
    else if isDot s then ([] :: passed).reverse
    else (s :: passed).reverse
  | passed, s :: rest =>
    if isDoubleDot s then follow (up passed) rest
    else if isDot s then follow passed rest
    else follow (s :: passed) rest

/-- Whether a character separates segments. -/
def isSlash (c : Char) : Bool := c == '/' || c == '\\'

/-- Cuts a path at its slashes. -/
def cutPath (cs : List Char) : List (List Char) :=
  cutAt '/' (cs.map fun c => if c = '\\' then '/' else c)

/-- The segments of what follows the authority, at least one. -/
def segments (rest : List Char) : List (List Char) :=
  let path := rest.takeWhile fun c => c != '?' && c != '#'
  let inner := match path with
    | c :: cs => if isSlash c then cs else c :: cs
    | [] => []
  follow [] ((cutPath inner).map (Percent.escape Percent.pathSet))

/-! ## Authorities -/

/-- The characters of an authority, and what follows it. -/
def splitAuthority (special : Bool) (cs : List Char) : List Char × List Char :=
  let ends (c : Char) : Bool := c == '/' || c == '?' || c == '#' || (special && c == '\\')
  (cs.takeWhile fun c => !ends c, cs.dropWhile fun c => !ends c)

/-- Splits at the last at-sign, if there is one. -/
def splitUser (cs : List Char) : Option (List Char × List Char) :=
  if cs.contains '@' then
    let host := (cs.reverse.takeWhile (· ≠ '@')).reverse
    some (cs.take (cs.length - host.length - 1), host)
  else none

/-- User information in its escaped form. -/
structure User where
  name : List Char
  password : Option (List Char)
deriving DecidableEq

namespace User

/-- No user information. -/
def none : User := ⟨[], Option.none⟩

/-- Reads user information: a name, and after the first colon a password. -/
def read (cs : List Char) : User :=
  let escaped := Percent.escape Percent.userSet
  let name := cs.takeWhile (· ≠ ':')
  let password := (cs.dropWhile (· ≠ ':')).drop 1
  ⟨escaped name, if password.isEmpty then Option.none else some (escaped password)⟩

/-- The written form, with the at-sign after it. -/
def chars (u : User) : List Char :=
  match u.password with
  | some p => u.name ++ ':' :: p ++ ['@']
  | Option.none => if u.name.isEmpty then [] else u.name ++ ['@']

end User

/-- Splits a host from its port at the first colon outside brackets. -/
def splitPort : (bracketed : Bool) → List Char → List Char × List Char
  | _, [] => ([], [])
  | bracketed, c :: cs =>
    if c = ':' ∧ bracketed = false then ([], c :: cs)
    else
      let inside := if c = '[' then true else if c = ']' then false else bracketed
      let (host, port) := splitPort inside cs
      (c :: host, port)

/-- The largest port. -/
def portLimit : Nat := 65535

/-- Reads what follows a host: nothing, or a colon and digits up to a backslash. -/
def readPort : List Char → Except Fault (Option Nat)
  | [] => .ok none
  | _ :: rest =>
    let ds := rest.takeWhile (· ≠ '\\')
    if ds.all Char.isDigit then
      if ds.isEmpty then .ok none
      else
        let n := ds.foldl (fun n c => min (10 * n + (c.toNat - 48)) (portLimit + 1)) 0
        if n ≤ portLimit then .ok (some n) else .error .invalidPort
    else .error .invalidPort

/-! ## Web addresses -/

/-- A web address. -/
structure Web where
  secure : Bool
  user : User
  host : Host
  /-- The port, unless it is that of the scheme. -/
  port : Option Nat
  /-- The segments of the path, at least one. -/
  path : List (List Char)
deriving DecidableEq

namespace Web

/-- The scheme. -/
def scheme (secure : Bool) : String := if secure then "https" else "http"

/-- The port of a scheme. -/
def standardPort (secure : Bool) : Nat := if secure then 443 else 80

/-- The written form of a path. -/
def pathChars (path : List (List Char)) : List Char := path.flatMap fun s => '/' :: s

/-- The written form of a port. -/
def portChars : Option Nat → List Char
  | none => []
  | some n => ':' :: (toString n).toList

/-- The characters of the written form. -/
def chars (w : Web) : List Char :=
  (scheme w.secure).toList ++ "://".toList ++ w.user.chars ++ w.host.chars ++ portChars w.port ++
    pathChars w.path

/-- The written form. -/
def text (w : Web) : String := String.ofList w.chars

/-- Reads user information, host and port. -/
def readAuthority {α : Type} (special : Bool) (readHost : List Char → Except Fault α)
    (cs : List Char) : Except Fault (User × Option α × Option Nat) :=
  let (authority, rest) := splitAuthority special cs
  let (user, server) := match splitUser authority with
    | none => (none, authority)
    | some (user, server) => (some user, server)
  let blankUser := user == some []
  if blankUser && server.isEmpty && !rest.isEmpty then .error .emptyHost
  else
    let (host, port) := splitPort false server
    let read := match user with
      | none => User.none
      | some cs => User.read cs
    if host.isEmpty then
      if special || !port.isEmpty || !read.chars.isEmpty then .error .emptyHost
      else .ok (read, none, none)
    else do
      let h ← readHost host
      let p ← readPort port
      return (read, some h, p)

/-- Reads what follows the scheme of a web address. -/
def read (secure : Bool) (cs : List Char) : Except Fault Web := do
  let afterSlashes := cs.dropWhile isSlash
  match ← readAuthority true Host.read afterSlashes with
  | (user, some host, port) =>
    return {
      secure, user, host
      port := if port = some (standardPort secure) then none else port
      path := segments (splitAuthority true afterSlashes).2 }
  | (_, none, _) => .error .emptyHost

/-- The diagnostic text. -/
def debug (w : Web) : String :=
  let shown (cs : List Char) : String := quoted (String.ofList cs)
  let host := match w.host.form with
    | .domain d => "Domain(" ++ shown d.chars ++ ")"
    | .ipv4 n => "Ipv4(" ++ String.ofList (Ipv4.chars n) ++ ")"
    | .ipv6 gs => "Ipv6(" ++ String.ofList (Ipv6.debugChars gs) ++ ")"
  "Url \x7b scheme: " ++ quoted (scheme w.secure) ++ ", cannot_be_a_base: false, username: " ++
    shown w.user.name ++ ", password: " ++
    (match w.user.password with
      | some p => "Some(" ++ shown p ++ ")"
      | none => "None") ++
    ", host: Some(" ++ host ++ "), port: " ++
    (match w.port with
      | some n => "Some(" ++ toString n ++ ")"
      | none => "None") ++
    ", path: " ++ shown (pathChars w.path) ++ ", query: None, fragment: None \x7d"

end Web

/-! ## Other schemes -/

/-- What a text with a scheme is. -/
inductive Reading where
  | web (w : Web)
  /-- A place of another scheme. -/
  | foreign
  /-- A text of another scheme that is no place. -/
  | opaqueText
deriving DecidableEq

/-- The schemes that are read like web addresses. -/
def isKindred (scheme : List Char) : Bool :=
  ["ftp", "ws", "wss"].contains (String.ofList scheme)

/-- Checks the host of a scheme without rules of its own. -/
def checkOpaqueHost (cs : List Char) : Except Fault Unit :=
  match cs with
  | '[' :: inner =>
    if inner.getLast? = some ']' ∧ (Ipv6.read? inner.dropLast).isSome then .ok ()
    else .error .invalidIpv6
  | _ => if cs.any "\x00\t\n\r #/:<>?@[\\]^|".toList.contains then .error .invalidCharacter else .ok ()

/-- Checks the host of a file. -/
def checkFileHost (cs : List Char) : Except Fault Unit :=
  match cs with
  | a :: b :: rest =>
    if isSlash a && isSlash b then
      let host := (splitAuthority true rest).1
      if host.isEmpty || isDrive host then .ok () else (Host.read host).map fun _ => ()
    else .ok ()
  | _ => .ok ()

/-- Reads what follows another scheme. -/
def readForeign (scheme cs : List Char) : Except Fault Reading :=
  if isKindred scheme then
    (Web.readAuthority true Host.read (cs.dropWhile isSlash)).map fun _ => .foreign
  else if String.ofList scheme = "file" then (checkFileHost cs).map fun _ => .foreign
  else match cs with
    | '/' :: '/' :: rest => (Web.readAuthority false checkOpaqueHost rest).map fun _ => .foreign
    | '/' :: _ => .ok .foreign
    | _ => .ok .opaqueText

/-! ## Texts -/

/-- Whether a character may stand in a scheme, after the first one. -/
def isSchemeChar (c : Char) : Bool :=
  c.isAlphanum || c == '+' || c == '-' || c == '.'

/-- Splits a text at the colon after its scheme, which is given in lower case. -/
def splitScheme (cs : List Char) : Option (List Char × List Char) :=
  let scheme := cs.takeWhile isSchemeChar
  match cs.dropWhile isSchemeChar with
  | ':' :: rest =>
    if scheme.head?.any Char.isAlpha then some (scheme.map Char.toLower, rest) else none
  | _ => none

/-- Whether a character is dropped at the ends of a text. -/
def isEdge (c : Char) : Bool := c.toNat ≤ 0x20

/-- Whether a character is dropped anywhere. -/
def isBreak (c : Char) : Bool := c == '\t' || c == '\n' || c == '\r'

/-- A text without the characters that do not count. -/
def strip (cs : List Char) : List Char :=
  (((cs.dropWhile isEdge).reverse.dropWhile isEdge).reverse).filter fun c => !isBreak c

/-- Reads a text with a scheme. -/
def read (cs : List Char) : Except Fault Reading :=
  match splitScheme (strip cs) with
  | none => .error .relative
  | some (scheme, rest) =>
    if String.ofList scheme = "https" then (Web.read true rest).map .web
    else if String.ofList scheme = "http" then (Web.read false rest).map .web
    else readForeign scheme rest

end Appliance.Url

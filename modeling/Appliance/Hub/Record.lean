import Appliance.Event
import Appliance.Text.Blank
import Appliance.Json.Record
import Appliance.Json.Value

/-!
# Hub records

The event hub speaks in records: JSON texts, each ended by a separator. One text
frame may carry several. A record is an invocation, which delivers events, a
ping, a close, or of a kind that this client does not act on.

* `split`               : the records of a frame
* `Message.ofRecord?`   : decodes a record
* `eventsOf`            : the events that one argument of an invocation delivers
* `checkHandshake`      : the server's answer to the handshake request
-/

namespace Appliance.Hub

open Appliance.Json

/-- Ends every record. -/
def separator : Char := '\x1e'

/-- Asks for the JSON protocol, once the websocket is open. -/
def handshakeRequest : String := "\x7b\"protocol\":\"json\",\"version\":1\x7d\x1e"

/-- Keeps the connection alive. -/
def pingRecord : String := "\x7b\"type\":6\x7d\x1e"

/-- Announces that the client closes. -/
def closeRecord : String := "\x7b\"type\":7\x7d\x1e"

/-- Cuts a list at every separator. -/
def cut : List Char → List (List Char)
  | [] => [[]]
  | c :: cs =>
    match cut cs with
    | [] => [[c]]
    | part :: parts => if c = separator then [] :: part :: parts else (c :: part) :: parts

/-- The records of a frame: what stands between separators, trimmed, unless nothing is left. -/
def split (frame : String) : List String :=
  ((cut frame.toList).map Text.trimChars |>.filter fun r => !r.isEmpty).map String.ofList

/-! ## Messages -/

/-- A decoded record. -/
inductive Message where
  /-- The server calls a method of the client, which delivers events. -/
  | invocation (target : String) (events : List Event)
  | ping
  /-- The server ends the connection. -/
  | close (error : Option String) (allowReconnect : Option Bool)
  /-- A kind of record that this client does not act on. -/
  | other (kind : Nat)
deriving DecidableEq, Repr

/-- A string passes as it is, any other value as its JSON text. -/
def bodyText : Value → String
  | .string s => s
  | v => v.text

/-- The event of one entry of a batch, if it has a name. -/
def batchEvent? (entry : Value) : Option Event :=
  ((entry.member? "Name").bind Value.string?).map fun name =>
    { name, body := ((entry.member? "Data").map bodyText).getD "" }

/-- The events of a payload: those of a batch, or the one that the payload itself is. -/
def payloadEvents (payload : Value) : List Event :=
  match (payload.member? "Events").bind Value.array? with
  | some batch => batch.filterMap batchEvent?
  | none =>
    match (payload.member? "Name").bind Value.string? with
    | some name => [{ name, body := payload.text }]
    | none => []

/-- The payload of an argument, which may be given as its JSON text. -/
def payload? : Value → Option Value
  | .string s => Value.ofText? s
  | v => some v

/-- The events that one argument delivers. -/
def eventsOf (argument : Value) : List Event :=
  match payload? argument with
  | some payload => payloadEvents payload
  | none => []

/-- The fields of a record. -/
def fields : List Record.Field :=
  [["type"], ["target"], ["arguments"], ["error"], ["allowReconnect"]]

/-- How deep the values of an argument may nest, inside the record and its list of arguments. -/
def argumentDepth : Nat := Value.depthLimit - 2

/-- A record as it is written, each field of its type. -/
structure Raw where
  kind : Nat
  target : Option String
  arguments : List Value
  error : Option String
  allowReconnect : Option Bool

/-- Reads the fields of a record. -/
def Raw.ofTree? (t : Tree) : Option Raw := do
  match ← Record.fields? fields t with
  | [kind, target, arguments, error, allowReconnect] =>
    return {
      kind := ← Record.required? (Tree.natBelow? 256) kind
      target := ← Record.optional? Tree.text? target
      arguments := ← Record.orElse? (Tree.list? (Value.ofTree argumentDepth)) [] arguments
      error := ← Record.optional? Tree.text? error
      allowReconnect := ← Record.optional? Tree.bool? allowReconnect }
  | _ => none

/-- What a record means. -/
def Raw.message (r : Raw) : Message :=
  if r.kind = 1 then .invocation (r.target.getD "") (r.arguments.flatMap eventsOf)
  else if r.kind = 6 then .ping
  else if r.kind = 7 then .close r.error r.allowReconnect
  else .other r.kind

/-- Decodes a record. -/
def Message.ofRecord? (record : String) : Option Message :=
  ((Tree.ofText? record).bind Raw.ofTree?).map Raw.message

/-! ## The handshake -/

/-- Why a handshake failed. -/
inductive Refusal where
  /-- The answer is no handshake answer. -/
  | unreadable
  /-- The server gave a reason. -/
  | refused (reason : String)
deriving DecidableEq, Repr

/-- The wording of a refusal. -/
def Refusal.message : Refusal → String
  | .unreadable => "invalid handshake response: not a handshake answer"
  | .refused reason => reason

/-- Reads the server's answer to the handshake request. -/
def checkHandshake (record : String) : Except Refusal Unit :=
  match (Tree.ofText? record).bind (Record.fields? [["error"]]) with
  | some [error] =>
    match Record.optional? Tree.text? error with
    | some none => .ok ()
    | some (some reason) => .error (.refused reason)
    | none => .error .unreadable
  | _ => .error .unreadable

end Appliance.Hub

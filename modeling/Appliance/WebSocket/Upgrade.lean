import Appliance.Digest
import Appliance.Http.Head
import Appliance.Http.Request
import Appliance.Text.Base64

/-!
# Websocket upgrades

A websocket begins as a request that asks the server to change the protocol. Only
an answer with status 101 agrees, and it must prove that the request's key was
read.

* `upgradeRequest` : the request
* `Answer`         : what became of it
* `answerOf`       : what the head of an answer means
* `judge`          : the answer of a server that has not read the key
-/

namespace Appliance.WebSocket

open Http (Head Request ascii readHead)

/-- The request for a websocket with a key, which presents a token. -/
def upgradeRequest (authority target key bearer : String) : Request where
  method := "GET"
  target; authority
  fields := [("Connection", "Upgrade"), ("Upgrade", "websocket"),
    ("Sec-WebSocket-Version", "13"), ("Sec-WebSocket-Key", key), ("Authorization", bearer)]
  body := []

/-- What is put after a key to prove that it was read. -/
def proofSuffix : String := "258EAFA5-E914-47DA-95CA-C5AB0DC85B11"

/-- The proof that a key was read. -/
def proofOf (key : String) : Octets :=
  ascii (String.ofList (Text.Base64.encode (Digest.sha1 (Octets.ofText (key ++ proofSuffix)))))

/-- What became of the request for a websocket. -/
inductive Answer where
  /-- The websocket is open. -/
  | upgraded
  /-- The websocket library reports another status. An answer that it cannot use, such as one
  over HTTP/1.0, counts as unusable whatever its status. -/
  | refused (status : Nat)
  /-- The answer is none, or proves nothing. -/
  | unusable
  /-- The connection could not be encrypted. -/
  | notEncrypted
  /-- The connection failed. -/
  | unreachable
deriving DecidableEq, Repr

/-- Whether a field has a value, up to case. -/
def fieldIs (h : Head) (name value : String) : Bool :=
  (h.field? name).any fun v => Http.lowerOctets v == ascii value

/-- Whether a head agrees to a websocket and proves it, given the proof if it can be known. -/
def agrees (proof : Option Octets) (h : Head) : Bool :=
  fieldIs h "upgrade" "websocket" && fieldIs h "connection" "upgrade" &&
    proof.any fun p => h.field? "sec-websocket-accept" == some p

/-- What the head of an answer means. -/
def answerOf (proof : Option Octets) (h : Head) : Answer :=
  if h.minorVersion = 0 ∨ h.status < 100 then .unusable
  else if h.status = 101 then (if agrees proof h then .upgraded else .unusable)
  else .refused h.status

/-- What octets answer that were written without knowledge of the request's key. -/
def judge (octets : Octets) : Answer :=
  match readHead octets with
  | .done head _ => answerOf none head
  | _ => .unusable

end Appliance.WebSocket

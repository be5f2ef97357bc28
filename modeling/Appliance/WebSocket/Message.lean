import Appliance.Text.Utf8
import Appliance.WebSocket.Frame

/-!
# Websocket messages

What a client receives on a websocket: texts and octets, each in one frame or in
several, and between those frames pings, pongs and the notice that the websocket
closes.

* `Message`        : what is received
* `Assembly.take`  : one more frame
* `Reader.feed`    : the messages that more octets complete
-/

namespace Appliance.WebSocket

/-- Why a websocket is closed. -/
structure CloseNotice where
  code : Nat
  reason : String
deriving DecidableEq, Repr

/-- What is received. -/
inductive Message where
  | text (s : String)
  | binary (octets : Octets)
  | ping (payload : Octets)
  | pong (payload : Octets)
  | close (notice : Option CloseNotice)
deriving DecidableEq, Repr

/-- Why a websocket fails. -/
inductive Flaw where
  | frame (f : Frame.Flaw)
  | reservedBits
  | masked
  | splitControl
  | longControl
  | strayContinuation
  | unfinishedMessage
  | notText
  | badClose
  /-- The connection ended without a close. -/
  | cutOff
deriving DecidableEq, Repr

/-- The wording. -/
def Flaw.message : Flaw → String
  | .frame (.unknownKind kind) => "frame of unknown kind " ++ toString kind
  | .frame (.tooLong size) => "frame of " ++ toString size ++ " octets is too long"
  | .reservedBits => "frame with reserved bits"
  | .masked => "masked frame from a server"
  | .splitControl => "control frame in pieces"
  | .longControl => "control frame is too long"
  | .strayContinuation => "continuation of nothing"
  | .unfinishedMessage => "message inside another"
  | .notText => "text is not UTF-8"
  | .badClose => "close without a code"
  | .cutOff => "connection ended without a close"

/-- Whether a code may be sent. -/
def CloseNotice.isAllowed (code : Nat) : Bool :=
  (1000 ≤ code && code ≤ 1003) || (1007 ≤ code && code ≤ 1013) || (3000 ≤ code && code ≤ 4999)

/-- A notice as it is passed on: one whose code may not be sent counts as a violation. -/
def CloseNotice.accepted (n : CloseNotice) : CloseNotice :=
  if isAllowed n.code then n else ⟨1002, "Protocol violation"⟩

/-- Reads the payload of a close. -/
def closeOf : Octets → Except Flaw Message
  | [] => .ok (.close none)
  | [_] => .error .badClose
  | a :: b :: rest =>
    match Octets.text? rest with
    | some reason => .ok (.close (some (CloseNotice.accepted ⟨256 * a.toNat + b.toNat, reason⟩)))
    | none => .error .notText

/-- The payload of a close. -/
def closePayload : Option CloseNotice → Octets
  | none => []
  | some n => Frame.octetsOf 2 n.code ++ Octets.ofText n.reason

/-! ## Assembling -/

/-- A message of which frames are missing. -/
structure Assembly where
  isText : Bool
  octets : Octets

/-- Whether octets cannot be continued to a text. -/
def isBroken (octets : Octets) : Bool :=
  match Text.Utf8.firstFault? octets with
  | some f => f.width.isSome
  | none => false

/-- The longest message that is accepted. -/
def messageLimit : Nat := 64 * 1048576

/-- A whole message. -/
def whole (isText : Bool) (octets : Octets) : Except Flaw Message :=
  if isText then
    match octets.text? with
    | some s => .ok (.text s)
    | none => .error .notText
  else .ok (.binary octets)

/-- Adds a frame to a message, which the frame may complete. -/
def Assembly.extend (a : Assembly) (f : Frame) : Except Flaw (Option Assembly × Option Message) :=
  let octets := a.octets ++ f.payload
  if messageLimit < octets.length then .error (.frame (.tooLong octets.length))
  else if a.isText && isBroken octets then .error .notText
  else if f.final then (whole a.isText octets).map fun m => (none, some m)
  else .ok (some { a with octets }, none)

/-- Takes a control frame. -/
def control (f : Frame) : Except Flaw Message :=
  if !f.final then .error .splitControl
  else if 125 < f.payload.length then .error .longControl
  else if f.kind = Frame.close then closeOf f.payload
  else if f.kind = Frame.ping then .ok (.ping f.payload)
  else .ok (.pong f.payload)

/-- Takes one more frame; returns the message that is still incomplete, and the one
that is complete now. -/
def Assembly.take (a : Option Assembly) (f : Frame) :
    Except Flaw (Option Assembly × Option Message) :=
  if f.reserved then .error .reservedBits
  else if f.masked then .error .masked
  else if 8 ≤ f.kind then (control f).map fun m => (a, some m)
  else if f.kind = Frame.continuation then
    match a with
    | none => .error .strayContinuation
    | some a => a.extend f
  else
    match a with
    | some _ => .error .unfinishedMessage
    | none =>
      let isText := f.kind = Frame.text
      if f.final then (whole isText f.payload).map fun m => (none, some m)
      else Assembly.extend ⟨isText, []⟩ f

/-! ## Reading -/

/-- The receiving end of a websocket. -/
structure Reader where
  /-- Octets of a frame that is not complete. -/
  buffer : Octets
  assembly : Option Assembly

/-- A reader that has received nothing. -/
def Reader.fresh : Reader := ⟨[], none⟩

/-- What is received, in order; after a flaw nothing is. -/
abbrev Received := List (Except Flaw Message)

/-- The messages of octets, at most `fuel` frames. -/
def Reader.drain : (fuel : Nat) → Option Assembly → Octets → Reader × Received
  | 0, a, octets => (⟨octets, a⟩, [])
  | fuel + 1, a, octets =>
    match Frame.read octets with
    | .more => (⟨octets, a⟩, [])
    | .flawed f => (⟨octets, a⟩, [.error (.frame f)])
    | .frame f rest =>
      match Assembly.take a f with
      | .error flaw => (⟨rest, a⟩, [.error flaw])
      | .ok (a, m) =>
        let (reader, received) := drain fuel a rest
        (reader, (m.map .ok).toList ++ received)

/-- The messages that more octets complete. Every frame takes octets, so there are no
more frames than octets. -/
def Reader.feed (r : Reader) (octets : Octets) : Reader × Received :=
  let all := r.buffer ++ octets
  drain (all.length + 1) r.assembly all

end Appliance.WebSocket

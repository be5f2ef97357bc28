import Appliance.Hub.Opening

/-!
# What a channel is sent

A hub may pack the same records into frames in many ways. The first record of all answers
the handshake. Those that come in the same frame are put together again, each with its
separator, and handled when the channel begins; the others are handled as their frames
arrive.

* `join`               : records in one frame
* `leftover?`          : the frame of the records that came with the hub's answer
* `Channel.run`        : many inputs
* `Transcript`         : all that a channel gets until its websocket is closed
* `Transcript.records` : the records that it is to handle
* `Transcript.outcome` : what it does with them
-/

namespace Appliance.Hub

/-- Records in one frame, each with its separator. -/
def join (records : List String) : String :=
  String.ofList (records.flatMap fun r => r.toList ++ [separator])

/-- The frame of the records that came with the hub's answer, if there are any. -/
def leftover? (pending : List String) : Option String :=
  let frame := join pending
  if frame = "" then none else some frame

/-- The records of a frame, if there is one. -/
def reread (frame : Option String) : List String := (frame.map split).getD []

namespace Channel

/-- The records in an input. Only texts carry some. -/
def Input.records : Input → List String
  | .received (.text s) => split s
  | _ => []

/-- Many inputs. -/
def run (options : Listener.Options) : Channel → List (Instant × Input) → Move
  | c, [] => (c, [])
  | c, x :: rest =>
    let (c, effects) := c.step options x.1 x.2
    let (c, later) := run options c rest
    (c, effects ++ later)

end Channel

/-- The records in inputs. -/
def recordsIn (inputs : List (Instant × Channel.Input)) : List String :=
  inputs.flatMap fun x => x.2.records

/-- All that a channel gets until its websocket is closed. -/
structure Transcript where
  /-- The text with which the hub answers the handshake. -/
  answer : String
  /-- When the channel begins. -/
  began : Instant
  /-- What it takes then. -/
  inputs : List (Instant × Channel.Input)
  /-- When the websocket is closed, should the channel end. -/
  closed : Instant

namespace Transcript

/-- The records that come with the hub's answer. -/
def pending (t : Transcript) : List String := (split t.answer).tail

/-- The records that the channel is to handle. -/
def records (t : Transcript) : List String := t.pending ++ recordsIn t.inputs

/-- What the channel does. -/
def outcome (options : Listener.Options) (t : Transcript) : Channel.Move :=
  let (c, effects) := Channel.begin options t.began (reread (leftover? t.pending))
  let (c, later) := c.run options (t.inputs ++ [(t.closed, .socketClosed)])
  (c, effects ++ later)

end Transcript

end Appliance.Hub

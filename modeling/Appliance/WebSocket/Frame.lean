import Appliance.Secret

/-!
# Websocket frames

Everything on a websocket travels in frames: two octets with flags and a short
length, for longer payloads two or eight octets with the length, for masked
frames four octets with the mask, and then the payload.

* `Frame`          : one frame
* `Frame.read`     : the first frame of some octets
* `Frame.write`    : the octets of a frame as servers send it
-/

namespace Appliance.WebSocket

/-- The first octets of a frame, and how long the rest is. -/
structure FrameHead where
  /-- Whether the message ends with this frame. -/
  final : Bool
  /-- Whether a bit is set that has no meaning. -/
  reserved : Bool
  kind : Nat
  masked : Bool
  size : Nat
deriving DecidableEq, Repr

/-- A frame. -/
structure Frame where
  final : Bool
  reserved : Bool
  kind : Nat
  masked : Bool
  payload : Octets
deriving DecidableEq, Repr

namespace Frame

/-! ## Kinds -/

/-- Continues the message of an earlier frame. -/
def continuation : Nat := 0

/-- Begins a message that is text. -/
def text : Nat := 1

/-- Begins a message of octets. -/
def binary : Nat := 2

/-- Closes the websocket. -/
def close : Nat := 8

/-- Asks for a pong. -/
def ping : Nat := 9

/-- Answers a ping. -/
def pong : Nat := 10

/-- Whether a kind has a meaning. -/
def isKnown (kind : Nat) : Bool := kind ≤ 2 || (8 ≤ kind && kind ≤ 10)

/-- The longest payload that is accepted. -/
def sizeLimit : Nat := 16 * 1048576

/-! ## Reading -/

/-- The number that some octets are, the most significant first. -/
def bigEndian (octets : Octets) : Nat := octets.foldl (fun n b => 256 * n + b.toNat) 0

/-- The first octets of a list and the rest, if there are so many. -/
def take? (n : Nat) (octets : Octets) : Option (Octets × Octets) :=
  if n ≤ octets.length then some (octets.take n, octets.drop n) else none

/-- The length of the payload, given the short length, and the rest. -/
def size? (short : Nat) (rest : Octets) : Option (Nat × Octets) :=
  let long (n : Nat) : Option (Nat × Octets) :=
    (take? n rest).map fun (octets, rest) => (bigEndian octets, rest)
  if short = 126 then long 2 else if short = 127 then long 8 else some (short, rest)

/-- The head of the first frame and what follows it, if the head is complete. -/
def head? : Octets → Option (FrameHead × Octets)
  | flags :: length :: rest =>
    let masked := 128 ≤ length.toNat
    match size? (length.toNat % 128) rest with
    | none => none
    | some (size, rest) =>
      (take? (if masked then 4 else 0) rest).map fun (_, rest) =>
        ({ final := 128 ≤ flags.toNat
           reserved := flags.toNat / 16 % 8 != 0
           kind := flags.toNat % 16
           masked, size }, rest)
  | _ => none

/-- Why octets are no frame. -/
inductive Flaw where
  | unknownKind (kind : Nat)
  | tooLong (size : Nat)
deriving DecidableEq, Repr

/-- What some octets begin with. -/
inductive Reading where
  /-- A frame of which more is to come. -/
  | more
  | flawed (f : Flaw)
  | frame (f : Frame) (rest : Octets)

/-- Reads the first frame. A head is judged before its payload is there. -/
def read (octets : Octets) : Reading :=
  match head? octets with
  | none => .more
  | some (h, rest) =>
    if !isKnown h.kind then .flawed (.unknownKind h.kind)
    else if sizeLimit < h.size then .flawed (.tooLong h.size)
    else match take? h.size rest with
      | none => .more
      | some (payload, rest) => .frame ⟨h.final, h.reserved, h.kind, h.masked, payload⟩ rest

/-! ## Writing -/

/-- A number as `n` octets, the most significant first. -/
def octetsOf : (n : Nat) → Nat → Octets
  | 0, _ => []
  | n + 1, k => UInt8.ofNat (k / Nat.pow 256 n % 256) :: octetsOf n k

/-- The length of a payload. -/
def writeSize (size : Nat) : Octets :=
  if size < 126 then [UInt8.ofNat size]
  else if size < 65536 then 126 :: octetsOf 2 size
  else 127 :: octetsOf 8 size

/-- The octets of a whole, unmasked message. -/
def write (kind : Nat) (payload : Octets) : Octets :=
  UInt8.ofNat (128 + kind) :: writeSize payload.length ++ payload

/-- Masks octets, or takes a mask off. -/
def maskWith (mask : Octets) (octets : Octets) : Octets :=
  octets.zipIdx.map fun (b, i) => b ^^^ mask[i % 4]?.getD 0

/-- The octets of a whole message under a mask of four octets, as clients send it. -/
def writeMasked (mask : Octets) (kind : Nat) (payload : Octets) : Octets :=
  let size := match writeSize payload.length with
    | b :: rest => (b + 128) :: rest
    | [] => []
  UInt8.ofNat (128 + kind) :: size ++ mask ++ maskWith mask payload

end Frame

end Appliance.WebSocket

import Appliance.Secret

/-!
# Digests

The digest of 160 bits that proves to a websocket client that its request was
read. The message is padded to whole blocks of 64 octets, the last of which ends
with the number of its bits; every block stirs five words through eighty rounds.

* `Digest.padded` : the message as whole blocks
* `Digest.sha1`   : the digest
-/

namespace Appliance.Digest

/-- A number as `n` octets, the most significant first. -/
def octetsOf : (n : Nat) → Nat → Octets
  | 0, _ => []
  | n + 1, k => UInt8.ofNat (k / Nat.pow 256 n % 256) :: octetsOf n k

/-- The message as whole blocks of 64 octets. -/
def padded (message : Octets) : Octets :=
  let n := message.length
  message ++ 0x80 :: (List.replicate ((119 - n % 64) % 64) 0 ++ octetsOf 8 (8 * n))

/-- Octets as words of four. -/
def words : Octets → List UInt32
  | a :: b :: c :: d :: rest =>
    (a.toUInt32 <<< 24 ||| b.toUInt32 <<< 16 ||| c.toUInt32 <<< 8 ||| d.toUInt32) :: words rest
  | _ => []

/-- Turns a word to the left. -/
def rotate (n : UInt32) (w : UInt32) : UInt32 := w <<< n ||| w >>> (32 - n)

/-- Adds `n` words to a schedule, whose last word comes first. -/
def extend : (n : Nat) → List UInt32 → List UInt32
  | 0, ws => ws
  | n + 1, ws =>
    let word (i : Nat) : UInt32 := ws[i]?.getD 0
    extend n (rotate 1 (word 2 ^^^ word 7 ^^^ word 13 ^^^ word 15) :: ws)

/-- The eighty words of a block. -/
def schedule (block : List UInt32) : List UInt32 := (extend 64 block.reverse).reverse

/-- Five words. -/
structure State where
  a : UInt32
  b : UInt32
  c : UInt32
  d : UInt32
  e : UInt32

/-- The words before the first block. -/
def State.initial : State := ⟨0x67452301, 0xefcdab89, 0x98badcfe, 0x10325476, 0xc3d2e1f0⟩

/-- How three words are mixed in a round, and the constant of the round. -/
def mix (round : Nat) (b c d : UInt32) : UInt32 × UInt32 :=
  if round < 20 then ((b &&& c) ||| (~~~b &&& d), 0x5a827999)
  else if round < 40 then (b ^^^ c ^^^ d, 0x6ed9eba1)
  else if round < 60 then ((b &&& c) ||| (b &&& d) ||| (c &&& d), 0x8f1bbcdc)
  else (b ^^^ c ^^^ d, 0xca62c1d6)

/-- One round. -/
def State.stir (s : State) (word : UInt32) (round : Nat) : State :=
  let (mixed, constant) := mix round s.b s.c s.d
  ⟨rotate 5 s.a + mixed + s.e + constant + word, s.a, rotate 30 s.b, s.c, s.d⟩

/-- One block. -/
def State.absorb (s : State) (block : List UInt32) : State :=
  let t := (schedule block).zipIdx.foldl (fun t (word, round) => t.stir word round) s
  ⟨s.a + t.a, s.b + t.b, s.c + t.c, s.d + t.d, s.e + t.e⟩

/-- The blocks of a message one after another, at most `n`. -/
def absorbAll : (n : Nat) → List UInt32 → State → State
  | 0, _, s => s
  | n + 1, ws, s => if ws.isEmpty then s else absorbAll n (ws.drop 16) (s.absorb (ws.take 16))

/-- The digest of a message. -/
def sha1 (message : Octets) : Octets :=
  let ws := words (padded message)
  let s := absorbAll ws.length ws .initial
  [s.a, s.b, s.c, s.d, s.e].flatMap fun w => octetsOf 4 w.toNat

/-- The number of octets is the one asked for. -/
theorem length_octetsOf (n k : Nat) : (octetsOf n k).length = n := by
  induction n with
  | zero => rfl
  | succ n ih => simp [octetsOf, ih]

/-- A padded message consists of whole blocks. -/
theorem length_padded_mod (message : Octets) : (padded message).length % 64 = 0 := by
  simp only [padded, List.length_append, List.length_cons, List.length_replicate,
    length_octetsOf]
  omega

end Appliance.Digest

import Appliance.Secret

/-!
# Entering a secret

A secret is entered one character at a time into a buffer of limited room. A
buffer that runs out of room moves its content by itself and leaves a copy
behind that nobody wipes, so the builder never lets that happen: when a
character does not fit, it copies the content into a new buffer of at least
twice the room and wipes the old one. When a character is taken back, the
content goes to a new buffer too, so that no octet of it stays in spare room.

* `Allocator`      : how much room a new buffer gets for the room asked for
* `Buffer`         : characters and the room that they lie in
* `Builder`        : the present buffer, and what became of the buffers before it
* `Builder.push`, `Builder.pop` : enter a character, take the last one back
* `Builder.finish` : the secret that was entered
-/

namespace Appliance.Secret

/-- How much room is granted: never less than is asked for. -/
structure Allocator where
  room : Nat → Nat
  le_room : ∀ n, n ≤ room n

/-- Grants what is asked for. -/
def Allocator.exact : Allocator := ⟨id, fun n => Nat.le_refl n⟩

/-- What became of a buffer that was given up. -/
inductive Disposal where
  | wiped
  /-- Its content was moved by the buffer itself and still lies where it was. -/
  | leftBehind
deriving DecidableEq, Repr

/-- Characters and the octets of room that their buffer has. -/
structure Buffer where
  chars : List Char
  capacity : Nat

namespace Buffer

/-- The octets that characters occupy. -/
def width : List Char → Nat
  | [] => 0
  | c :: cs => c.utf8Size + width cs

theorem width_append (cs ds : List Char) : width (cs ++ ds) = width cs + width ds := by
  induction cs with
  | nil => simp [width]
  | cons c cs ih => simp [width, ih, Nat.add_assoc]

/-- Adds characters. A buffer without room for them moves by itself. -/
def append (a : Allocator) (b : Buffer) (cs : List Char) : Buffer × List Disposal :=
  let needed := width b.chars + width cs
  if needed ≤ b.capacity then (⟨b.chars ++ cs, b.capacity⟩, [])
  else (⟨b.chars ++ cs, a.room (max (2 * b.capacity) needed)⟩, [.leftBehind])

theorem chars_append (a : Allocator) (b : Buffer) (cs : List Char) :
    (b.append a cs).1.chars = b.chars ++ cs := by
  simp only [append]
  split <;> rfl

end Buffer

/-- A secret while it is entered. -/
structure Builder where
  buffer : Buffer
  discarded : List Disposal

namespace Builder

/-- The room that a first buffer asks for. -/
def initialCapacity : Nat := 64

/-- Nothing is entered yet. -/
def empty (a : Allocator) : Builder := ⟨⟨[], a.room initialCapacity⟩, []⟩

/-- The characters entered so far. -/
def chars (b : Builder) : List Char := b.buffer.chars

/-- The room that the buffer after a full one asks for. -/
def grown (capacity : Nat) : Nat := max (2 * capacity) initialCapacity

/-- Copies characters into a new buffer and wipes the present one. -/
def replace (a : Allocator) (b : Builder) (cs : List Char) (room : Nat) : Builder :=
  let (fresh, disposals) := (⟨[], a.room room⟩ : Buffer).append a cs
  ⟨fresh, b.discarded ++ disposals ++ [.wiped]⟩

/-- Makes room for a character, if there is none. -/
def reserve (a : Allocator) (b : Builder) (c : Char) : Builder :=
  if b.buffer.capacity < Buffer.width b.chars + c.utf8Size then
    b.replace a b.chars (grown b.buffer.capacity)
  else b

/-- Enters a character. -/
def push (a : Allocator) (b : Builder) (c : Char) : Builder :=
  let ready := b.reserve a c
  let (buffer, disposals) := ready.buffer.append a [c]
  ⟨buffer, ready.discarded ++ disposals⟩

/-- Takes the last character back. -/
def pop (a : Allocator) (b : Builder) : Builder :=
  if b.chars.isEmpty then b else b.replace a b.chars.dropLast b.buffer.capacity

/-- The number of characters. -/
def size (b : Builder) : Nat := b.chars.length

/-- Whether nothing is entered. -/
def isEmpty (b : Builder) : Bool := b.chars.isEmpty

/-- The secret that was entered. -/
def finish (b : Builder) : Secret := Secret.ofText (String.ofList b.chars)

/-- The diagnostic text, which tells the number of characters. -/
def debug (b : Builder) : String :=
  "SecretBuilder \x7b len: " ++ toString b.size ++ ", buf: \"" ++ mask ++ "\" \x7d"

theorem chars_replace (a : Allocator) (b : Builder) (cs : List Char) (room : Nat) :
    (b.replace a cs room).chars = cs := by
  simp [replace, chars, Buffer.chars_append]

theorem chars_reserve (a : Allocator) (b : Builder) (c : Char) :
    (b.reserve a c).chars = b.chars := by
  simp only [reserve]
  split
  · exact chars_replace ..
  · rfl

theorem chars_push (a : Allocator) (b : Builder) (c : Char) :
    (b.push a c).chars = b.chars ++ [c] := by
  simp only [push, chars, Buffer.chars_append]
  exact congrArg (· ++ [c]) (chars_reserve a b c)

theorem chars_pop (a : Allocator) (b : Builder) : (b.pop a).chars = b.chars.dropLast := by
  simp only [pop]
  split
  · next h => simp_all
  · exact chars_replace ..

end Builder

end Appliance.Secret

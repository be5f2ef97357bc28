import Appliance.Secret.Builder
import Appliance.Text.Utf8

/-!
# Passwords

A password is piped in or typed. Piped in, it is the first line. Typed, it is what
the keys spell, each of which appends a character, erases one, ends the entry or
does nothing.

* `Prompt.ofPipe`   : the password that is piped in
* `Prompt.press`    : what a key does to a password that is typed
* `Prompt.Entry`    : typing a password, and what the terminal shows of it
-/

namespace Appliance.Prompt

/-- Why there is no password. -/
inductive Fault where
  | notText (f : Text.Utf8.Fault)
  | nothing
deriving DecidableEq, Repr

/-- The wording. -/
def Fault.message : Fault → String
  | .notText _ => "Password is not valid UTF-8"
  | .nothing => "No password given on stdin"

/-- The wording of the cause, if there is one. -/
def Fault.cause? : Fault → Option String
  | .notText f => some f.message
  | .nothing => none

/-! ## Piped in -/

/-- Line feed. -/
def lineFeed : UInt8 := 10

/-- The first line, with the line feed that ends it. -/
def firstLine : Octets → Octets
  | [] => []
  | b :: rest => if b = lineFeed then [b] else b :: firstLine rest

/-- Whether a character ends a line. -/
def isLineEnd (c : Char) : Bool := c = '\r' || c = '\n'

/-- A line without its end. -/
def withoutEnd (line : List Char) : List Char := (line.reverse.dropWhile isLineEnd).reverse

/-- The secret that characters spell. -/
def spell (cs : List Char) : Secret :=
  (cs.foldl (Secret.Builder.push .exact) (Secret.Builder.empty .exact)).finish

/-- The password that is piped in: the first line without its end. -/
def ofPipe (input : Octets) : Except Fault Secret :=
  let line := firstLine input
  match line.text?, Text.Utf8.firstFault? line with
  | some text, _ =>
    match withoutEnd text.toList with
    | [] => .error .nothing
    | cs => .ok (spell cs)
  | none, some f => .error (.notText f)
  | none, none => .error .nothing

/-! ## Typed -/

/-- A key. -/
inductive KeyCode where
  | enter
  | escape
  | backspace
  | char (c : Char)
  | other
deriving DecidableEq, Repr

/-- A key that is pressed, held or released. -/
structure Key where
  code : KeyCode
  control : Bool
  released : Bool
deriving DecidableEq, Repr

/-- What a key has done. -/
inductive KeyOutcome where
  | appended
  | erased
  | ignored
  | submit
  | abort
deriving DecidableEq, Repr

/-- What a key does to a password that is typed. -/
def press (b : Secret.Builder) (k : Key) : Secret.Builder × KeyOutcome :=
  if k.released then (b, .ignored)
  else match k.code with
    | .enter => (b, .submit)
    | .escape => (b, .abort)
    | .backspace => if b.isEmpty then (b, .ignored) else (b.pop .exact, .erased)
    | .char c =>
      if !k.control then (b.push .exact c, .appended)
      else if c = 'c' then (b, .abort)
      else (b, .ignored)
    | .other => (b, .ignored)

/-- How far the entry of a password is. -/
inductive Entry where
  | going (b : Secret.Builder)
  | finished (password : Secret)
  | cancelled

namespace Entry

/-- Nothing is typed yet. -/
def fresh : Entry := .going (.empty .exact)

/-- What the terminal shows of what a key has done. A star stands for a character. -/
def echo : KeyOutcome → String
  | .appended => "*"
  | .erased => "\x08 \x08"
  | .ignored => ""
  | .submit => "\n"
  | .abort => "\r\n"

/-- One key, with what the terminal shows of it. After the end no key is read. -/
def step (e : Entry) (k : Key) : Entry × String :=
  match e with
  | .going b =>
    let (next, outcome) := press b k
    (match outcome with
      | .submit => .finished next.finish
      | .abort => .cancelled
      | _ => .going next,
    echo outcome)
  | _ => (e, "")

/-- Many keys, with what the terminal shows of them. -/
def run (e : Entry) : List Key → Entry × String
  | [] => (e, "")
  | k :: rest =>
    let (e, shown) := e.step k
    let (e, more) := e.run rest
    (e, shown ++ more)

end Entry

end Appliance.Prompt

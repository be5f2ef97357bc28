import Appliance.Text.Ranges

/-!
# JSON tokens

A text is read into tokens by an automaton that looks at one character at a
time. Numbers keep their digits and strings their escapes, so that nothing is
decided about a value that is only skipped.

* `Piece`, `Numeral`, `Token` : the parts of a text
* `Lexer.step`                : the automaton
* `tokens?`                   : all tokens of a text, if it is made of tokens
-/

namespace Appliance.Json

/-- A piece of a string literal: a character, or a code unit written as `\u` and
four hexadecimal digits. -/
inductive Piece where
  | char (c : Char)
  | unit (n : Nat)
deriving DecidableEq, Repr

/-- A number as written. The fraction is absent or has a digit; so has the exponent. -/
structure Numeral where
  negative : Bool
  whole : List Char
  fraction : List Char
  exponent : Option (Bool × List Char)
deriving DecidableEq, Repr

/-- Whether a numeral is a plain integer. -/
def Numeral.isInteger (n : Numeral) : Bool := n.fraction.isEmpty && n.exponent.isNone

/-- The three words of the language. -/
inductive Word where
  | null
  | yes
  | no
deriving DecidableEq, Repr

/-- A token. -/
inductive Token where
  | openBrace
  | closeBrace
  | openBracket
  | closeBracket
  | comma
  | colon
  | word (w : Word)
  | number (n : Numeral)
  | text (pieces : List Piece)
deriving DecidableEq, Repr

/-- Blanks between tokens. -/
def isGap (c : Char) : Bool := c == ' ' || c == '\t' || c == '\n' || c == '\r'

namespace Lexer

/-- Where a numeral stands: which part is being read, and whether that part may end. -/
inductive Part where
  | sign
  | zero
  | whole
  | point
  | fraction
  | mark
  | markSign
  | exponent
deriving DecidableEq, Repr

/-- A numeral in the making, digits in reverse. -/
structure Draft where
  part : Part
  negative : Bool
  whole : List Char
  fraction : List Char
  minus : Bool
  exponent : List Char
deriving Repr

/-- Whether a numeral may end here. -/
def Draft.complete (d : Draft) : Bool :=
  match d.part with
  | .zero | .whole | .fraction | .exponent => true
  | _ => false

/-- The numeral of a draft that may end. -/
def Draft.numeral (d : Draft) : Numeral :=
  { negative := d.negative
    whole := d.whole.reverse
    fraction := d.fraction.reverse
    exponent := match d.part with
      | .exponent => some (d.minus, d.exponent.reverse)
      | _ => none }

/-- The draft after one more character; `none` if it does not belong to the numeral. -/
def Draft.extend? (d : Draft) (c : Char) : Option Draft :=
  match d.part with
  | .sign =>
    if c = '0' then some { d with part := .zero, whole := ['0'] }
    else if c.isDigit then some { d with part := .whole, whole := [c] }
    else none
  | .zero =>
    if c = '.' then some { d with part := .point }
    else if c = 'e' ∨ c = 'E' then some { d with part := .mark }
    else none
  | .whole =>
    if c.isDigit then some { d with whole := c :: d.whole }
    else if c = '.' then some { d with part := .point }
    else if c = 'e' ∨ c = 'E' then some { d with part := .mark }
    else none
  | .point =>
    if c.isDigit then some { d with part := .fraction, fraction := [c] } else none
  | .fraction =>
    if c.isDigit then some { d with fraction := c :: d.fraction }
    else if c = 'e' ∨ c = 'E' then some { d with part := .mark }
    else none
  | .mark =>
    if c = '+' then some { d with part := .markSign }
    else if c = '-' then some { d with part := .markSign, minus := true }
    else if c.isDigit then some { d with part := .exponent, exponent := [c] }
    else none
  | .markSign =>
    if c.isDigit then some { d with part := .exponent, exponent := [c] } else none
  | .exponent =>
    if c.isDigit then some { d with exponent := c :: d.exponent } else none

/-- What the automaton is in the middle of. -/
inductive Mode where
  | idle
  | word (w : Word) (rest : List Char)
  | number (d : Draft)
  | text (rev : List Piece)
  | escape (rev : List Piece)
  | unit (rev : List Piece) (count value : Nat)
deriving Repr

/-- The automaton: its mode, and the tokens so far in reverse. -/
structure State where
  mode : Mode
  done : List Token
deriving Repr

/-- The start of a numeral. -/
def start (negative : Bool) : Draft := ⟨.sign, negative, [], [], false, []⟩

/-- One character between tokens. -/
def fresh (done : List Token) (c : Char) : Option State :=
  if isGap c then some ⟨.idle, done⟩
  else if c = '\x7b' then some ⟨.idle, .openBrace :: done⟩
  else if c = '\x7d' then some ⟨.idle, .closeBrace :: done⟩
  else if c = '[' then some ⟨.idle, .openBracket :: done⟩
  else if c = ']' then some ⟨.idle, .closeBracket :: done⟩
  else if c = ',' then some ⟨.idle, .comma :: done⟩
  else if c = ':' then some ⟨.idle, .colon :: done⟩
  else if c = '"' then some ⟨.text [], done⟩
  else if c = 'n' then some ⟨.word .null ['u', 'l', 'l'], done⟩
  else if c = 't' then some ⟨.word .yes ['r', 'u', 'e'], done⟩
  else if c = 'f' then some ⟨.word .no ['a', 'l', 's', 'e'], done⟩
  else if c = '-' then some ⟨.number (start true), done⟩
  else ((start false).extend? c).map fun d => ⟨.number d, done⟩

/-- The character of a one-letter escape. -/
def shortEscape? (c : Char) : Option Char :=
  if c = '"' then some '"'
  else if c = '\\' then some '\\'
  else if c = '/' then some '/'
  else if c = 'b' then some '\x08'
  else if c = 'f' then some '\x0c'
  else if c = 'n' then some '\n'
  else if c = 'r' then some '\r'
  else if c = 't' then some '\t'
  else none

/-- One step of the automaton; `none` refuses the text. -/
def step (s : State) (c : Char) : Option State :=
  match s.mode with
  | .idle => fresh s.done c
  | .word w [x] => if c = x then some ⟨.idle, .word w :: s.done⟩ else none
  | .word w (x :: rest) => if c = x then some ⟨.word w rest, s.done⟩ else none
  | .word _ [] => none
  | .number d =>
    match d.extend? c with
    | some d' => some ⟨.number d', s.done⟩
    | none =>
      if d.complete && !c.isDigit then fresh (.number d.numeral :: s.done) c else none
  | .text rev =>
    if c = '"' then some ⟨.idle, .text rev.reverse :: s.done⟩
    else if c = '\\' then some ⟨.escape rev, s.done⟩
    else if c.toNat < 0x20 then none
    else some ⟨.text (.char c :: rev), s.done⟩
  | .escape rev =>
    if c = 'u' then some ⟨.unit rev 0 0, s.done⟩
    else (shortEscape? c).map fun x => ⟨.text (.char x :: rev), s.done⟩
  | .unit rev count value =>
    match Text.hexValue? c with
    | none => none
    | some h =>
      if count = 3 then some ⟨.text (.unit (16 * value + h) :: rev), s.done⟩
      else some ⟨.unit rev (count + 1) (16 * value + h), s.done⟩

/-- The tokens once the text has ended. -/
def finish (s : State) : Option (List Token) :=
  match s.mode with
  | .idle => some s.done.reverse
  | .number d => if d.complete then some (.number d.numeral :: s.done).reverse else none
  | _ => none

/-- The automaton over a whole text. -/
def run : State → List Char → Option State
  | s, [] => some s
  | s, c :: cs => (step s c).bind fun s' => run s' cs

theorem run_append (s : State) (cs ds : List Char) :
    run s (cs ++ ds) = (run s cs).bind fun s' => run s' ds := by
  induction cs generalizing s with
  | nil => rfl
  | cons c cs ih =>
    simp only [List.cons_append, run]
    cases step s c with
    | none => rfl
    | some s' => simpa using ih s'

end Lexer

/-- The tokens of a text. -/
def tokens? (cs : List Char) : Option (List Token) :=
  (Lexer.run ⟨.idle, []⟩ cs).bind Lexer.finish

/-- The characters of a string literal: each code unit outside the surrogates is a
character, a high surrogate and the low one after it are one character, and a
lone surrogate has none. -/
def decodePieces : List Piece → Option (List Char)
  | [] => some []
  | .char c :: rest => (decodePieces rest).map (c :: ·)
  | .unit hi :: .unit lo :: rest =>
    if 0xD800 ≤ hi ∧ hi ≤ 0xDBFF then
      if 0xDC00 ≤ lo ∧ lo ≤ 0xDFFF then
        (decodePieces rest).map
          (Char.ofNat (0x10000 + (hi - 0xD800) * 0x400 + (lo - 0xDC00)) :: ·)
      else none
    else if 0xDC00 ≤ hi ∧ hi ≤ 0xDFFF then none
    else (decodePieces (.unit lo :: rest)).map (Char.ofNat hi :: ·)
  | .unit n :: rest =>
    if 0xD800 ≤ n ∧ n ≤ 0xDFFF then none
    else (decodePieces rest).map (Char.ofNat n :: ·)

end Appliance.Json

import Appliance.Json.Token

/-!
# JSON trees

The tree of a text says how its tokens nest and nothing more: numbers keep
their digits, strings their escapes and objects all their members in order.

* `Tree`          : how the tokens of a text nest
* `Tree.ofText?`  : reads a text; anything after the first value is refused
* `Tree.text?` and its companions : a tree as a value of one kind
-/

namespace Appliance.Json

/-- How the tokens of a text nest. -/
inductive Tree where
  | word (w : Word)
  | number (n : Numeral)
  | text (pieces : List Piece)
  | array (items : List Tree)
  | object (members : List (List Piece × Tree))
deriving Repr

namespace Tree

mutual

/-- Reads one value and returns the tokens after it. -/
def value : Nat → List Token → Option (Tree × List Token)
  | 0, _ => none
  | _ + 1, .word w :: rest => some (.word w, rest)
  | _ + 1, .number n :: rest => some (.number n, rest)
  | _ + 1, .text ps :: rest => some (.text ps, rest)
  | _ + 1, .openBracket :: .closeBracket :: rest => some (.array [], rest)
  | fuel + 1, .openBracket :: rest => items fuel [] rest
  | _ + 1, .openBrace :: .closeBrace :: rest => some (.object [], rest)
  | fuel + 1, .openBrace :: rest => members fuel [] rest
  | _ + 1, _ => none

/-- Reads the items of an array up to its end, after those already read. -/
def items : Nat → List Tree → List Token → Option (Tree × List Token)
  | 0, _, _ => none
  | fuel + 1, read, tokens =>
    match value fuel tokens with
    | some (x, .comma :: rest) => items fuel (x :: read) rest
    | some (x, .closeBracket :: rest) => some (.array (x :: read).reverse, rest)
    | _ => none

/-- Reads the members of an object up to its end, after those already read. -/
def members : Nat → List (List Piece × Tree) → List Token → Option (Tree × List Token)
  | 0, _, _ => none
  | fuel + 1, read, .text key :: .colon :: tokens =>
    match value fuel tokens with
    | some (x, .comma :: rest) => members fuel ((key, x) :: read) rest
    | some (x, .closeBrace :: rest) => some (.object ((key, x) :: read).reverse, rest)
    | _ => none
  | _ + 1, _, _ => none

end

/-- The tree of a list of tokens that is one value. -/
def ofTokens? (tokens : List Token) : Option Tree :=
  match value (2 * tokens.length + 2) tokens with
  | some (t, []) => some t
  | _ => none

/-- The tree of a text that is one value. -/
def ofText? (s : String) : Option Tree := (tokens? s.toList).bind ofTokens?

/-- A string. -/
def text? : Tree → Option String
  | .text ps => (decodePieces ps).map String.ofList
  | _ => none

/-- A truth value. -/
def bool? : Tree → Option Bool
  | .word .yes => some true
  | .word .no => some false
  | _ => none

/-- The natural number that decimal digits denote. -/
def readDigits (ds : List Char) : Nat := ds.foldl (fun n c => 10 * n + (c.toNat - 48)) 0

/-- An integer written without fraction or exponent. The number `-0` is not one. -/
def integer? : Tree → Option Int
  | .number n =>
    let m := readDigits n.whole
    if !n.isInteger then none
    else if n.negative then (if m = 0 then none else some (-(m : Int)))
    else some m
  | _ => none

/-- A natural number below a bound. -/
def natBelow? (bound : Nat) (t : Tree) : Option Nat :=
  match t.integer? with
  | some (.ofNat n) => if n < bound then some n else none
  | _ => none

/-- An integer of 64 bits. -/
def int64? (t : Tree) : Option Int :=
  t.integer?.bind fun n => if -0x8000000000000000 ≤ n ∧ n < 0x8000000000000000 then some n else none

/-- The items of an array, each read by `read`. -/
def list? {α : Type} (read : Tree → Option α) : Tree → Option (List α)
  | .array xs => xs.mapM read
  | _ => none

end Tree

end Appliance.Json

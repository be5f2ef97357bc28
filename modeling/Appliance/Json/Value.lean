import Appliance.Json.Tree
import Appliance.Decimal.Shortest

/-!
# JSON values

A value of any shape. An object keeps the last of several members with one key
and holds its keys in ascending order. An integer between `-2^63` and `2^64 - 1`
stays an integer; every other number is a double.

* `Value.ofTree`   : reads a tree, with a limit on the nesting
* `Value.ofText?`  : reads a text
* `Value.text`     : the compact text
-/

namespace Appliance.Json

open Appliance.Decimal

/-- A number. -/
inductive Number where
  | integer (n : Int)
  | double (x : Binary64)
deriving DecidableEq, Repr

namespace Number

/-- The largest significand that is collected exactly. -/
def significandLimit : Nat := 0xffffffffffffffff

/-- Takes digits into a significand while it stays within the limit, and returns
it with the digits that were left over. -/
def absorb : Nat → List Char → Nat × List Char
  | m, [] => (m, [])
  | m, c :: cs =>
    let m' := 10 * m + (c.toNat - 48)
    if significandLimit < m' then (m, c :: cs) else absorb m' cs

/-- A numeral that is no integer of 64 bits, as a double: the digits that fit into
a significand of 64 bits, scaled by a power of ten. -/
def double? (n : Numeral) : Option Binary64 :=
  let (m, left) := absorb 0 n.whole
  let (m', unused) := absorb m n.fraction
  let taken := n.fraction.length - unused.length
  let written : Int := match n.exponent with
    | none => 0
    | some (minus, ds) => if minus then -(Tree.readDigits ds : Int) else Tree.readDigits ds
  (Binary64.scale (Binary64.ofNat m') ((left.length : Int) - taken + written)).map
    fun units => ⟨n.negative, units⟩

/-- Reads a numeral; `none` when it is beyond the doubles. -/
def ofNumeral? (n : Numeral) : Option Number :=
  let m := Tree.readDigits n.whole
  if n.isInteger && !n.negative && m ≤ significandLimit then some (.integer m)
  else if n.isInteger && n.negative && 0 < m && m ≤ 0x8000000000000000 then some (.integer (-(m : Int)))
  else (double? n).map .double

/-- The written form of a natural number. -/
def natText (n : Nat) : List Char := Nat.toDigits 10 n

/-- The written form of an integer. -/
def intText : Int → List Char
  | .ofNat n => natText n
  | .negSucc n => '-' :: natText (n + 1)

/-- The written form of a number. -/
def text : Number → List Char
  | .integer n => intText n
  | .double x => Shortest.text x

end Number

/-- A value. -/
inductive Value where
  | null
  | bool (b : Bool)
  | number (n : Number)
  | string (s : String)
  | array (items : List Value)
  | object (members : List (String × Value))
deriving Repr

namespace Value

/-- Puts a member into a list of members with ascending keys, in place of one with
the same key. -/
def put (key : String) (v : Value) : List (String × Value) → List (String × Value)
  | [] => [(key, v)]
  | (k, w) :: rest =>
    if key = k then (key, v) :: rest
    else if key < k then (key, v) :: (k, w) :: rest
    else (k, w) :: put key v rest

mutual

/-- Reads a tree that may open `room` containers inside each other. -/
def ofTree : Nat → Tree → Option Value
  | _, .word .null => some .null
  | _, .word .yes => some (.bool true)
  | _, .word .no => some (.bool false)
  | _, .number n => (Number.ofNumeral? n).map .number
  | _, .text ps => (decodePieces ps).map fun cs => .string (String.ofList cs)
  | 0, .array _ => none
  | room + 1, .array xs => (ofItems room xs).map .array
  | 0, .object _ => none
  | room + 1, .object ms => (ofMembers room [] ms).map .object

/-- Reads the items of an array. -/
def ofItems : Nat → List Tree → Option (List Value)
  | _, [] => some []
  | room, x :: xs =>
    match ofTree room x, ofItems room xs with
    | some v, some vs => some (v :: vs)
    | _, _ => none

/-- Reads the members of an object into those already read. -/
def ofMembers : Nat → List (String × Value) → List (List Piece × Tree) →
    Option (List (String × Value))
  | _, read, [] => some read
  | room, read, (key, x) :: ms =>
    match decodePieces key, ofTree room x with
    | some k, some v => ofMembers room (put (String.ofList k) v read) ms
    | _, _ => none

end

/-- How many containers may be open inside each other. -/
def depthLimit : Nat := 127

/-- Reads a text. -/
def ofText? (s : String) : Option Value := (Tree.ofText? s).bind (ofTree depthLimit)

/-- The member of an object with a given key; other values have none. -/
def member? (key : String) : Value → Option Value
  | .object ms => (ms.find? fun m => m.1 == key).map (·.2)
  | _ => none

/-- The text of a string value. -/
def string? : Value → Option String
  | .string s => some s
  | _ => none

/-- The items of an array value. -/
def array? : Value → Option (List Value)
  | .array xs => some xs
  | _ => none

/-- The characters that write one character inside a string. -/
def escapeChar (c : Char) : List Char :=
  if c = '"' then ['\\', '"']
  else if c = '\\' then ['\\', '\\']
  else if c = '\x08' then ['\\', 'b']
  else if c = '\x0c' then ['\\', 'f']
  else if c = '\n' then ['\\', 'n']
  else if c = '\r' then ['\\', 'r']
  else if c = '\t' then ['\\', 't']
  else if c.toNat < 0x20 then
    ['\\', 'u', '0', '0', Text.hexDigit (c.toNat / 16), Text.hexDigit (c.toNat % 16)]
  else [c]

/-- The literal of a string. -/
def stringText (s : String) : List Char := '"' :: s.toList.flatMap escapeChar ++ ['"']

mutual

/-- The compact text of a value. -/
def chars : Value → List Char
  | .null => "null".toList
  | .bool true => "true".toList
  | .bool false => "false".toList
  | .number n => n.text
  | .string s => stringText s
  | .array xs => '[' :: itemChars xs ++ [']']
  | .object ms => '\x7b' :: memberChars ms ++ ['\x7d']

/-- The texts of items, separated by commas. -/
def itemChars : List Value → List Char
  | [] => []
  | [x] => chars x
  | x :: xs => chars x ++ ',' :: itemChars xs

/-- The texts of members, separated by commas. -/
def memberChars : List (String × Value) → List Char
  | [] => []
  | [(k, x)] => stringText k ++ ':' :: chars x
  | (k, x) :: ms => stringText k ++ ':' :: chars x ++ ',' :: memberChars ms

end

/-- The compact text of a value. -/
def text (v : Value) : String := String.ofList v.chars

end Value

end Appliance.Json

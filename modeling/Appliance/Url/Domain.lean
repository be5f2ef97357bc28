import Appliance.Text.Direction
import Appliance.Text.Joining
import Appliance.Text.Mark
import Appliance.Text.Normal
import Appliance.Url.Domain.Mapping
import Appliance.Url.Domain.Punycode

/-!
# Domain names

A domain name is kept in its ASCII form. Reading maps its characters, brings
them to normal form, checks each label and writes labels with characters beyond
ASCII in punycode. Labels that come in punycode are decoded for the checks.

* `toAscii?`    : the ASCII form of a name, if it is one
* `Domain`      : a name in ASCII form, which reading leaves as it is
* `Domain.read?` : reads a name
-/

namespace Appliance.Url

namespace Domain

open Appliance.Text

/-! ## Labels -/

/-- Starts a label in punycode. -/
def encodedMark : List Char := ['x', 'n', '-', '-']

/-- The characters that separate the parts of an address, and those that do not show. -/
def isDenied (c : Char) : Bool :=
  c.toNat ≤ 0x20 || c.toNat == 0x7F || "%#/:<>?@[\\]^|".toList.contains c

/-- Whether the letters around a place join across it, marks being passed over. The
letters before it are given from the nearest on. -/
def joinsAcross (before after : List Char) : Bool :=
  let next (cs : List Char) : Option Joining :=
    (cs.map joiningOf).find? (· ≠ .transparent)
  (next before == some .left || next before == some .both) &&
    (next after == some .right || next after == some .both)

/-- The combining class of the sign that suppresses a vowel. -/
def silencer : Nat := 9

/-- Whether the two characters without width that guide joining stand only where they
make a difference. The characters before the rest are given from the nearest on. -/
def joinersFit : List Char → List Char → Bool
  | _, [] => true
  | before, c :: rest =>
    let afterSilencer := (before.head?.map Normal.classOf) == some silencer
    let fits :=
      if c.toNat = 0x200C then afterSilencer || joinsAcross before rest
      else if c.toNat = 0x200D then afterSilencer
      else true
    fits && joinersFit (c :: before) rest

/-- Whether a label is well formed apart from directions: normal, of valid characters
none of which is denied or a dot, not beginning with a mark, its joiners in place. -/
def isWellFormed (label : List Char) : Bool :=
  Normal.isNormal label &&
    label.all (fun c => isValid c && !isDenied c && c != '.') &&
    !(label.head?.any isMark) && joinersFit [] label

/-- The label that an ASCII form stands for. It must have characters beyond ASCII. -/
def decodeLabel? (ascii : List Char) : Option (List Char) :=
  match Punycode.decode? ascii with
  | some label => if label.all fun c => c.toNat < 0x80 then none else some label
  | none => none

/-- The label behind a mapped label: itself, or what it encodes. -/
def plainLabel? (label : List Char) : Option (List Char) :=
  if label.take 4 = encodedMark then decodeLabel? (label.drop 4) else some label

/-- The ASCII form of a label. -/
def asciiLabel (label : List Char) : List Char :=
  if label.all fun c => c.toNat < 0x80 then label else encodedMark ++ Punycode.encode label

/-! ## Directions -/

/-- Whether a character is written from the right, or is a digit of such a script. -/
def isFromRight (c : Char) : Bool :=
  match directionOf c with
  | .right | .arabic | .arabicDigit => true
  | _ => false

/-- The directions of a label without the marks at its end. -/
def directions (label : List Char) : List Direction :=
  ((label.map directionOf).reverse.dropWhile (· == .mark)).reverse

/-- Whether a label in a name with letters from the right keeps to one direction. -/
def keepsDirection (label : List Char) : Bool :=
  let ds := directions label
  let common : List Direction :=
    [.europeanDigit, .sign, .separator, .unit, .neutral, .boundary, .mark]
  match ds.head? with
  | none => label.isEmpty
  | some .left =>
    ds.all (fun d => d == .left || common.contains d) &&
      (ds.getLast? == some .left || ds.getLast? == some .europeanDigit)
  | some d =>
    (d == .right || d == .arabic) &&
      ds.all (fun d => [.right, .arabic, .arabicDigit].contains d || common.contains d) &&
      (match ds.getLast? with
        | some e => [Direction.right, .arabic, .europeanDigit, .arabicDigit].contains e
        | none => false) &&
      !(ds.contains .europeanDigit && ds.contains .arabicDigit)

/-! ## Names -/

/-- Cuts a name at its dots. -/
def labels (cs : List Char) : List (List Char) :=
  match cs with
  | [] => [[]]
  | c :: rest =>
    match labels rest with
    | [] => [[c]]
    | first :: others => if c = '.' then [] :: first :: others else (c :: first) :: others

/-- Joins labels with dots. -/
def joinLabels (ls : List (List Char)) : List Char := ['.'].intercalate ls

/-- The ASCII form of a name. -/
def toAscii? (cs : List Char) : Option (List Char) := do
  let mapped := (← cs.mapM map?).flatten
  let plain ← (labels (Normal.normalize mapped)).mapM plainLabel?
  guard (plain.all isWellFormed)
  guard (!(plain.any fun l => l.any isFromRight) || plain.all keepsDirection)
  return joinLabels (plain.map asciiLabel)

end Domain

/-- A domain name in ASCII form. Reading leaves it as it is. -/
structure Domain where
  chars : List Char
  fixed : Domain.toAscii? chars = some chars
deriving DecidableEq

namespace Domain

/-- Reads a name. -/
def read? (cs : List Char) : Option Domain :=
  match toAscii? cs with
  | none => none
  | some ascii =>
    if h : toAscii? ascii = some ascii then some ⟨ascii, h⟩ else none

/-- The text of a name. -/
def text (d : Domain) : String := String.ofList d.chars

/-- The ASCII form of a name is read as that name. -/
theorem read?_chars (d : Domain) : read? d.chars = some d := by
  simp [read?, d.fixed]

end Domain

end Appliance.Url

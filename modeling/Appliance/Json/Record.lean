import Appliance.Json.Tree

/-!
# JSON records

A record has named fields in a fixed order. It is read from an object, where
unknown keys are passed over and the order does not matter, or from an array of
its fields in order, where fields may be missing at the end. A field given twice
(each name and alias counts) makes the object unreadable.

* `fields?`   : the tree given for each field
* `optional?` : a field that may be missing or null
* `orElse?`   : a field with a default
-/

namespace Appliance.Json.Record

/-- A field: the keys under which it may be given. -/
abbrev Field := List String

/-- The members of an object with their keys read; `none` if a key is no text. -/
def keyed? : List (List Piece × Tree) → Option (List (String × Tree))
  | [] => some []
  | (key, t) :: ms =>
    match decodePieces key, keyed? ms with
    | some k, some rest => some ((String.ofList k, t) :: rest)
    | _, _ => none

/-- What an object gives for a field: at most one member may name it. -/
def given? (ms : List (String × Tree)) (field : Field) : Option (Option Tree) :=
  match ms.filter fun m => field.contains m.1 with
  | [] => some none
  | [m] => some (some m.2)
  | _ => none

/-- What an object gives for each field. -/
def ofMembers? (fields : List Field) (ms : List (String × Tree)) : Option (List (Option Tree)) :=
  fields.mapM (given? ms)

/-- What an array gives for each field. -/
def ofItems? : List Field → List Tree → Option (List (Option Tree))
  | [], [] => some []
  | [], _ :: _ => none
  | _ :: fields, [] => (ofItems? fields []).map (none :: ·)
  | _ :: fields, t :: ts => (ofItems? fields ts).map (some t :: ·)

/-- What a tree gives for each field of a record. -/
def fields? (fields : List Field) : Tree → Option (List (Option Tree))
  | .object ms => (keyed? ms).bind (ofMembers? fields)
  | .array ts => ofItems? fields ts
  | _ => none

/-- A field that may be missing or null. -/
def optional? {α : Type} (read : Tree → Option α) : Option Tree → Option (Option α)
  | none => some none
  | some (.word .null) => some none
  | some t => (read t).map some

/-- A field with a default, which null does not stand for. -/
def orElse? {α : Type} (read : Tree → Option α) (default : α) : Option Tree → Option α
  | none => some default
  | some t => read t

/-- A field that must be given. -/
def required? {α : Type} (read : Tree → Option α) : Option Tree → Option α
  | none => none
  | some t => read t

end Appliance.Json.Record

import Appliance.Secret

/-!
# Files

A tree of files and folders, read by path. A path is relative to a place in the
tree unless it starts at the root with a slash; `.` and an empty component stay
in a folder, `..` leaves it. Long names and a NUL are refused. There are no links.

* `ReadFault`   : why a file cannot be read
* `Node`        : a file or a folder
* `Place`       : a folder, with the folders that it lies in
* `Place.read`  : the content of the file at a path
* `join`        : the path of a file in a folder
-/

namespace Appliance.Files

/-- Why a file cannot be read. -/
inductive ReadFault where
  | missing
  | isFolder
  | notFolder
  | nameTooLong
  | nulInName
  /-- Another failure of the system, in its own words. -/
  | other (detail : String)
deriving DecidableEq, Repr

namespace ReadFault

/-- The wording of the operating system. -/
def message : ReadFault → String
  | .missing => "No such file or directory (os error 2)"
  | .isFolder => "Is a directory (os error 21)"
  | .notFolder => "Not a directory (os error 20)"
  | .nameTooLong => "File name too long (os error 36)"
  | .nulInName => "file name contained an unexpected NUL byte"
  | .other detail => detail

end ReadFault

/-- A file or a folder, or an entry that the system does not let one read. -/
inductive Node where
  | file (content : Octets)
  | folder (entries : List (String × Node))
  | unreadable (fault : ReadFault)

namespace Node

/-- What is read of an entry. -/
def content : Node → Except ReadFault Octets
  | .file content => .ok content
  | .folder _ => .error .isFolder
  | .unreadable f => .error f

/-- An entry of which is read what was read. -/
def ofContent : Except ReadFault Octets → Node
  | .ok content => .file content
  | .error f => .unreadable f

end Node

/-- The most octets of one name. -/
def nameLimit : Nat := 255

/-- A path has fewer octets than this. -/
def pathLimit : Nat := 4096

/-- Why the system refuses a path before it looks for anything. -/
def pathFault? (path : String) : Option ReadFault :=
  if path.contains '\x00' then some .nulInName
  else if path = "" then some .missing
  else if pathLimit ≤ path.utf8ByteSize then some .nameTooLong
  else none

/-- The components of a path, with slashes between them. -/
def components (path : String) : List String := (path.toList.splitOn '/').map String.ofList

/-- A node and the folders that it lies in, innermost first. -/
structure Place where
  node : Node
  above : List Node

namespace Place

/-- The folder that a place lies in; the root lies in itself. -/
def parent (p : Place) : Place :=
  match p.above with
  | [] => p
  | n :: rest => ⟨n, rest⟩

/-- The root of the tree that a place lies in. -/
def root (p : Place) : Place := ⟨p.above.getLast?.getD p.node, []⟩

/-- One step along a path. -/
def enter (p : Place) (name : String) : Except ReadFault Place :=
  match p.node with
  | .file _ => .error .notFolder
  | .unreadable f => .error f
  | .folder entries =>
    if name = "" ∨ name = "." then .ok p
    else if name = ".." then .ok p.parent
    else if nameLimit < name.utf8ByteSize then .error .nameTooLong
    else match entries.lookup name with
      | some n => .ok ⟨n, p.node :: p.above⟩
      | none => .error .missing

/-- Follows the components of a path. -/
def follow (p : Place) : List String → Except ReadFault Place
  | [] => .ok p
  | name :: rest => (p.enter name).bind fun q => q.follow rest

/-- Follows the components of a path, of which the first is empty if it starts at the root. -/
def walk (p : Place) : List String → Except ReadFault Place
  | "" :: rest => p.root.follow rest
  | names => p.follow names

/-- The place that a path names. -/
def find (p : Place) (path : String) : Except ReadFault Place :=
  match pathFault? path with
  | some f => .error f
  | none => p.walk (components path)

/-- The content of the file that a path names. -/
def read (p : Place) (path : String) : Except ReadFault Octets :=
  (p.find path).bind fun q => q.node.content

end Place

/-- The path of a file in a folder. A path from the root leaves the folder, and there is no
slash after an empty path or after one that ends with a slash. -/
def join (folder file : String) : String :=
  if file.startsWith "/" then file
  else if folder.toList.getLast?.any (· ≠ '/') then folder ++ "/" ++ file
  else folder ++ file

end Appliance.Files

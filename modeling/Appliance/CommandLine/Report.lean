import Appliance.Fault

/-!
# Reports

How the program says why it failed: what it was about to do, and below that the
causes, each of which explains the one before it.

* `Report`       : what failed and why
* `Report.lines` : the report as it is printed
* `Report.chain` : the report in one line
-/

namespace Appliance.CommandLine

/-- What failed and why. -/
structure Report where
  context : String
  causes : List String
deriving DecidableEq, Repr

namespace Report

/-- A failure that speaks for itself. -/
def plain (context : String) : Report := ⟨context, []⟩

/-- A failure with a fault as its cause. -/
def ofFault (context : String) (f : Fault) : Report := ⟨context, [f.message, f.cause]⟩

/-- The report in one line. -/
def chain (r : Report) : String := String.intercalate ": " (r.context :: r.causes)

/-- The lines of a text. -/
def linesOf (text : String) : List String := (text.toList.splitOn '\n').map String.ofList

/-- A text with something before its first line and something before every other line. -/
def indented (first other text : String) : List String :=
  match linesOf text with
  | [] => []
  | line :: rest => (first ++ line) :: rest.map (other ++ ·)

/-- A number in five columns. -/
def column (n : Nat) : String :=
  let digits := toString n
  String.ofList (List.replicate (5 - digits.length) ' ') ++ digits

/-- The causes as they are printed. A cause that stands alone has no number. -/
def causeLines : List String → List String
  | [cause] => indented "    " "    " cause
  | causes => causes.zipIdx.flatMap fun (cause, i) => indented (column i ++ ": ") "       " cause

/-- The report as it is printed. -/
def lines (r : Report) : List String :=
  linesOf ("Error: " ++ r.context) ++
    (if r.causes.isEmpty then [] else "" :: "Caused by:" :: causeLines r.causes)

end Report

end Appliance.CommandLine

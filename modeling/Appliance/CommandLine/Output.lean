import Appliance.CommandLine.Report
import Appliance.Duration
import Appliance.Event
import Appliance.Listener.State

/-!
# Output

What the program prints. Results and events go to the standard output; everything
else, and every failure, goes to the diagnostic output. Times are given by whoever
has a clock.

* `Line`         : a printed line
* `Stamps`       : how the present moment is written
* `Line.event`, `Line.state`, `tokenLines` : the lines of events, states and tokens
-/

namespace Appliance.CommandLine

/-- A printed line. -/
structure Line where
  /-- Whether it goes to the diagnostic output. -/
  diagnostic : Bool
  text : String
deriving DecidableEq, Repr

/-- How moments are written. -/
structure Stamps where
  /-- The present time of day. -/
  time : String
  /-- The present instant, in events that are written as JSON. -/
  instant : String
  /-- The instant after some seconds from now. -/
  after : Nat → String

namespace Line

/-- A line of the standard output. -/
def out (text : String) : Line := ⟨false, text⟩

/-- A line of the diagnostic output. -/
def err (text : String) : Line := ⟨true, text⟩

/-- A text as JSON. -/
def jsonText (s : String) : String := String.ofList (Json.Value.stringText s)

/-- Members of a JSON object, in the order given, with their values as JSON texts. -/
def jsonObject (members : List (String × String)) : String :=
  "\x7b" ++ String.intercalate ","
    (members.map fun (name, value) => jsonText name ++ ":" ++ value) ++ "\x7d"

/-- An event. -/
def event (stamps : Stamps) (json : Bool) (e : Event) : Line :=
  if json then
    out (jsonObject [("received_at", jsonText stamps.instant), ("name", jsonText e.name),
      ("body", jsonText e.body)])
  else out (stamps.time ++ " " ++ e.name ++ " " ++ e.body)

/-- A state of a listener. -/
def state (stamps : Stamps) (s : ListenerState) : Line :=
  err (stamps.time ++ " STATE " ++ s.text)

/-- A failure. -/
def report (r : Report) : List Line := r.lines.map err

end Line

/-- A token that was got: where from, how long it lives, and its text if it may be shown. -/
structure TokenSummary where
  appliance : String
  secondsLeft : Nat
  text : Option String

/-- A token as JSON. -/
def TokenSummary.json (t : TokenSummary) : String :=
  Line.jsonObject
    ([("appliance", Line.jsonText t.appliance), ("lifetime_remaining", toString t.secondsLeft)] ++
      (t.text.map fun s => ("access_token", Line.jsonText s)).toList)

/-- The lines of a token. -/
def TokenSummary.lines (stamps : Stamps) (json : Bool) (t : TokenSummary) : List Line :=
  if json then [.out t.json]
  else
    [.out "✓ Authenticated", .out "", .out ("Appliance: " ++ t.appliance),
      .out ("Lifetime: " ++ clockText t.secondsLeft),
      .out ("Expires: " ++ stamps.after t.secondsLeft)] ++
      (t.text.map fun s => Line.out ("Token: " ++ s)).toList

end Appliance.CommandLine

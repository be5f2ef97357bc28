/-!
# Command line grammars

A command takes parameters, which have a long name after two dashes and may have
a short one after a single dash, and may take other arguments. The value of a
parameter follows as the next argument, after an equals sign, or directly after
its short name. Two dashes alone end the parameters. A parameter that is not
given may be taken from the environment.

* `Parameter`, `Grammar` : what a command takes
* `UsageFault`           : why arguments are refused
* `Grammar.read`         : reads the arguments of a command
-/

namespace Appliance.CommandLine

/-- Why arguments are refused, or what they ask for instead. -/
inductive UsageFault where
  | helpWanted
  | versionWanted
  /-- Nothing is given where help is more useful than a refusal. -/
  | nothingGiven
  | commandMissing
  | unknownCommand
  | unknownParameter
  | valueMissing
  | valueUnneeded
  | valueInvalid
  | conflict
  | parameterMissing
deriving DecidableEq, Repr

/-- Which values a parameter accepts. -/
inductive ValueKind where
  | text
  /-- A path, which is not empty. -/
  | path
  /-- A number that fits in 64 bits. -/
  | number
deriving DecidableEq, Repr

/-- What a parameter does. -/
inductive ParameterKind where
  /-- It is given or not. -/
  | flag
  /-- It is given a number of times. -/
  | count
  | value (kind : ValueKind)
  | help
  | version
deriving DecidableEq, Repr

/-- A parameter of a command. -/
structure Parameter where
  long : String
  short : Option Char
  kind : ParameterKind
  /-- The name in the environment. -/
  source : Option String
  required : Bool
deriving DecidableEq, Repr

/-- What a command takes. -/
structure Grammar where
  parameters : List Parameter
  /-- The commands inside the command. -/
  commands : List String
  /-- Whether it takes other arguments. -/
  takesOthers : Bool
  /-- Parameters, by long name, that exclude each other. -/
  conflicts : List (String × String)

/-- A parameter that was given, with its value. -/
abbrev Given := String × Option String

/-- What was read of a command. -/
structure Reading where
  /-- The parameters in the order in which they were settled. -/
  given : List Given
  others : List String
  /-- The command inside the command, with its arguments. -/
  command : Option (String × List String)

namespace Reading

/-- Whether a parameter was given. -/
def has (r : Reading) (long : String) : Bool := r.given.any fun g => g.1 == long

/-- How often a parameter was given. -/
def count (r : Reading) (long : String) : Nat := (r.given.filter fun g => g.1 == long).length

/-- The value of a parameter. -/
def value? (r : Reading) (long : String) : Option String := (r.given.lookup long).join

end Reading

/-! ## Values -/

/-- The decimal digits of a number, at least one. -/
def digitsValue? (cs : List Char) : Option Nat :=
  if cs.isEmpty || !cs.all Char.isDigit then none
  else some (cs.foldl (fun n c => 10 * n + (c.toNat - 48)) 0)

/-- A number of 64 bits, before which a plus may stand. -/
def number? (s : String) : Option Nat :=
  let digits := match s.toList with
    | '+' :: cs => cs
    | cs => cs
  (digitsValue? digits).filter (· < 0x10000000000000000)

/-- Judges a value. -/
def ValueKind.check (k : ValueKind) (s : String) : Except UsageFault Unit :=
  match k with
  | .text => .ok ()
  | .path => if s = "" then .error .valueMissing else .ok ()
  | .number => if (number? s).isSome then .ok () else .error .valueInvalid

/-! ## Reading -/

/-- How far reading has come. -/
structure Progress where
  given : List Given
  /-- A parameter whose value is awaited, or is there and not judged yet. -/
  pending : Option (Parameter × Option String)
  others : List String
  /-- Whether two dashes have ended the parameters. -/
  trailing : Bool

namespace Progress

/-- Nothing is read. -/
def start : Progress := ⟨[], none, [], false⟩

/-- Whether a parameter was given. -/
def has (p : Progress) (long : String) : Bool := p.given.any fun g => g.1 == long

/-- Takes a parameter with the value it has. It may be given once only, unless it counts. -/
def take (p : Progress) (q : Parameter) (value : Option String) : Except UsageFault Progress :=
  let taken := { p with given := p.given ++ [(q.long, value)] }
  match q.kind, value with
  | .help, _ => .error .helpWanted
  | .version, _ => .error .versionWanted
  | .count, _ => .ok taken
  | .flag, _ => if p.has q.long then .error .conflict else .ok taken
  | .value _, none => .error .valueMissing
  | .value kind, some s =>
    if p.has q.long then .error .conflict else (kind.check s).map fun _ => taken

/-- Settles the parameter that is pending. -/
def settle (p : Progress) : Except UsageFault Progress :=
  match p.pending with
  | none => .ok p
  | some (q, value) => { p with pending := none }.take q value

/-- Settles what is pending, and then takes a parameter. -/
def react (p : Progress) (q : Parameter) (value : Option String) : Except UsageFault Progress :=
  p.settle.bind fun p => p.take q value

/-- Settles what is pending, and then awaits the value of a parameter. -/
def await (p : Progress) (q : Parameter) : Except UsageFault Progress :=
  p.settle.map fun p => { p with pending := some (q, none) }

end Progress

/-- Whether a parameter has values. -/
def Parameter.takesValue (q : Parameter) : Bool :=
  match q.kind with
  | .value _ => true
  | _ => false

namespace Grammar

/-- The parameter with a long name. -/
def long? (g : Grammar) (name : String) : Option Parameter :=
  g.parameters.find? fun q => q.long == name

/-- The parameter with a short name. -/
def short? (g : Grammar) (c : Char) : Option Parameter :=
  g.parameters.find? fun q => q.short == some c

/-- A name and, after an equals sign, a value. -/
def splitValue (cs : List Char) : String × Option String :=
  let name := cs.takeWhile (· ≠ '=')
  match cs.drop name.length with
  | [] => (String.ofList name, none)
  | _ :: value => (String.ofList name, some (String.ofList value))

/-- Reads an argument with a long name. -/
def readLong (g : Grammar) (p : Progress) (cs : List Char) : Except UsageFault Progress :=
  let (name, value) := splitValue cs
  match g.long? name with
  | none => .error .unknownParameter
  | some q =>
    match q.takesValue, value with
    | true, some _ => p.react q value
    | true, none => p.await q
    | false, some _ => .error .valueUnneeded
    | false, none => p.react q none

/-- Reads an argument with short names. One that takes values takes the rest as its
value, without an equals sign before it. -/
def readShort (g : Grammar) (p : Progress) : List Char → Except UsageFault Progress
  | [] => .ok p
  | c :: cs =>
    match g.short? c with
    | none => .error .unknownParameter
    | some q =>
      if q.takesValue then
        match cs with
        | [] => p.await q
        | '=' :: value => p.react q (some (String.ofList value))
        | value => p.react q (some (String.ofList value))
      else (p.react q none).bind fun p => g.readShort p cs

/-- Refuses an argument that is neither a parameter nor wanted otherwise. -/
def stray (g : Grammar) (p : Progress) (argument : String) : UsageFault :=
  if g.commands.isEmpty || (p.trailing && g.commands.contains argument) then .unknownParameter
  else .unknownCommand

/-- Reads an argument that is not the value of a parameter. -/
def readOther (g : Grammar) (p : Progress) (argument : String) : Except UsageFault Progress :=
  if g.takesOthers then p.settle.map fun p => { p with others := p.others ++ [argument] }
  else .error (g.stray p argument)

/-- Reads one argument that names no command. -/
def readArgument (g : Grammar) (p : Progress) (argument : String) :
    Except UsageFault Progress :=
  let other : Except UsageFault Progress :=
    match p.pending with
    | some (q, none) =>
      if p.trailing then g.readOther p argument
      else .ok { p with pending := some (q, some argument) }
    | _ => g.readOther p argument
  if p.trailing then other
  else match argument.toList with
    | ['-', '-'] => .ok { p with trailing := true }
    | '-' :: '-' :: cs => g.readLong p cs
    | ['-'] => other
    | '-' :: cs => g.readShort p cs
    | _ => other

/-- Whether an argument names a command here. -/
def namesCommand (g : Grammar) (p : Progress) (argument : String) : Bool :=
  !p.trailing && !(match p.pending with
    | some (_, none) => true
    | _ => false) && g.commands.contains argument

/-- Reads arguments up to the name of a command. -/
def readAll (g : Grammar) : Progress → List String →
    Except UsageFault (Progress × Option (String × List String))
  | p, [] => .ok (p, none)
  | p, argument :: rest =>
    if g.namesCommand p argument then .ok (p, some (argument, rest))
    else (g.readArgument p argument).bind fun p => g.readAll p rest

/-- Takes parameters that are not given from the environment. -/
def fill (environment : List (String × String)) : List Parameter → Progress →
    Except UsageFault Progress
  | [], p => .ok p
  | q :: rest, p =>
    match q.source.bind fun name => environment.lookup name with
    | none => fill environment rest p
    | some value =>
      if p.has q.long then fill environment rest p
      else (p.take q (some value)).bind fun p => fill environment rest p

/-- Judges what was given together. -/
def validate (g : Grammar) (r : Reading) : Except UsageFault Reading :=
  if !g.commands.isEmpty && r.command.isNone then
    .error (if r.given.isEmpty then .nothingGiven else .commandMissing)
  else if g.conflicts.any fun c => r.has c.1 && r.has c.2 then .error .conflict
  else if g.parameters.any fun q => q.required && !r.has q.long then .error .parameterMissing
  else .ok r

/-- Completes what the arguments have given. -/
def complete (g : Grammar) (environment : List (String × String)) (p : Progress)
    (command : Option (String × List String)) : Except UsageFault Reading :=
  p.settle.bind fun p =>
    (fill environment g.parameters p).bind fun p => g.validate ⟨p.given, p.others, command⟩

end Grammar

end Appliance.CommandLine

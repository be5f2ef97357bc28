import Appliance.Event
import Appliance.Text.Ascii
import Appliance.Text.Blank
import Appliance.Text.Quoted

/-!
# Subscriptions

Handlers of events, registered by name. Names are compared without the blanks
around them and without ASCII case. One more handler may take all events that no
name claims.

* `Subscriptions`          : the registered handlers, names in ascending order
* `Subscriptions.select`   : the handler of an event
* `Handler`                : a handler that acts on the registry itself
* `Subscriptions.perform?` : one operation, with all that its handlers do
-/

namespace Appliance

/-- Registered handlers: by name in ascending order, and for all other events. -/
structure Subscriptions (α : Type) where
  named : List (String × α)
  all : Option α

namespace Subscriptions

variable {α : Type}

/-- Nothing is registered. -/
def empty : Subscriptions α := ⟨[], none⟩

/-- The form in which names are compared. -/
def normalize (name : String) : String := Text.lower (Text.trim name)

/-- Puts a handler into a list with ascending names, in place of one with the same name. -/
def put (name : String) (h : α) : List (String × α) → List (String × α)
  | [] => [(name, h)]
  | (k, g) :: rest =>
    if name = k then (name, h) :: rest
    else if name < k then (name, h) :: (k, g) :: rest
    else (k, g) :: put name h rest

/-- Registers the handler of a name, in place of the one before. -/
def register (s : Subscriptions α) (name : String) (h : α) : Subscriptions α :=
  { s with named := put (normalize name) h s.named }

/-- Registers the handler of all events that no name claims. -/
def registerAll (s : Subscriptions α) (h : α) : Subscriptions α := { s with all := some h }

/-- Whether a name is registered. -/
def isRegistered (s : Subscriptions α) (name : String) : Bool :=
  s.named.any fun e => e.1 == normalize name

/-- Removes the handler of a name. -/
def unregister (s : Subscriptions α) (name : String) : Subscriptions α :=
  { s with named := s.named.filter fun e => !(e.1 == normalize name) }

/-- The registered names, in ascending order. -/
def names (s : Subscriptions α) : List String := s.named.map (·.1)

/-- Whether there is no handler at all. -/
def isEmpty (s : Subscriptions α) : Bool := s.named.isEmpty && s.all.isNone

/-- The handler registered under a name. -/
def named? (s : Subscriptions α) (name : String) : Option α := s.named.lookup (normalize name)

/-- The handler of an event: that of its name, or else the one for all events. -/
def select (s : Subscriptions α) (name : String) : Option α := (s.named? name).or s.all

/-- The diagnostic text. -/
def debug (s : Subscriptions α) : String :=
  "EventSubscriptions \x7b named: [" ++
    String.intercalate ", " (s.names.map Text.quoted) ++ "], all: " ++
    (if s.all.isSome then "true" else "false") ++ " \x7d"

end Subscriptions

/-! ## Handlers -/

/-- How a handler ends. -/
inductive Ending where
  | returns
  | fails
  | panics
deriving DecidableEq, Repr

/-- What became of an event. -/
inductive Outcome where
  | handled
  | handlerFailed
  | unmatched
deriving DecidableEq, Repr

/-- What a handler that ends in a given way makes of its event. -/
def Ending.outcome : Ending → Outcome
  | .returns => .handled
  | .fails => .handlerFailed
  | .panics => .handlerFailed

mutual

/-- A handler: its label, what it does to the registry, and how it ends. -/
inductive Handler where
  | mk (label : String) (script : List Operation) (ending : Ending)

/-- An operation on a registry. -/
inductive Operation where
  | register (name : String) (h : Handler)
  | registerAll (h : Handler)
  | unregister (name : String)
  | dispatch (event : Event)
  | names
  | isEmpty
  | debug

end

instance : Inhabited Operation := ⟨.debug⟩

/-- A handler's label. -/
def Handler.label : Handler → String
  | .mk label _ _ => label

/-- What a handler does to the registry. -/
def Handler.script : Handler → List Operation
  | .mk _ script _ => script

/-- How a handler ends. -/
def Handler.ending : Handler → Ending
  | .mk _ _ ending => ending

/-- The answer of an operation. -/
inductive Answer where
  | done
  | flag (b : Bool)
  | outcome (o : Outcome)
  | names (ns : List String)
  | text (s : String)
deriving DecidableEq, Repr

/-- What is seen of handlers. -/
inductive Trace where
  /-- A handler was called. -/
  | call (label : String) (event : Event)
  /-- A handler performed an operation on the registry. -/
  | nested (operation : Operation) (answer : Answer)

/-- What an operation leaves: the registry, what was seen, and the answer. -/
structure Performed where
  subscriptions : Subscriptions Handler
  traces : List Trace
  answer : Answer

namespace Subscriptions

/-- What is said of a handler that broke off, given the text it left, if any. -/
def failureText (left : Option String) : String := left.getD "non-string panic payload"

mutual

/-- Performs an operation. A handler runs after the registry was read, so what it
does counts from the next event on. There is no result if handlers call each
other deeper than `depth`. -/
def perform? : (depth : Nat) → Subscriptions Handler → Operation → Option Performed
  | _, s, .register name h => some ⟨s.register name h, [], .done⟩
  | _, s, .registerAll h => some ⟨s.registerAll h, [], .done⟩
  | _, s, .unregister name => some ⟨s.unregister name, [], .flag (s.isRegistered name)⟩
  | _, s, .names => some ⟨s, [], .names s.names⟩
  | _, s, .isEmpty => some ⟨s, [], .flag s.isEmpty⟩
  | _, s, .debug => some ⟨s, [], .text s.debug⟩
  | depth, s, .dispatch event =>
    match s.select event.name with
    | none => some ⟨s, [], .outcome .unmatched⟩
    | some h =>
      match depth with
      | 0 => none
      | depth + 1 =>
        (performAll? depth s h.script).map fun (s', traces) =>
          ⟨s', .call h.label event :: traces, .outcome h.ending.outcome⟩

/-- Performs the operations of a handler in order. -/
def performAll? : (depth : Nat) → Subscriptions Handler → List Operation →
    Option (Subscriptions Handler × List Trace)
  | _, s, [] => some (s, [])
  | depth, s, op :: rest =>
    match perform? depth s op with
    | none => none
    | some p =>
      (performAll? depth p.subscriptions rest).map fun (s', traces) =>
        (s', p.traces ++ .nested op p.answer :: traces)

end

/-- How deep handlers may call each other. -/
def depthLimit : Nat := 1000

/-- Performs an operation whose handlers do not call each other without end. -/
def perform (s : Subscriptions Handler) (op : Operation) : Performed :=
  (s.perform? depthLimit op).getD ⟨s, [], .done⟩

/-- Delivers events in order and returns the registry with the handlers' traces. -/
def deliver (s : Subscriptions Handler) : List Event → Subscriptions Handler × List Trace
  | [] => (s, [])
  | e :: rest =>
    let p := s.perform (.dispatch e)
    let (s', traces) := deliver p.subscriptions rest
    (s', p.traces ++ traces)

end Subscriptions

end Appliance

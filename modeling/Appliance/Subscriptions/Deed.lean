import Appliance.Subscriptions

/-!
# What is done to a registry

The handlers that `Subscriptions.perform?` runs do the same whenever they are called. Others
do not: what they do may depend on the event, on the answers that they get and on what they
remember. Here a handler is any value at all, and an event comes with what its handler does
at this one call.

* `Deed`                : an operation, with all that comes of it
* `Deed.run`, `runAll`  : what deeds leave, and what is seen
-/

namespace Appliance.Subscriptions

/-- An operation on a registry. An event comes with what the handler does that is called for
it, if one is: its own operations in order, and how it ends. -/
inductive Deed (α : Type) where
  | register (name : String) (h : α)
  | registerAll (h : α)
  | unregister (name : String)
  | dispatch (event : Event) (inner : List (Deed α)) (ending : Ending)
  | names
  | isEmpty

/-- What is seen of deeds. -/
inductive Sight (α : Type) where
  /-- A handler was called with an event. -/
  | called (h : α) (event : Event)
  /-- An operation was answered. -/
  | answered (answer : Answer)
deriving DecidableEq

mutual

/-- What a deed leaves, and what is seen. No handler runs before the registry was read. -/
def Deed.run {α : Type} (s : Subscriptions α) : Deed α → Subscriptions α × List (Sight α)
  | .register name h => (s.register name h, [.answered .done])
  | .registerAll h => (s.registerAll h, [.answered .done])
  | .unregister name => (s.unregister name, [.answered (.flag (s.isRegistered name))])
  | .dispatch event inner ending =>
    match s.select event.name with
    | none => (s, [.answered (.outcome .unmatched)])
    | some h =>
      let (s', seen) := runAll s inner
      (s', .called h event :: (seen ++ [.answered (.outcome ending.outcome)]))
  | .names => (s, [.answered (.names s.names)])
  | .isEmpty => (s, [.answered (.flag s.isEmpty)])

/-- What deeds leave, one after the other. -/
def runAll {α : Type} (s : Subscriptions α) : List (Deed α) → Subscriptions α × List (Sight α)
  | [] => (s, [])
  | d :: rest =>
    let (s', seen) := d.run s
    let (s'', seen') := runAll s' rest
    (s'', seen ++ seen')

end

end Appliance.Subscriptions

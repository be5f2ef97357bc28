import Appliance.Subscriptions

/-!
# How handlers end

A handler may return, fail or panic. None of these reaches further than the outcome of its
own event: with handlers that do the same and return, the same handlers are called for the
same events, and they do the same to the registry.

* `Subscriptions.map` — other handlers under the same names.
* `Handler.smoothed` — a handler that does the same and returns.
* `perform?_smoothed` — an operation on such handlers.
* `deliver_append` — events delivered in two goes.
* `deliver_smoothed` — **what is seen of handlers, but for outcomes, does not depend on how
  they end.**
-/

namespace Appliance

namespace Subscriptions

variable {α β : Type} (f : α → β)

/-- Other handlers under the same names. -/
def map (s : Subscriptions α) : Subscriptions β :=
  ⟨s.named.map fun e => (e.1, f e.2), s.all.map f⟩

theorem put_map (name : String) (h : α) (named : List (String × α)) :
    put name (f h) (named.map fun e => (e.1, f e.2)) =
      (put name h named).map fun e => (e.1, f e.2) := by
  induction named with
  | nil => rfl
  | cons e rest ih =>
    by_cases heq : name = e.1
    · simp only [List.map_cons, put, if_pos heq]
    · by_cases hlt : name < e.1
      · simp only [List.map_cons, put, if_neg heq, if_pos hlt]
      · simp only [List.map_cons, put, if_neg heq, if_neg hlt, ih]

theorem lookup_map (name : String) (named : List (String × α)) :
    (named.map fun e => (e.1, f e.2)).lookup name = (named.lookup name).map f := by
  induction named with
  | nil => rfl
  | cons e rest ih =>
    obtain ⟨k, h⟩ := e
    simp only [List.map_cons, List.lookup_cons]
    cases name == k <;> simp [ih]

variable (s : Subscriptions α) (name : String)

@[simp] theorem register_map (h : α) :
    (s.map f).register name (f h) = (s.register name h).map f := by
  simp only [register, map, put_map]

@[simp] theorem registerAll_map (h : α) :
    (s.map f).registerAll (f h) = (s.registerAll h).map f := by
  simp only [registerAll, map, Option.map_some]

@[simp] theorem unregister_map : (s.map f).unregister name = (s.unregister name).map f := by
  simp only [unregister, map, List.filter_map, Function.comp_def]

@[simp] theorem isRegistered_map : (s.map f).isRegistered name = s.isRegistered name := by
  simp only [isRegistered, map, List.any_map, Function.comp_def]

@[simp] theorem names_map : (s.map f).names = s.names := by
  simp only [names, map, List.map_map, Function.comp_def]

@[simp] theorem isEmpty_map : (s.map f).isEmpty = s.isEmpty := by
  simp only [isEmpty, map, List.isEmpty_map, Option.isNone_map]

@[simp] theorem debug_map : (s.map f).debug = s.debug := by
  have hall : (s.map f).all.isSome = s.all.isSome := Option.isSome_map
  unfold debug
  rw [names_map, hall]

@[simp] theorem select_map : (s.map f).select name = (s.select name).map f := by
  simp only [select, named?, map, lookup_map, Option.map_or]

end Subscriptions

/-! ## Handlers that return -/

mutual

/-- A handler that does the same and returns. So do the handlers that it registers. -/
def Handler.smoothed : Handler → Handler
  | .mk label script _ => .mk label (Operation.smoothedAll script) .returns

/-- An operation with such handlers. -/
def Operation.smoothed : Operation → Operation
  | .register name h => .register name h.smoothed
  | .registerAll h => .registerAll h.smoothed
  | op => op

/-- Operations with such handlers. -/
def Operation.smoothedAll : List Operation → List Operation
  | [] => []
  | op :: rest => op.smoothed :: Operation.smoothedAll rest

end

/-- An answer as it is when the handler returns. -/
def Answer.smoothed : Answer → Answer
  | .outcome .handlerFailed => .outcome .handled
  | a => a

/-- What is seen of handlers that return. -/
def Trace.smoothed : Trace → Trace
  | .call label event => .call label event
  | .nested op a => .nested op.smoothed a.smoothed

/-- A registry whose handlers return. -/
def Subscriptions.smoothed (s : Subscriptions Handler) : Subscriptions Handler :=
  s.map Handler.smoothed

/-- What an operation leaves when handlers return. -/
def Performed.smoothed (p : Performed) : Performed :=
  ⟨p.subscriptions.smoothed, p.traces.map Trace.smoothed, p.answer.smoothed⟩

@[simp] theorem Handler.label_smoothed (h : Handler) : h.smoothed.label = h.label := by
  cases h
  rfl

@[simp] theorem Handler.script_smoothed (h : Handler) :
    h.smoothed.script = Operation.smoothedAll h.script := by
  cases h
  rfl

theorem Handler.outcome_smoothed (h : Handler) :
    Answer.outcome h.smoothed.ending.outcome = (Answer.outcome h.ending.outcome).smoothed := by
  obtain ⟨label, script, ending⟩ := h
  cases ending <;> rfl

namespace Subscriptions

/-- The operations of a handler, if single operations are as `perform?_smoothed` says. -/
theorem performAll?_smoothed {depth : Nat}
    (hop : ∀ s op, perform? depth s.smoothed op.smoothed = (perform? depth s op).map .smoothed)
    (s : Subscriptions Handler) (ops : List Operation) :
    performAll? depth s.smoothed (Operation.smoothedAll ops) =
      (performAll? depth s ops).map fun x => (x.1.smoothed, x.2.map Trace.smoothed) := by
  induction ops generalizing s with
  | nil => simp [performAll?, Operation.smoothedAll]
  | cons op rest ih =>
    simp only [performAll?, Operation.smoothedAll, hop]
    cases perform? depth s op with
    | none => rfl
    | some p =>
      simp only [Option.map_some, Performed.smoothed, ih, Option.map_map]
      congr 1
      funext x
      simp [Trace.smoothed]

/-- An operation does the same with handlers that return, and only the outcomes differ. -/
theorem perform?_smoothed (depth : Nat) (s : Subscriptions Handler) (op : Operation) :
    perform? depth s.smoothed op.smoothed = (perform? depth s op).map .smoothed := by
  induction depth generalizing s op with
  | zero =>
    cases op with
    | dispatch event =>
      simp only [Operation.smoothed, perform?, Subscriptions.smoothed, select_map]
      cases s.select event.name <;> rfl
    | _ =>
      simp [Operation.smoothed, perform?, Subscriptions.smoothed, Performed.smoothed,
        Answer.smoothed]
  | succ depth ih =>
    cases op with
    | dispatch event =>
      simp only [Operation.smoothed, perform?, Subscriptions.smoothed, select_map]
      cases s.select event.name with
      | none => rfl
      | some h =>
        have hscript := performAll?_smoothed ih s h.script
        simp only [Option.map_some, Handler.label_smoothed, Handler.script_smoothed]
        rw [← Subscriptions.smoothed, hscript]
        simp [Option.map_map, Function.comp_def, Performed.smoothed, Trace.smoothed,
          Handler.outcome_smoothed]
    | _ =>
      simp [Operation.smoothed, perform?, Subscriptions.smoothed, Performed.smoothed,
        Answer.smoothed]

theorem perform_smoothed (s : Subscriptions Handler) (op : Operation) :
    s.smoothed.perform op.smoothed = (s.perform op).smoothed := by
  rw [perform, perform, perform?_smoothed]
  cases s.perform? depthLimit op <;> rfl

/-- Events can be delivered in two goes. -/
theorem deliver_append (s : Subscriptions Handler) (as bs : List Event) :
    s.deliver (as ++ bs) = (((s.deliver as).1.deliver bs).1,
      (s.deliver as).2 ++ ((s.deliver as).1.deliver bs).2) := by
  induction as generalizing s with
  | nil => rfl
  | cons e rest ih => simp only [List.cons_append, deliver, ih, List.append_assoc]

/-- **What is seen of handlers, but for outcomes, does not depend on how they end**, and
neither does the registry that they leave. -/
theorem deliver_smoothed (s : Subscriptions Handler) (events : List Event) :
    s.smoothed.deliver events =
      ((s.deliver events).1.smoothed, (s.deliver events).2.map Trace.smoothed) := by
  induction events generalizing s with
  | nil => rfl
  | cons e rest ih =>
    have hperform : s.smoothed.perform (.dispatch e) = (s.perform (.dispatch e)).smoothed :=
      perform_smoothed s (.dispatch e)
    simp only [deliver, hperform, Performed.smoothed, ih, List.map_append]

end Subscriptions

end Appliance

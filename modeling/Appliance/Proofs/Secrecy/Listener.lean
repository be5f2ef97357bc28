import Appliance.Proofs.Secrecy.Session

/-!
# Listeners do not tell tokens apart

A listener looks at the token of its session only to hand it to the transport. So two
listeners that are in the same state, and whose sessions show alike tokens, go to the same
state and do the same, up to the token with which they open a channel.

* `Move.Alike`         : the same state, reached with alike effects
* **`step_alike`**     : one input of a listener
-/

namespace Appliance.Listener

/-- They lead to the same state, with alike effects. -/
structure Move.Alike (m m' : Move) : Prop where
  state : m.1 = m'.1
  effects : List.Forall₂ Effect.Alike m.2 m'.2

namespace Move.Alike

theorem refl (m : Move) : Move.Alike m m := ⟨rfl, List.forall₂_same.2 fun e _ => .same e⟩

theorem of_eq {m m' : Move} (h : m = m') : Move.Alike m m' := h ▸ refl m

/-- One move after another. -/
theorem andThen {m m' : Move} (h : Move.Alike m m') {f g : Listener → Move}
    (hfg : ∀ l, Move.Alike (f l) (g l)) : Move.Alike (m.andThen f) (m'.andThen g) := by
  obtain ⟨l, effects⟩ := m
  obtain ⟨l', effects'⟩ := m'
  obtain rfl : l = l' := h.state
  exact ⟨(hfg l).state, List.rel_append h.effects (hfg l).effects⟩

theorem led {m m' : Move} (h : Move.Alike m m') {e e' : Effect} (he : e.Alike e') :
    Move.Alike (m.led e) (m'.led e') :=
  ⟨h.state, .cons he h.effects⟩

end Move.Alike

/-! ## Attempts -/

/-- They ask for a refresh, or for channels with alike tokens; or they fail alike. -/
inductive Advance.Alike : Advance → Advance → Prop where
  | same (a : Advance) : Alike a a
  | openChannel {t u : Token} :
    t.Alike u → Alike (.asks (.openChannel t)) (.asks (.openChannel u))

/-- They mean the same, up to tokens that are alike. -/
inductive Turn.Alike : Turn → Turn → Prop where
  | same (t : Turn) : Alike t t
  | advances {a b : Advance} : a.Alike b → Alike (.advances a) (.advances b)

section Attempts

variable {g g' : Glance} (h : g.Alike g')
include h

theorem openWith_alike : (openWith g).Alike (openWith g') := by
  have htoken := h.token
  simp only [openWith]
  generalize g.token = x at htoken ⊢
  generalize g'.token = y at htoken ⊢
  cases htoken with
  | none => exact .same _
  | some ht => exact .openChannel ht

theorem beginAttempt_alike (refreshFirst : Bool) :
    (beginAttempt g refreshFirst).Alike (beginAttempt g' refreshFirst) := by
  rw [beginAttempt, beginAttempt, ← h.secondsLeft]
  split
  · exact .same _
  · exact openWith_alike h

theorem turn?_alike (stage : Stage) (input : Input) :
    Option.Rel Turn.Alike (turn? g stage input) (turn? g' stage input) := by
  have hrefl : ∀ x : Option Turn, Option.Rel Turn.Alike x x := by
    intro x
    cases x with
    | none => exact .none
    | some t => exact .some (.same t)
  cases stage with
  | opening =>
    cases input with
    | opened result => cases result <;> exact hrefl _
    | _ => exact hrefl _
  | refreshing =>
    cases input with
    | refreshed result =>
      cases result with
      | ok u => exact .some (.advances (openWith_alike h))
      | error f => cases f <;> exact hrefl _
    | _ => exact hrefl _

end Attempts

variable (l : Listener)

theorem firstAdvance_alike (ticket : Nat) {a b : Advance} (h : a.Alike b) :
    Move.Alike (l.firstAdvance ticket a) (l.firstAdvance ticket b) := by
  cases h with
  | same => exact .refl _
  | openChannel ht => exact ⟨rfl, .cons (.openChannel ht) .nil⟩

theorem attemptAdvance_alike (s : Supervisor) (attempt : Nat) {a b : Advance} (h : a.Alike b) :
    Move.Alike (l.attemptAdvance s attempt a) (l.attemptAdvance s attempt b) := by
  cases h with
  | same => exact .refl _
  | openChannel ht => exact ⟨rfl, .cons (.openChannel ht) .nil⟩

theorem firstTurn_alike (ticket : Nat) {t u : Turn} (h : t.Alike u) :
    Move.Alike (l.firstTurn ticket t) (l.firstTurn ticket u) := by
  cases h with
  | same => exact .refl _
  | advances ha => exact l.firstAdvance_alike ticket ha

theorem attemptTurn_alike (s : Supervisor) (attempt : Nat) {t u : Turn} (h : t.Alike u) :
    Move.Alike (l.attemptTurn s attempt t) (l.attemptTurn s attempt u) := by
  cases h with
  | same => exact .refl _
  | advances ha => exact l.attemptAdvance_alike s attempt ha

section Inputs

variable {g g' : Glance} (h : g.Alike g')
include h

theorem firstAttempt_alike (ticket : Nat) :
    Move.Alike (l.firstAttempt g ticket) (l.firstAttempt g' ticket) :=
  (l.firstAdvance_alike ticket (beginAttempt_alike h false)).led (.attempt true h)

theorem loopAttempt_alike (s : Supervisor) (attempt : Nat) :
    Move.Alike (l.loopAttempt g s attempt) (l.loopAttempt g' s attempt) :=
  (l.attemptAdvance_alike s attempt (beginAttempt_alike h s.refreshNext)).led (.attempt false h)

theorem firstInput_alike (ticket : Nat) (stage : Stage) (input : Input) :
    Move.Alike (l.firstInput g ticket stage input) (l.firstInput g' ticket stage input) := by
  have hturn := turn?_alike h stage input
  simp only [firstInput]
  generalize turn? g stage input = x at hturn ⊢
  generalize turn? g' stage input = y at hturn ⊢
  cases hturn with
  | none => exact .refl _
  | some ht => exact l.firstTurn_alike ticket ht

/-- What an attempt of the loop waits for. -/
theorem attemptInput_alike (s : Supervisor) (attempt : Nat) (stage : Stage) (input : Input) :
    Move.Alike
      (match turn? g stage input with
        | some turn => l.attemptTurn s attempt turn
        | none => still l)
      (match turn? g' stage input with
        | some turn => l.attemptTurn s attempt turn
        | none => still l) := by
  have hturn := turn?_alike h stage input
  generalize turn? g stage input = x at hturn ⊢
  generalize turn? g' stage input = y at hturn ⊢
  cases hturn with
  | none => exact .refl _
  | some ht => exact l.attemptTurn_alike s attempt ht

theorem loopInput_alike (s : Supervisor) (input : Input) :
    Move.Alike (l.loopInput g s input) (l.loopInput g' s input) := by
  simp only [loopInput]
  split
  case h_5 => exact l.loopAttempt_alike h s _
  case h_6 => exact l.attemptInput_alike h s _ _ _
  all_goals exact .refl _

/-! ## Calls -/

theorem serve_alike (ticket : Nat) (c : Call) :
    Move.Alike (l.serve g ticket c) (l.serve g' ticket c) := by
  cases c with
  | stop => exact .refl _
  | dispose => exact .refl _
  | start =>
    simp only [serve]
    split
    · exact .refl _
    · split
      · exact .refl _
      · split
        · exact .refl _
        · exact (Move.Alike.refl _).andThen fun l => l.firstAttempt_alike h ticket

theorem serveAll_alike (calls : List (Nat × Call)) :
    Move.Alike (serveAll g calls l) (serveAll g' calls l) := by
  induction calls generalizing l with
  | nil => exact .refl _
  | cons call rest ih =>
    obtain ⟨ticket, c⟩ := call
    refine (l.serve_alike h ticket c).andThen fun l => ?_
    split
    · exact ih l
    · exact .refl _

theorem serveNext_alike : Move.Alike (l.serveNext g) (l.serveNext g') := by
  rw [serveNext, serveNext]
  split
  · exact l.serveAll_alike h l.queue
  · exact .refl _

theorem hear_alike (input : Input) : Move.Alike (l.hear g input) (l.hear g' input) := by
  simp only [hear]
  split
  · exact .refl _
  · split
    · exact l.firstInput_alike h _ _ _
    · exact l.loopInput_alike h _ _
    · exact .refl _

/-- **A listener does not tell tokens apart.** -/
theorem step_alike (input : Input) : Move.Alike (l.step g input) (l.step g' input) :=
  ((l.hear_alike h input).andThen fun l => .refl l.joinLoop).andThen fun l => l.serveNext_alike h

end Inputs

end Appliance.Listener

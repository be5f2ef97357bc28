import Appliance.Proofs.Listener.Turns

/-!
# Rules that logs obey

A rule reads a log line by line. It keeps a note and says, from its note and from the call
that is being served, which line may come next. What every single move obeys is obeyed by
the log of every run.

* `Steady`           — the invariant that ties the loop and disposals to the call that is
  being served.
* `served_writes`    — a log tells which call is being served.
* `Rule`             — a rule; `Rule.Obeys` — a log obeys it.
* `Rule.obeys_log`   — **what every single move obeys, every log obeys.**
-/

namespace Appliance

namespace Listener

/-! ## The call that is being served -/

/-- The call that is being served. -/
def Serving.call? : Serving → Option (Nat × Call)
  | .nothing => none
  | .starting ticket _ => some (ticket, .start)
  | .stopping ticket disposing => some (ticket, endingCall disposing)

@[simp] theorem servedAfter_nil (served : Option (Nat × Call)) : servedAfter served [] = served :=
  rfl

@[simp] theorem servedAfter_cons (served : Option (Nat × Call)) (line : LogLine)
    (lines : List LogLine) :
    servedAfter served (line :: lines) = servedAfter (line.served served) lines := rfl

theorem servedAfter_append (served : Option (Nat × Call)) (lines lines' : List LogLine) :
    servedAfter served (lines ++ lines') = servedAfter (servedAfter served lines) lines' :=
  List.foldl_append

@[simp] theorem servedAfter_shows (served : Option (Nat × Call)) (before after : ListenerState) :
    servedAfter served (shows before after) = served := by
  unfold shows
  split <;> rfl

@[simp] theorem served_ask (served : Option (Nat × Call)) (a : Ask) :
    (LogLine.did a.effect).served served = served := by
  cases a <;> rfl

@[simp] theorem servedAfter_finishLines (served : Option (Nat × Call)) (l : Listener) (ticket : Nat)
    (disposing : Bool) : servedAfter served (l.finishLines ticket disposing) = none := by
  simp [finishLines, servedAfter_append, LogLine.served]

/-- A log tells which call is being served. -/
theorem served_writes {l l' : Listener} {lines : List LogLine} (h : Writes l lines l') :
    servedAfter l.serving.call? lines = l'.serving.call? := by
  cases h with
  | firstAsks a hl => simp [hl, Serving.call?]
  | asks a hl hs hloop => simp [withLoop]
  | leaves hl hs hloop he => rcases he with rfl | rfl <;> rfl
  | joins hl hs he => simp [finished, Serving.call?]
  | settles ticket disposing hl hd hs => simp [finished, Serving.call?]
  | startRefused ticket hl hd => simp [LogLine.served, hl, Serving.call?]
  | startFailed ticket hl hd ht => simp [LogLine.served, hl, Serving.call?]
  | startedAlready ticket hl hd hs => simp [LogLine.served, hl, Serving.call?]
  | disposedAlready ticket hl hd => simp [LogLine.served, hl, Serving.call?]
  | _ => simp [servedAfter_append, LogLine.served, Serving.call?, withLoop]

/-! ## Cancels and disposals -/

/-- `Steady l`: a first attempt is made without a loop, a call waits for a loop that shall
end, and a listener that was disposed of is at rest once that call has been answered. -/
structure Steady (l : Listener) : Prop where
  starting : ∀ ticket stage, l.serving = .starting ticket stage →
    l.supervisor = none ∧ l.disposed = false
  stopping : ∀ ticket disposing, l.serving = .stopping ticket disposing →
    (∃ s, l.supervisor = some s ∧ s.cancelled = true) ∧ (disposing = true → l.disposed = true)
  disposed : l.disposed = true → (∃ ticket, l.serving = .stopping ticket true) ∨
    l.serving = .nothing ∧ l.supervisor = none ∧ l.state = .permanentlyFailed

theorem steady_fresh (backoff : Backoff) (ownsSession : Bool) :
    Steady (fresh backoff ownsSession) where
  starting := by simp [fresh]
  stopping := by simp [fresh]
  disposed := by simp [fresh]

/-- A listener that answers no first attempt and was not disposed of is steady when it
serves nothing. -/
theorem Steady.of_idle {l : Listener} (hl : l.serving = .nothing) (hd : l.disposed = false) :
    Steady l where
  starting := by simp [hl]
  stopping := by simp [hl]
  disposed := by simp [hd]

/-- The loop moves on its own. -/
theorem Steady.of_loop {l l' : Listener} {s s' : Supervisor} (h : Steady l) (hl : Unstarted l)
    (hs : l.supervisor = some s) (hs' : l'.supervisor = some s') (hc : s'.cancelled = s.cancelled)
    (hserving : l'.serving = l.serving) (hd : l'.disposed = l.disposed) : Steady l' where
  starting ticket stage hst := absurd (hserving ▸ hst) (hl ticket stage)
  stopping ticket disposing hst := by
    obtain ⟨⟨s₀, hs₀, hc₀⟩, hdisposed⟩ := h.stopping ticket disposing (hserving ▸ hst)
    obtain rfl : s = s₀ := Option.some.inj (hs.symm.trans hs₀)
    exact ⟨⟨s', hs', hc.trans hc₀⟩, fun ht => hd.trans (hdisposed ht)⟩
  disposed ht := by
    rw [hserving]
    refine (h.disposed (hd ▸ ht)).imp id fun hrest => ?_
    rw [hs] at hrest
    exact absurd hrest.2.1 (by simp)

/-- **Every single move keeps a listener steady.** -/
theorem Steady.of_writes {l l' : Listener} {lines : List LogLine} (h : Steady l)
    (hw : Writes l lines l') : Steady l' := by
  cases hw with
  | queued ticket c => exact ⟨h.starting, h.stopping, h.disposed⟩
  | dequeued queue => exact ⟨h.starting, h.stopping, h.disposed⟩
  | refreshed result => exact h
  | refused f => exact h
  | startRefused ticket hl hd => exact h
  | startFailed ticket hl hd ht => exact h
  | startedAlready ticket hl hd hs => exact h
  | disposedAlready ticket hl hd => exact h
  | starts g ticket stage hl hd ht hs =>
    exact { starting := fun _ _ _ => ⟨hs, hd⟩, stopping := by simp, disposed := by simp [hd] }
  | firstAsks a hl =>
    obtain ⟨hs, hd⟩ := h.starting _ _ hl
    exact { starting := fun _ _ _ => ⟨hs, hd⟩, stopping := by simp, disposed := by simp [hd] }
  | firstFails f hl => exact .of_idle rfl (h.starting _ _ hl).2
  | firstRetries f hl => exact .of_idle rfl (h.starting _ _ hl).2
  | firstOpens channel hl => exact .of_idle rfl (h.starting _ _ hl).2
  | firstBreaks hl => exact .of_idle rfl (h.starting _ _ hl).2
  | begins g stage hl hs hloop => exact h.of_loop hl hs rfl rfl rfl rfl
  | asks a hl hs hloop => exact h.of_loop hl hs rfl rfl rfl rfl
  | fails hl hs hloop => exact h.of_loop hl hs rfl rfl rfl rfl
  | retries f hl hs hloop => exact h.of_loop hl hs rfl rfl rfl rfl
  | opens channel hl hs hloop => exact h.of_loop hl hs rfl rfl rfl rfl
  | breaks hl hs hloop => exact h.of_loop hl hs rfl rfl rfl rfl
  | elapses hl hs hloop => exact h.of_loop hl hs rfl rfl rfl rfl
  | closes reason hl hs hloop => exact h.of_loop hl hs rfl rfl rfl rfl
  | closedEnds hl hs hloop => exact h.of_loop hl hs rfl rfl rfl rfl
  | closedFails hl hs hloop => exact h.of_loop hl hs rfl rfl rfl rfl
  | closedRetries hl hs hloop => exact h.of_loop hl hs rfl rfl rfl rfl
  | leaves hl hs hloop he => exact h.of_loop hl hs rfl rfl rfl rfl
  | waits ticket disposing hl hd hs =>
    refine { starting := by simp, stopping := ?_, disposed := ?_ }
    · intro ticket' disposing' hst
      simp only [Serving.stopping.injEq] at hst
      exact ⟨⟨_, rfl, rfl⟩, fun ht => by simp [hst.2, ht]⟩
    · intro hdisposed
      cases disposing with
      | true => exact .inl ⟨ticket, rfl⟩
      | false =>
        -- a listener that was disposed of has no loop that a stop could wait for
        rw [Bool.or_false] at hdisposed
        rcases h.disposed hdisposed with ⟨_, hst⟩ | ⟨_, hnone, _⟩
        · rw [hl] at hst
          cases hst
        · rw [hs] at hnone
          cases hnone
  | @joins s ticket disposing hl hs he =>
    refine { starting := by simp [finished], stopping := by simp [finished], disposed := ?_ }
    intro hdisposed
    refine .inr ⟨rfl, rfl, ?_⟩
    cases disposing with
    | true => rfl
    | false =>
      rcases h.disposed hdisposed with ⟨_, hst⟩ | ⟨hst, _⟩ <;>
        · rw [hl] at hst
          cases hst
  | settles ticket disposing hl hd hs =>
    refine { starting := by simp [finished], stopping := by simp [finished], disposed := ?_ }
    intro hdisposed
    refine .inr ⟨rfl, rfl, ?_⟩
    cases disposing with
    | true => rfl
    | false =>
      have ht : l.disposed = true := by simpa [finished] using hdisposed
      rcases h.disposed ht with ⟨_, hst⟩ | ⟨_, _, hst⟩
      · rw [hl] at hst
        cases hst
      · simp [finished, rested, hst, ListenerState.isTerminal]

/-! ## Rules -/

/-- A rule about logs. -/
structure Rule (κ : Type) where
  /-- The note after a line that comes while a call is being served. -/
  note : κ → Option (Nat × Call) → LogLine → κ
  /-- Whether the line may come. -/
  Allows : κ → Option (Nat × Call) → LogLine → Prop

namespace Rule

variable {κ : Type}

/-- The note after some lines. -/
def noted (R : Rule κ) (k : κ) (served : Option (Nat × Call)) : List LogLine → κ
  | [] => k
  | line :: rest => R.noted (R.note k served line) (line.served served) rest

/-- `R.Obeys k served lines`: each of the lines may come, one after another. -/
def Obeys (R : Rule κ) (k : κ) (served : Option (Nat × Call)) : List LogLine → Prop
  | [] => True
  | line :: rest =>
    R.Allows k served line ∧ R.Obeys (R.note k served line) (line.served served) rest

section Lines

variable (R : Rule κ)

@[simp] theorem noted_nil (k : κ) (served : Option (Nat × Call)) : R.noted k served [] = k := rfl

@[simp] theorem noted_cons (k : κ) (served : Option (Nat × Call)) (line : LogLine)
    (lines : List LogLine) : R.noted k served (line :: lines) =
      R.noted (R.note k served line) (line.served served) lines := rfl

theorem noted_append (k : κ) (served : Option (Nat × Call)) (lines lines' : List LogLine) :
    R.noted k served (lines ++ lines') =
      R.noted (R.noted k served lines) (servedAfter served lines) lines' := by
  induction lines generalizing k served with
  | nil => rfl
  | cons line rest ih => exact ih _ _

@[simp] theorem obeys_nil (k : κ) (served : Option (Nat × Call)) : R.Obeys k served [] := trivial

@[simp] theorem obeys_cons {k : κ} {served : Option (Nat × Call)} {line : LogLine}
    {lines : List LogLine} : R.Obeys k served (line :: lines) ↔
      R.Allows k served line ∧ R.Obeys (R.note k served line) (line.served served) lines := Iff.rfl

theorem obeys_append {k : κ} {served : Option (Nat × Call)} {lines lines' : List LogLine} :
    R.Obeys k served (lines ++ lines') ↔
      R.Obeys k served lines ∧
        R.Obeys (R.noted k served lines) (servedAfter served lines) lines' := by
  induction lines generalizing k served with
  | nil => simp
  | cons line rest ih => simp only [List.cons_append, obeys_cons, ih, and_assoc]; rfl

end Lines

variable {R : Rule κ}

/-- `R.Leads k served lines k' served'`: the lines may come one after another, and lead
from one note and call that is being served to the other ones. -/
def Leads (R : Rule κ) (k : κ) (served : Option (Nat × Call)) (lines : List LogLine) (k' : κ)
    (served' : Option (Nat × Call)) : Prop :=
  R.Obeys k served lines ∧ R.noted k served lines = k' ∧ servedAfter served lines = served'

theorem Leads.append {k k' k'' : κ} {served served' served'' : Option (Nat × Call)}
    {lines lines' : List LogLine} (h : R.Leads k served lines k' served')
    (h' : R.Leads k' served' lines' k'' served'') :
    R.Leads k served (lines ++ lines') k'' served'' := by
  obtain ⟨ho, rfl, rfl⟩ := h
  obtain ⟨ho', hk, hs⟩ := h'
  exact ⟨R.obeys_append.2 ⟨ho, ho'⟩, by rw [noted_append, hk], by rw [servedAfter_append, hs]⟩

theorem Leads.cons {k k' k'' : κ} {served served' served'' : Option (Nat × Call)} {line : LogLine}
    {lines : List LogLine} (h : R.Leads k served [line] k' served')
    (h' : R.Leads k' served' lines k'' served'') : R.Leads k served (line :: lines) k'' served'' :=
  h.append h'

/-- `R.Kept Fits`: every single move obeys the rule, and takes a note that fits the listener
to one that does. -/
def Kept (R : Rule κ) (Fits : Listener → κ → Prop) : Prop :=
  ∀ {l l' : Listener} {lines : List LogLine} {k : κ}, Steady l → Fits l k → Writes l lines l' →
    R.Obeys k l.serving.call? lines ∧ Fits l' (R.noted k l.serving.call? lines)

/-- Lines that lead to a note that fits do what is asked of a single move. -/
theorem Leads.keeps {Fits : Listener → κ → Prop} {l : Listener} {k k' : κ}
    {served served' : Option (Nat × Call)} {lines : List LogLine}
    (h : R.Leads k served lines k' served') (hfits : Fits l k') :
    R.Obeys k served lines ∧ Fits l (R.noted k served lines) :=
  ⟨h.1, h.2.1 ▸ hfits⟩

theorem Kept.of_writing {Fits : Listener → κ → Prop} (hR : R.Kept Fits) {l l' : Listener}
    {lines : List LogLine} (hw : Writing l lines l') :
    ∀ {k : κ}, Steady l → Fits l k →
      R.Obeys k l.serving.call? lines ∧ Fits l' (R.noted k l.serving.call? lines) ∧ Steady l' ∧
        servedAfter l.serving.call? lines = l'.serving.call? := by
  induction hw with
  | done l => exact fun hsteady hfits => ⟨trivial, hfits, hsteady, rfl⟩
  | next h rest ih =>
    intro k hsteady hfits
    obtain ⟨hobeys, hfits'⟩ := hR hsteady hfits h
    obtain ⟨hobeys', hfits'', hsteady', hserved⟩ := ih (hsteady.of_writes h) hfits'
    rw [obeys_append, noted_append, servedAfter_append, served_writes h]
    exact ⟨⟨hobeys, hobeys'⟩, hfits'', hsteady', hserved⟩

/-- **What every single move obeys, the log of every run obeys.** -/
theorem Kept.obeys_log {Fits : Listener → κ → Prop} (hR : R.Kept Fits) {k : κ} (backoff : Backoff)
    (ownsSession : Bool) (hfits : Fits (fresh backoff ownsSession) k)
    (inputs : List (Glance × Input)) :
    let lines := (fresh backoff ownsSession).log inputs
    let l := ((fresh backoff ownsSession).run inputs).1
    R.Obeys k none lines ∧ Fits l (R.noted k none lines) ∧ Steady l ∧
      servedAfter none lines = l.serving.call? :=
  hR.of_writing (writing_log inputs (coherent_fresh backoff ownsSession))
    (steady_fresh backoff ownsSession) hfits

end Rule

end Listener

end Appliance

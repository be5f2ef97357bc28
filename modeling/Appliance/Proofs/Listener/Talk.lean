import Appliance.Proofs.Listener.Renewal

/-!
# The talk of a listener

Of all that a listener does, its attempts alone talk with the session and the transport. This
file tells them apart from the rest: seen from its attempts a listener rests, with or without a
loop that remembers a refusal, or it waits for an answer. Every run leads from one to another
of these by few rules, whatever calls and channels there are besides.

* `trail` — a history with what the session showed at each line.
* `Progress`, `progress` — how far the attempts of a listener have come.
* `Speaks`, `Spoken` — the rules of its talk, and talk that obeys them.
* `spoken_step`, `spoken_run` — **a listener talks by these rules in every run.**
-/

namespace Appliance.Listener

/-! ## Talk -/

/-- A history, with what the session showed at each line. -/
def trail (l : Listener) : List (Glance × Input) → List (Glance × Entry)
  | [] => []
  | (g, input) :: rest => (l.entries g input).map (g, ·) ++ (l.step g input).1.trail rest

/-- Whether a line is about an attempt: its beginning, what it asks for, or an answer. -/
def Entry.isSpoken : Entry → Bool
  | .heard _ => true
  | .did effect => !effect.isQuiet

/-- The lines that are about attempts. -/
def talk (lines : List (Glance × Entry)) : List (Glance × Entry) :=
  lines.filter fun x => x.2.isSpoken

@[simp] theorem talk_nil : talk [] = [] := rfl

@[simp] theorem talk_append (as bs : List (Glance × Entry)) :
    talk (as ++ bs) = talk as ++ talk bs := List.filter_append ..

/-- Effects as lines of a trail. -/
def done (g : Glance) (effects : List Effect) : List (Glance × Entry) :=
  effects.map fun e => (g, .did e)

@[simp] theorem done_append (g : Glance) (as bs : List Effect) :
    done g (as ++ bs) = done g as ++ done g bs := List.map_append

/-- Quiet effects are not about attempts. -/
theorem talk_done_of_quiet {g : Glance} {effects : List Effect}
    (h : effects.all Effect.isQuiet = true) : talk (done g effects) = [] := by
  refine List.filter_eq_nil_iff.2 fun x hx => ?_
  obtain ⟨e, he, rfl⟩ := List.mem_map.1 hx
  simp [Entry.isSpoken, List.all_eq_true.1 h e he]

theorem talk_done_ask (g : Glance) (a : Ask) : talk (done g [a.effect]) = [(g, .did a.effect)] := by
  cases a <;> rfl

/-! ## How far attempts have come -/

/-- How far the attempts of a listener have come. -/
inductive Progress where
  /-- No attempt is made. A loop that goes on remembers whether the next one shall begin with a
  refresh. -/
  | rests (memory : Option Bool)
  | waits (stage : Stage)
deriving DecidableEq

/-- Where the attempts of a loop stand. -/
def Supervisor.progress (s : Supervisor) : Progress :=
  match s.loop with
  | .ended => .rests none
  | .attempting _ stage => .waits stage
  | _ => .rests (some s.refreshNext)

/-- Where the attempts of a listener stand. -/
def progress (l : Listener) : Progress :=
  match l.serving, l.supervisor with
  | .starting _ stage, _ => .waits stage
  | _, some s => s.progress
  | _, none => .rests none

theorem progress_of_unstarted {l : Listener} (hl : Unstarted l) :
    l.progress = (l.supervisor.map Supervisor.progress).getD (.rests none) := by
  unfold progress
  split
  · rename_i ticket stage hserving
    exact absurd hserving (hl ticket stage)
  · rename_i s hs _
    rw [hs]
    rfl
  · rename_i hs _
    rw [hs]
    rfl

theorem progress_of_loop {l : Listener} (hl : Unstarted l) {s : Supervisor}
    (hs : l.supervisor = some s) : l.progress = s.progress := by
  rw [progress_of_unstarted hl, hs]
  rfl

theorem progress_of_idle {l : Listener} (hl : Unstarted l) (hs : l.supervisor = none) :
    l.progress = .rests none := by
  rw [progress_of_unstarted hl, hs]
  rfl

theorem progress_of_starting {l : Listener} {ticket : Nat} {stage : Stage}
    (hl : l.serving = .starting ticket stage) : l.progress = .waits stage := by
  unfold progress
  rw [hl]

/-! ## The rules -/

/-- `Advances g a lines p`: an attempt that goes on by `a`, while the session shows `g`, adds
`lines` and leads to `p`. -/
inductive Advances (g : Glance) : Advance → List (Glance × Entry) → Progress → Prop
  | asks (a : Ask) : Advances g (.asks a) [(g, .did a.effect)] (.waits a.stage)
  /-- A fault that may pass is remembered as a refusal or not. -/
  | fails (f : Fault) :
      Advances g (.fails f) [] (.rests (if f.isFatal then none else some f.isTokenRefused))

/-- `Takes g turn lines p`: an attempt that takes the turn adds `lines` and leads to `p`. -/
inductive Takes (g : Glance) : Turn → List (Glance × Entry) → Progress → Prop
  | advances {a : Advance} {lines : List (Glance × Entry)} {p : Progress}
      (h : Advances g a lines p) : Takes g (.advances a) lines p
  | opens (channel : Nat) : Takes g (.opens channel) [] (.rests (some false))
  | breaks : Takes g .breaks [] (.rests none)

/-- `Speaks p lines p'`: one thing leads from `p` to `p'` and adds the lines to the talk. -/
inductive Speaks : Progress → List (Glance × Entry) → Progress → Prop
  /-- The loop ends, and whatever it waits for is not wanted any more. -/
  | forgets (p : Progress) : Speaks p [] (.rests none)
  | beginsFirst {g : Glance} {lines : List (Glance × Entry)} {p : Progress}
      (h : Advances g (beginAttempt g false) lines p) :
      Speaks (.rests none) ((g, .did (.attempt true g)) :: lines) p
  | beginsAgain {g : Glance} {memory : Bool} {lines : List (Glance × Entry)} {p : Progress}
      (h : Advances g (beginAttempt g memory) lines p) :
      Speaks (.rests (some memory)) ((g, .did (.attempt false g)) :: lines) p
  | turns {g : Glance} {stage : Stage} {i : Input} {turn : Turn}
      {lines : List (Glance × Entry)} {p : Progress} (ht : turn? g stage i = some turn)
      (h : Takes g turn lines p) : Speaks (.waits stage) ((g, .heard i) :: lines) p

/-- `Spoken p lines p'`: things that happen one after another lead from `p` to `p'` and add the
lines to the talk. -/
inductive Spoken : Progress → List (Glance × Entry) → Progress → Prop
  | nil (p : Progress) : Spoken p [] p
  | cons {p p' p'' : Progress} {lines more : List (Glance × Entry)} (h : Speaks p lines p')
      (rest : Spoken p' more p'') : Spoken p (lines ++ more) p''

theorem Speaks.spoken {p p' : Progress} {lines : List (Glance × Entry)} (h : Speaks p lines p') :
    Spoken p lines p' := by
  have hspoken := Spoken.cons h (.nil p')
  rwa [List.append_nil] at hspoken

theorem Spoken.trans {p p' p'' : Progress} {lines more : List (Glance × Entry)}
    (h : Spoken p lines p') (h' : Spoken p' more p'') : Spoken p (lines ++ more) p'' := by
  induction h with
  | nil p => exact h'
  | cons h _ ih =>
    rw [List.append_assoc]
    exact .cons h (ih h')

/-! ## Moves -/

section Moves

variable {g : Glance} {l : Listener} {m : Move}

/-- A move that is not about attempts leaves them where they stand, or ends them. -/
theorem spoken_of_quiet (hq : m.2.all Effect.isQuiet = true)
    (hp : m.1.progress = l.progress ∨ m.1.progress = .rests none) :
    Spoken l.progress (talk (done g m.2)) m.1.progress := by
  rw [talk_done_of_quiet hq]
  rcases hp with hp | hp
  · rw [hp]
    exact .nil _
  · rw [hp]
    exact (Speaks.forgets _).spoken

/-- A failed attempt leaves it to the loop, if it goes on, what it remembers. -/
theorem advances_of_fails {f : Fault} (hq : m.2.all Effect.isQuiet = true)
    (hp : m.1.progress = .rests (if f.isFatal then none else some f.isTokenRefused)) :
    Advances g (.fails f) (talk (done g m.2)) m.1.progress := by
  rw [talk_done_of_quiet hq, hp]
  exact .fails f

theorem advances_firstAdvance (hs : l.supervisor = none) (ticket : Nat) (a : Advance) :
    Advances g a (talk (done g (l.firstAdvance ticket a).2))
      (l.firstAdvance ticket a).1.progress := by
  cases a with
  | asks a =>
    simp only [firstAdvance]
    rw [talk_done_ask, progress_of_starting rfl]
    exact .asks a
  | fails f =>
    simp only [firstAdvance, firstFailed]
    split
    · rename_i hf
      refine advances_of_fails (by simp [Effect.isQuiet]) ?_
      rw [if_pos hf]
      exact progress_of_idle (fun _ _ => by simp) hs
    · rename_i hf
      refine advances_of_fails (by simp [Effect.isQuiet]) ?_
      rw [if_neg hf]
      rfl

theorem advances_attemptAdvance (hl : Unstarted l) (s : Supervisor) (attempt : Nat)
    (a : Advance) :
    Advances g a (talk (done g (l.attemptAdvance s attempt a).2))
      (l.attemptAdvance s attempt a).1.progress := by
  cases a with
  | asks a =>
    simp only [attemptAdvance]
    rw [talk_done_ask, progress_of_loop (l := l.withLoop s _) hl rfl]
    exact .asks a
  | fails f =>
    simp only [attemptAdvance, attemptFailed]
    split
    · rename_i hf
      refine advances_of_fails (by simp) ?_
      rw [if_pos hf]
      exact progress_of_loop (l := ((l.withLoop s .ended).goto _).1) hl rfl
    · rename_i hf
      refine advances_of_fails (by simp [Effect.isQuiet]) ?_
      rw [if_neg hf]
      exact progress_of_loop (l := ((l.withLoop _ (.waiting _)).goto _).1) hl rfl

/-- A turn that ends the attempt. -/
theorem takes_of_quiet {turn : Turn} {p : Progress} (h : Takes g turn [] p)
    (hq : m.2.all Effect.isQuiet = true) (hp : m.1.progress = p) :
    Takes g turn (talk (done g m.2)) m.1.progress := by
  rw [talk_done_of_quiet hq, hp]
  exact h

theorem takes_firstTurn (hs : l.supervisor = none) (ticket : Nat) (turn : Turn) :
    Takes g turn (talk (done g (l.firstTurn ticket turn).2))
      (l.firstTurn ticket turn).1.progress := by
  cases turn with
  | advances a => exact .advances (advances_firstAdvance hs ticket a)
  | opens channel =>
    exact takes_of_quiet (.opens channel) (by simp [firstTurn, firstOpened, Effect.isQuiet]) rfl
  | breaks =>
    refine takes_of_quiet .breaks (by simp [firstTurn, Effect.isQuiet]) ?_
    exact progress_of_idle (fun _ _ => by simp [firstTurn]) hs

theorem takes_attemptTurn (hl : Unstarted l) (s : Supervisor) (attempt : Nat) (turn : Turn) :
    Takes g turn (talk (done g (l.attemptTurn s attempt turn).2))
      (l.attemptTurn s attempt turn).1.progress := by
  cases turn with
  | advances a => exact .advances (advances_attemptAdvance hl s attempt a)
  | opens channel =>
    refine takes_of_quiet (.opens channel) (by simp [attemptTurn, attemptOpened]) ?_
    exact progress_of_loop (l := (l.attemptOpened s channel).1) hl rfl
  | breaks =>
    refine takes_of_quiet .breaks (by simp [attemptTurn]) ?_
    exact progress_of_loop (l := l.withLoop s .ended) hl rfl

/-! ### The loop -/

section Loop

variable {s : Supervisor} (hl : Unstarted l) (hs : l.supervisor = some s)
include hl hs

theorem spoken_notice :
    Spoken l.progress (talk (done g (l.notice s).2)) (l.notice s).1.progress := by
  have hp := progress_of_loop hl hs
  -- wherever the loop is moved to, the listener stands there
  have hmoved : ∀ loop, (l.withLoop s loop).progress = Supervisor.progress { s with loop } :=
    fun loop => progress_of_loop (l := l.withLoop s loop) hl rfl
  unfold notice
  split
  · rename_i channel hloop
    refine spoken_of_quiet (by simp [Effect.isQuiet]) (.inl ?_)
    rw [hmoved, hp, Supervisor.progress, Supervisor.progress, hloop]
  · exact spoken_of_quiet (by simp [Effect.isQuiet]) (.inr (hmoved _))
  · exact spoken_of_quiet (by simp [Effect.isQuiet]) (.inr (hmoved _))
  · exact spoken_of_quiet (by simp) (.inr (hmoved _))
  · exact spoken_of_quiet (by simp) (.inl rfl)
  · exact spoken_of_quiet (by simp) (.inl rfl)

theorem spoken_channelClosed {channel : Nat} {reason : Option DisconnectReason}
    (hloop : s.loop = .closing channel reason) :
    Spoken l.progress (talk (done g (l.channelClosed s channel reason).2))
      (l.channelClosed s channel reason).1.progress := by
  have hp := progress_of_loop hl hs
  have hmoved : ∀ loop state, ({ l.withLoop s loop with state } : Listener).progress =
      Supervisor.progress { s with loop } :=
    fun loop state => progress_of_loop (l := { l.withLoop s loop with state }) hl rfl
  unfold channelClosed
  split
  · exact spoken_of_quiet (by simp [Effect.isQuiet]) (.inr (hmoved _ l.state))
  · split
    · exact spoken_of_quiet (by simp [Effect.isQuiet]) (.inr (hmoved _ _))
    · split
      · exact spoken_of_quiet (by simp [Effect.isQuiet]) (.inr (hmoved _ l.state))
      · refine spoken_of_quiet (by simp [Effect.isQuiet]) (.inl ?_)
        refine (hmoved _ _).trans ?_
        rw [hp, Supervisor.progress, Supervisor.progress, hloop]

theorem spoken_loopAttempt {attempt : Nat} (hloop : s.loop = .ready attempt) :
    Spoken l.progress (talk (done g (l.loopAttempt g s attempt).2))
      (l.loopAttempt g s attempt).1.progress := by
  have hp : l.progress = .rests (some s.refreshNext) := by
    rw [progress_of_loop hl hs, Supervisor.progress, hloop]
  rw [hp]
  exact (Speaks.beginsAgain (advances_attemptAdvance hl s attempt _)).spoken

end Loop

/-! ### Inputs -/

/-- The loop takes an answer by taking a turn, and nothing else that it takes is an answer. -/
theorem isAnswer_of_loopHears {i : Input} {s : Supervisor} (hl : Unstarted l)
    (hs : l.supervisor = some s) (hm : LoopHears g i l s m) :
    l.isAnswer i = false ∨ ∃ attempt stage turn, s.loop = .attempting attempt stage ∧
      turn? g stage i = some turn ∧ m = l.attemptTurn s attempt turn := by
  have hanswer : l.isAnswer i = s.loop.stage?.any (·.isEndedBy i) := by
    rw [isAnswer, stage?_of_unstarted hl, hs]
    rfl
  cases hm with
  | noticed _ hi =>
    refine .inl ?_
    rw [hanswer, hi]
    cases s.loop.stage? with
    | none => rfl
    | some stage => cases stage <;> rfl
  | fell hloop | closed hloop | elapsed hloop | began hloop =>
    exact .inl (by simp [hanswer, hloop, Loop.stage?])
  | turned hloop ht => exact .inr ⟨_, _, _, hloop, ht, rfl⟩

theorem spoken_loopHears {i : Input} {s : Supervisor} (hl : Unstarted l)
    (hs : l.supervisor = some s) (hm : LoopHears g i l s m) :
    Spoken l.progress
      (talk ((if l.isAnswer i then [(g, .heard i)] else []) ++ done g m.2)) m.1.progress := by
  have hp := progress_of_loop hl hs
  rcases isAnswer_of_loopHears hl hs hm with hno | ⟨attempt, stage, turn, hloop, ht, rfl⟩
  · rw [hno]
    have hmoved : ∀ loop state, ({ l.withLoop s loop with state } : Listener).progress =
        Supervisor.progress { s with loop } :=
      fun loop state => progress_of_loop (l := { l.withLoop s loop with state }) hl rfl
    cases hm with
    | noticed => exact spoken_notice hl hs
    | fell hloop hi =>
      refine spoken_of_quiet (by simp [Effect.isQuiet]) (.inl ((hmoved _ l.state).trans ?_))
      rw [hp, Supervisor.progress, Supervisor.progress, hloop]
    | closed hloop hi => exact spoken_channelClosed hl hs hloop
    | elapsed hloop hi =>
      refine spoken_of_quiet (by simp) (.inl ((hmoved _ _).trans ?_))
      rw [hp, Supervisor.progress, Supervisor.progress, hloop]
    | began hloop hi => exact spoken_loopAttempt hl hs hloop
    | turned hloop ht =>
      have hyes := isAnswer_of_turn (l := l) (i := i) (by
        rw [stage?_of_unstarted hl, hs, Option.bind_some, hloop]
        rfl) ht
      simp [hyes] at hno
  · have hstage : l.stage? = some stage := by
      rw [stage?_of_unstarted hl, hs, Option.bind_some, hloop]
      rfl
    have hwaits : l.progress = .waits stage := by rw [hp, Supervisor.progress, hloop]
    rw [isAnswer_of_turn hstage ht, hwaits, if_pos rfl, talk_append]
    exact (Speaks.turns ht (takes_attemptTurn hl s attempt turn)).spoken

/-- What an input does is talk by the rules. -/
theorem spoken_hears {i : Input} (hc : Coherent l) (hm : Hears g i l m) :
    Spoken l.progress
      (talk ((if l.isAnswer i then [(g, .heard i)] else []) ++ done g m.2)) m.1.progress := by
  cases hm with
  | nothing hi =>
    rw [hi]
    exact .nil _
  | queued hi =>
    have hno : l.isAnswer i = false := by
      rw [isAnswer, hi]
      cases l.stage? with
      | none => rfl
      | some stage => cases stage <;> rfl
    rw [hno]
    exact .nil _
  | firstTurn hl ht =>
    obtain ⟨hs, -⟩ := hc.starting _ _ hl
    rw [isAnswer_of_turn (stage?_of_starting hl) ht, progress_of_starting hl, if_pos rfl,
      talk_append]
    exact (Speaks.turns ht (takes_firstTurn hs _ _)).spoken
  | looped hl hs hm => exact spoken_loopHears hl hs hm

/-! ### Calls -/

theorem spoken_finishStop (ticket : Nat) (disposing : Bool) :
    Spoken l.progress (talk (done g (l.finishStop ticket disposing).2))
      (l.finishStop ticket disposing).1.progress := by
  refine spoken_of_quiet (quiet_finishStop l ticket disposing) (.inr (progress_of_idle ?_ ?_))
  · exact fun _ _ => by simp [finishStop]
  · cases disposing <;> simp [finishStop, afterLoop_fst, dismiss_fst]

theorem spoken_beginStop (hl : Unstarted l) (ticket : Nat) (disposing : Bool) :
    Spoken l.progress (talk (done g (l.beginStop ticket disposing).2))
      (l.beginStop ticket disposing).1.progress := by
  unfold beginStop
  split
  · exact spoken_finishStop ticket disposing
  · rename_i s hs
    split
    · exact spoken_finishStop ticket disposing
    · refine spoken_of_quiet (by simp) (.inl ?_)
      rw [progress_of_loop hl hs]
      rfl

theorem spoken_begins {ticket : Nat} {c : Call} (hl : Unstarted l)
    (hm : Begins g ticket l c m) : Spoken l.progress (talk (done g m.2)) m.1.progress := by
  cases hm with
  | answered result =>
    refine spoken_of_quiet (by simp [Effect.isQuiet]) (.inl ?_)
    rw [progress_of_unstarted hl]
    exact progress_of_unstarted fun _ _ => by simp
  | started ht hs =>
    rw [progress_of_idle hl hs, andThen_snd, done_append, talk_append,
      talk_done_of_quiet (all_isQuiet_goto _ _)]
    exact (Speaks.beginsFirst
      (advances_firstAdvance (l := (l.goto .connecting).1) hs ticket _)).spoken
  | stopped => exact spoken_beginStop hl ticket false
  | disposed => exact spoken_beginStop (l := { l with disposed := true }) hl ticket true

/-- What is served is talk by the rules. -/
theorem spoken_served {calls : List (Nat × Call)} (hm : Served g calls l m) :
    Spoken l.progress (talk (done g m.2)) m.1.progress := by
  cases hm with
  | joined => exact spoken_finishStop _ _
  | called hl => exact spoken_begins (fun _ _ => by simp [hl]) (begins_serve l g _ _)
  | dequeued => exact .nil _

end Moves

/-! ## Runs -/

theorem composes_spoken (g : Glance) :
    Composes fun l effects l' => Spoken l.progress (talk (done g effects)) l'.progress where
  refl l := .nil _
  trans h h' := by
    rw [done_append, talk_append]
    exact h.trans h'

/-- **Every step talks by the rules.** -/
theorem spoken_step {l : Listener} (hc : Coherent l) (g : Glance) (i : Input) :
    Spoken l.progress (talk ((l.entries g i).map (g, ·))) (l.step g i).1.progress := by
  obtain ⟨effects, hserves, heffects⟩ := step_parts l g i
  have hheard := spoken_hears hc (hears_hear l g i)
  have hserved := rel_serves (composes_spoken g) (fun _ _ hm => spoken_served hm) hserves
  have hlines : (l.entries g i).map (g, ·) =
      (if l.isAnswer i then [(g, .heard i)] else []) ++ done g (l.hear g i).2 ++
        done g effects := by
    rw [entries, heffects, List.map_append, List.map_append, done, done, List.map_append]
    split <;> simp [Function.comp_def]
  rw [hlines, talk_append]
  exact hheard.trans hserved

/-- **Every run talks by the rules.** -/
theorem spoken_run {l : Listener} (hc : Coherent l) (inputs : List (Glance × Input)) :
    Spoken l.progress (talk (l.trail inputs)) (l.run inputs).1.progress := by
  induction inputs generalizing l with
  | nil => exact .nil _
  | cons input rest ih =>
    rw [trail, talk_append]
    exact (spoken_step hc input.1 input.2).trans (ih (walks_step l input.1 input.2 hc).1)

end Appliance.Listener

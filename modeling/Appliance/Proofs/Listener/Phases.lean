import Appliance.Proofs.Listener.Channels
import Appliance.Proofs.Listener.Quiescence

/-!
# What a step does to a channel and to an opening

While a listener holds a channel, or waits for the channel to close, its log is quiet: it
shows no state but `connected` and asks for no other channel. The log stays so until the
channel has closed. An opening is under way only as long as an attempt waits for it.

* `LogLine.Quiet`, `Phase.On` — such a line, and the phases of one channel.
* `phase_step` — **a step is quiet and leaves the channel to the listener, or the channel
  has closed.**
* `phase_step_shut`, `phase_step_opened` — a channel comes from the transport only.
* `stage_step` — **an opening that is under way after a step is waited for.**
* `step_call_of_opening` — a call that comes during an opening is at most answered.
* `state_step` — the state is the one that the log shows.
-/

namespace Appliance

namespace Listener

/-! ## Quiet lines -/

/-- `line.Quiet`: the line may come while a channel is held. -/
def LogLine.Quiet : LogLine → Prop
  | .did (.show state) => state = .connected
  | .did (.openChannel _) => False
  | _ => True

/-- `p.On n`: the channel of the phase is the channel `n`. -/
def Phase.On (p : Phase) (n : Nat) : Prop := p = .held n ∨ p = .ending n

theorem not_on_shut (n : Nat) : ¬Phase.shut.On n := by
  rintro (h | h) <;> cases h

theorem Phase.shut_or_on (p : Phase) : p = .shut ∨ ∃ n, p.On n := by
  cases p with
  | shut => exact .inl rfl
  | held n => exact .inr ⟨n, .inl rfl⟩
  | ending n => exact .inr ⟨n, .inr rfl⟩

theorem Phase.On.unique {p : Phase} {n m : Nat} (h : p.On n) (h' : p.On m) : n = m := by
  rcases h with rfl | rfl <;> rcases h' with h' | h' <;> cases h' <;> rfl

section Lines

variable {lines : List LogLine} {k : ChannelNote} {served : Option (Nat × Call)}

/-- A line that may come while there is a channel is quiet, and leaves the channel where it
is or asks it to close, unless it has closed. -/
theorem quiet_of_allows {line : LogLine} {n : Nat} (h : k.phase.Allows served line)
    (hon : k.phase.On n) (hne : line ≠ .heard (.closed n)) :
    line.Quiet ∧ (k.next served line).phase.On n := by
  have hshut : k.phase ≠ .shut := by
    intro hp
    rw [hp] at hon
    exact not_on_shut n hon
  cases line with
  | turn ticket c => exact ⟨trivial, hon⟩
  | heard i =>
    cases i with
    | opened result =>
      cases result with
      | ok channel => exact absurd h hshut
      | error f => exact ⟨trivial, hon⟩
    | closed channel =>
      have hp : k.phase = .ending channel := h
      obtain rfl := hon.unique (.inr hp)
      exact absurd rfl hne
    | _ => exact ⟨trivial, hon⟩
  | did effect =>
    cases effect with
    | «show» state => exact ⟨h.resolve_right hshut, hon⟩
    | openChannel token => exact absurd h hshut
    | close channel =>
      have hp : k.phase = .held channel := h
      obtain rfl := hon.unique (.inl hp)
      exact ⟨trivial, .inr rfl⟩
    | reply ticket result => cases result <;> exact ⟨trivial, hon⟩
    | _ => exact ⟨trivial, hon⟩

/-- Lines that come while there is a channel are quiet, until it has closed. -/
theorem quiet_of_obeys {n : Nat} (h : channelRule.Obeys k served lines) (hon : k.phase.On n)
    (hlines : .heard (.closed n) ∉ lines) :
    (∀ line ∈ lines, line.Quiet) ∧ (channelRule.noted k served lines).phase.On n := by
  induction lines generalizing k served with
  | nil => exact ⟨by simp, hon⟩
  | cons line rest ih =>
    obtain ⟨hline, hnext⟩ := quiet_of_allows h.1.1 hon fun he => hlines (he ▸ List.mem_cons_self)
    obtain ⟨hrest, hlast⟩ := ih h.2 hnext fun hm => hlines (List.mem_cons_of_mem _ hm)
    exact ⟨List.forall_mem_cons.2 ⟨hline, hrest⟩, hlast⟩

/-- A line that may come while there is no channel brings none, unless one has opened. -/
theorem shut_of_allows {line : LogLine} (h : k.phase.Allows served line) (hp : k.phase = .shut)
    (hne : ∀ n, line ≠ .heard (.opened (.ok n))) : (k.next served line).phase = .shut := by
  cases line with
  | turn ticket c => exact hp
  | heard i =>
    cases i with
    | opened result =>
      cases result with
      | ok channel => exact absurd rfl (hne channel)
      | error f => exact hp
    | closed channel => rfl
    | _ => exact hp
  | did effect =>
    cases effect with
    | close channel =>
      have hheld : k.phase = .held channel := h
      rw [hp] at hheld
      cases hheld
    | reply ticket result => cases result <;> exact hp
    | _ => exact hp

theorem shut_of_obeys (h : channelRule.Obeys k served lines) (hp : k.phase = .shut)
    (hlines : ∀ n, .heard (.opened (.ok n)) ∉ lines) :
    (channelRule.noted k served lines).phase = .shut := by
  induction lines generalizing k served with
  | nil => exact hp
  | cons line rest ih =>
    refine ih h.2 (shut_of_allows h.1.1 hp fun n he => hlines n (he ▸ List.mem_cons_self)) ?_
    exact fun n hm => hlines n (List.mem_cons_of_mem _ hm)

end Lines

/-! ## What a step writes down -/

theorem heard_not_mem_serveLog (i : Input) (g : Glance) (queue : List (Nat × Call))
    (l : Listener) : .heard i ∉ serveLog g queue l := by
  induction queue generalizing l with
  | nil => simp [serveLog]
  | cons call rest ih =>
    obtain ⟨ticket, c⟩ := call
    simp only [serveLog]
    split
    · simp [ih]
    · simp

/-- What a step adds to the log: its input, if that is awaited, and then nothing that is
heard. -/
theorem stepLog_eq (l : Listener) (g : Glance) (i : Input) :
    ∃ rest, l.stepLog g i = (if l.isAwaited i then [.heard i] else []) ++ rest ∧
      ∀ i', .heard i' ∉ rest := by
  let joined := (l.hear g i).1.joinLoop
  refine ⟨(l.hear g i).2.map .did ++ (joined.2.map .did ++
    if joined.1.serving = .nothing then serveLog g joined.1.queue joined.1 else []), ?_, ?_⟩
  · simp only [stepLog, List.append_assoc, joined]
  · intro i'
    split
    · simp [heard_not_mem_serveLog]
    · simp

theorem eq_of_heard_mem_stepLog {l : Listener} {g : Glance} {i i' : Input}
    (h : .heard i' ∈ l.stepLog g i) : i' = i ∧ l.isAwaited i = true := by
  obtain ⟨rest, heq, hrest⟩ := stepLog_eq l g i
  rw [heq] at h
  rcases List.mem_append.1 h with h | h
  · split at h
    · next hawaited => exact ⟨by simpa using h, hawaited⟩
    · simp at h
  · exact absurd h (hrest i')

section Steps

variable {l : Listener} (hc : Coherent l) (hsteady : Steady l) (g : Glance)
include hc

/-- The state is the one that the log shows. -/
theorem state_step (i : Input) : (l.step g i).1.state = shownAfter l.state (l.stepLog g i) := by
  have hwalk := (walks_step l g i hc).2
  rw [shownAfter_eq_getLast, effects_stepLog]
  exact hwalk.getLast_eq.symm

include hsteady

/-- A step obeys the rule of channels. -/
theorem obeys_stepLog (i : Input) :
    let k : ChannelNote := ⟨l.phase, l.supervisor.isSome⟩
    channelRule.Obeys k l.serving.call? (l.stepLog g i) ∧
      (l.step g i).1.phase =
        (channelRule.noted k l.serving.call? (l.stepLog g i)).phase ∧
      Steady (l.step g i).1 := by
  intro k
  have hk : NotesChannel l k := ⟨rfl, rfl⟩
  obtain ⟨hobeys, hnoted, hsteady', -⟩ :=
    kept_channelRule.of_writing (writing_stepLog hc g i) hsteady hk
  exact ⟨hobeys, hnoted.phase.symm, hsteady'⟩

/-- **What a step does to a channel.** It is quiet and leaves the channel to the listener,
or the channel has closed. -/
theorem phase_step {n : Nat} (hon : l.phase.On n) (i : Input) :
    ((∀ line ∈ l.stepLog g i, line.Quiet) ∧ (l.step g i).1.phase.On n) ∨
      (i = .closed n ∧ (l.step g i).1.phase = .shut) := by
  obtain ⟨hobeys, hphase, -⟩ := obeys_stepLog hc hsteady g i
  by_cases hclosed : .heard (.closed n) ∈ l.stepLog g i
  · obtain ⟨rfl, hawaited⟩ := eq_of_heard_mem_stepLog hclosed
    refine .inr ⟨rfl, ?_⟩
    obtain ⟨rest, heq, hrest⟩ := stepLog_eq l g (.closed n)
    rw [if_pos hawaited, List.singleton_append] at heq
    rw [hphase, heq, channelRule.noted_cons]
    rw [heq] at hobeys
    exact shut_of_obeys hobeys.2 rfl fun m => hrest _
  · obtain ⟨hquiet, hon'⟩ := quiet_of_obeys hobeys hon hclosed
    exact .inl ⟨hquiet, hphase ▸ hon'⟩

/-- Without a channel there is none after a step, unless one has opened. -/
theorem phase_step_shut (hp : l.phase = .shut) {i : Input} (hi : ∀ n, i ≠ .opened (.ok n)) :
    (l.step g i).1.phase = .shut := by
  obtain ⟨hobeys, hphase, -⟩ := obeys_stepLog hc hsteady g i
  rw [hphase]
  refine shut_of_obeys hobeys hp fun n hm => ?_
  exact hi n (eq_of_heard_mem_stepLog hm).1.symm

/-- A channel that was waited for is the listener's. -/
theorem phase_step_opened (hstage : l.stage? = some .opening) (n : Nat) :
    (∀ line ∈ l.stepLog g (.opened (.ok n)), line.Quiet) ∧
      (l.step g (.opened (.ok n))).1.phase.On n := by
  obtain ⟨hobeys, hphase, -⟩ := obeys_stepLog hc hsteady g (.opened (.ok n))
  have hawaited : l.isAwaited (.opened (.ok n)) = true := by
    simp [isAwaited, isAnswer, hstage, Stage.isEndedBy]
  obtain ⟨rest, heq, hrest⟩ := stepLog_eq l g (.opened (.ok n))
  rw [if_pos hawaited, List.singleton_append] at heq
  rw [hphase, heq, channelRule.noted_cons]
  rw [heq] at hobeys
  obtain ⟨hquiet, hon⟩ := quiet_of_obeys hobeys.2 (.inl rfl) (hrest _)
  exact ⟨List.forall_mem_cons.2 ⟨trivial, hquiet⟩, hon⟩

end Steps

/-! ## Openings -/

/-- A listener that waits for something to open shows that it is connecting, and has no
channel. -/
theorem Coherent.of_stage {l : Listener} (hc : Coherent l) {stage : Stage}
    (h : l.stage? = some stage) : l.phase = .shut ∧ l.state = .connecting := by
  by_cases hl : Unstarted l
  · rw [stage?_of_unstarted hl] at h
    obtain ⟨s, hs, hstage⟩ := Option.bind_eq_some_iff.1 h
    have hplaced := hc.placed s hs
    cases hloop : s.loop <;> simp [hloop, Loop.stage?] at hstage
    rw [hloop] at hplaced
    refine ⟨?_, hplaced _ rfl⟩
    rw [phase_of_some hs, hloop]
    rfl
  · simp only [Unstarted, not_forall, not_not] at hl
    obtain ⟨ticket, stage', hserving⟩ := hl
    obtain ⟨hs, hst⟩ := hc.starting ticket stage' hserving
    exact ⟨phase_of_none hs, hst⟩

/-- Whether an opening is under way after some effects, given whether one was before them. -/
def opensAfter (opening : Bool) (effects : List Effect) : Bool :=
  effects.foldl (fun opening effect =>
    match effect with
    | .openChannel _ => true
    | .abandon => false
    | _ => opening) opening

@[simp] theorem opensAfter_nil (opening : Bool) : opensAfter opening [] = opening := rfl

theorem opensAfter_append (opening : Bool) (effects effects' : List Effect) :
    opensAfter opening (effects ++ effects') =
      opensAfter (opensAfter opening effects) effects' := List.foldl_append

/-- `effect.Shut`: the effect asks for no channel. -/
def Effect.Shut : Effect → Prop
  | .openChannel _ => False
  | _ => True

theorem opensAfter_of_shut {effects : List Effect} (h : ∀ e ∈ effects, e.Shut) :
    opensAfter false effects = false := by
  induction effects with
  | nil => rfl
  | cons effect rest ih =>
    have hrest := ih fun e he => h e (List.mem_cons_of_mem _ he)
    have heffect := h effect List.mem_cons_self
    cases effect with
    | openChannel token => exact heffect.elim
    | _ => exact hrest

theorem shut_goto (l : Listener) (next : ListenerState) : ∀ e ∈ (l.goto next).2, e.Shut := by
  rw [goto_snd]
  split <;> simp [Effect.Shut]

/-- `Waits opening m`: an opening that is under way after the move `m` is waited for, if one
is under way before it or not. -/
def Waits (opening : Bool) (m : Move) : Prop :=
  opensAfter opening m.2 = true → m.1.stage? = some .opening

theorem Waits.of_shut {m : Move} (h : ∀ e ∈ m.2, e.Shut) : Waits false m := by
  intro ho
  rw [opensAfter_of_shut h] at ho
  cases ho

/-- A move that leaves the opening alone, and what is waited for. -/
theorem Waits.of_eq {l : Listener} {opening : Bool} (ho : opening = true → l.stage? = some .opening)
    {m : Move} (he : m.2 = []) (hs : m.1.stage? = l.stage?) : Waits opening m := by
  intro h
  rw [he] at h
  rw [hs]
  exact ho h

theorem stage?_withLoop {l : Listener} (hl : Unstarted l) (s : Supervisor) (loop : Loop) :
    (l.withLoop s loop).stage? = loop.stage? := stage?_of_unstarted (l := l.withLoop s loop) hl

theorem waits_firstAdvance (l : Listener) (ticket : Nat) (a : Advance) :
    Waits false (l.firstAdvance ticket a) := by
  cases a with
  | asks a =>
    cases a with
    | refresh => exact .of_shut (by simp [firstAdvance, Ask.effect, Effect.Shut])
    | openChannel token => exact fun _ => rfl
  | fails f =>
    refine .of_shut ?_
    show ∀ e ∈ (l.firstFailed ticket f).2, e.Shut
    unfold firstFailed
    split
    · exact List.forall_mem_append.2 ⟨shut_goto _ _, by simp [Effect.Shut]⟩
    · exact List.forall_mem_append.2
        ⟨List.forall_mem_append.2 ⟨shut_goto _ _, by simp [Effect.Shut]⟩, by simp [Effect.Shut]⟩

theorem waits_attemptAdvance {l : Listener} (hl : Unstarted l) (s : Supervisor) (attempt : Nat)
    (a : Advance) : Waits false (l.attemptAdvance s attempt a) := by
  cases a with
  | asks a =>
    cases a with
    | refresh => exact .of_shut (by simp [attemptAdvance, Ask.effect, Effect.Shut])
    | openChannel token => exact fun _ => stage?_withLoop hl s (.attempting attempt .opening)
  | fails f =>
    refine .of_shut ?_
    show ∀ e ∈ (l.attemptFailed s attempt f).2, e.Shut
    unfold attemptFailed
    split
    · exact shut_goto _ _
    · exact List.forall_mem_append.2 ⟨shut_goto _ _, by simp [Effect.Shut]⟩

theorem shut_channelClosed (l : Listener) (s : Supervisor) (channel : Nat)
    (reason : Option DisconnectReason) : ∀ e ∈ (l.channelClosed s channel reason).2, e.Shut := by
  unfold channelClosed
  split
  · simp [Effect.Shut]
  · split
    · exact List.forall_mem_append.2 ⟨shut_goto _ _, by simp [Effect.Shut]⟩
    · split
      · simp [Effect.Shut]
      · exact List.forall_mem_append.2 ⟨shut_goto _ _, by simp [Effect.Shut]⟩

theorem shut_finishStop (l : Listener) (ticket : Nat) (disposing : Bool) :
    ∀ e ∈ (l.finishStop ticket disposing).2, e.Shut := by
  intro e he
  have hline : .did e ∈ l.finishLines ticket disposing := by
    rw [← map_did_finishStop]
    exact List.mem_map_of_mem he
  cases e with
  | openChannel token =>
    cases disposing <;> cases ho : l.ownsSession <;> simp [finishLines, shows, ho] at hline
  | _ => exact trivial

section Moves

variable {l : Listener} {opening : Bool} (ho : opening = true → l.stage? = some .opening)
include ho

/-- Where nothing is waited for to open, nothing is. -/
theorem opening_eq_false {stage? : Option Stage} (h : l.stage? = stage?)
    (hne : stage? ≠ some .opening) : opening = false := by
  cases hopening : opening with
  | false => rfl
  | true => exact absurd (h ▸ ho hopening) hne

theorem waits_loopHears {g : Glance} {i : Input} {s : Supervisor} {m : Move} (hl : Unstarted l)
    (hs : l.supervisor = some s) (hi : ∀ result, i = .opened result → opening = false)
    (hm : LoopHears g i l s m) : Waits opening m := by
  have hstage : l.stage? = s.loop.stage? := by rw [stage?_of_unstarted hl, hs]; rfl
  cases hm with
  | noticed _ _ =>
    unfold notice
    split
    · next hloop =>
      rw [opening_eq_false ho hstage (by simp [hloop, Loop.stage?])]
      exact .of_shut (by simp [Effect.Shut])
    · exact fun h => by cases h
    · exact fun h => by cases h
    · next hloop =>
      rw [opening_eq_false ho hstage (by simp [hloop, Loop.stage?])]
      exact .of_shut (by simp)
    · exact .of_eq ho rfl rfl
    · exact .of_eq ho rfl rfl
  | fell hloop _ =>
    rw [opening_eq_false ho hstage (by simp [hloop, Loop.stage?])]
    exact .of_shut (by simp [Effect.Shut])
  | closed hloop _ =>
    rw [opening_eq_false ho hstage (by simp [hloop, Loop.stage?])]
    exact .of_shut (shut_channelClosed l s _ _)
  | elapsed hloop _ =>
    rw [opening_eq_false ho hstage (by simp [hloop, Loop.stage?])]
    exact .of_shut (shut_goto _ _)
  | began hloop _ =>
    rw [opening_eq_false ho hstage (by simp [hloop, Loop.stage?])]
    exact waits_attemptAdvance hl s _ _
  | @turned attempt stage turn hloop ht =>
    have hopening : opening = false := by
      cases stage with
      | refreshing => exact opening_eq_false ho hstage (by simp [hloop, Loop.stage?])
      | opening =>
        rcases turn?_cases ht with ⟨h, -⟩ | ⟨h, -⟩ | ⟨h, -⟩ | ⟨-, n, h, -⟩ | ⟨-, f, h, -⟩
        · cases h
        · cases h
        · cases h
        · exact hi _ h
        · exact hi _ h
    rw [hopening]
    cases turn with
    | advances a => exact waits_attemptAdvance hl s attempt a
    | opens channel => exact .of_shut (shut_goto _ _)
    | breaks => exact .of_shut (by simp [attemptTurn])

theorem waits_hears {g : Glance} {i : Input} {m : Move}
    (hi : ∀ result, i = .opened result → opening = false) (hm : Hears g i l m) :
    Waits opening m := by
  cases hm with
  | nothing _ => exact .of_eq ho rfl rfl
  | queued _ => exact .of_eq ho rfl rfl
  | @firstTurn ticket stage turn hl ht =>
    have hstage := stage?_of_starting hl
    have hopening : opening = false := by
      cases stage with
      | refreshing => exact opening_eq_false ho hstage (by simp)
      | opening =>
        rcases turn?_cases ht with ⟨h, -⟩ | ⟨h, -⟩ | ⟨h, -⟩ | ⟨-, n, h, -⟩ | ⟨-, f, h, -⟩
        · cases h
        · cases h
        · cases h
        · exact hi _ h
        · exact hi _ h
    rw [hopening]
    cases turn with
    | advances a => exact waits_firstAdvance l ticket a
    | opens channel =>
      exact .of_shut (List.forall_mem_append.2 ⟨shut_goto _ _, by simp [Effect.Shut]⟩)
    | breaks => exact .of_shut (by simp [firstTurn, Effect.Shut])
  | looped hl hs hm => exact waits_loopHears ho hl hs hi hm

theorem waits_beginStop (hl : l.serving = .nothing) (ticket : Nat) (disposing : Bool) :
    Waits opening (l.beginStop ticket disposing) := by
  have hunstarted : Unstarted l := fun _ _ => by simp [hl]
  have hstage := stage?_of_unstarted hunstarted
  unfold beginStop
  split
  · next hs =>
    rw [opening_eq_false ho hstage (by simp [hs])]
    exact .of_shut (shut_finishStop _ _ _)
  · next s hs =>
    split
    · next he =>
      rw [opening_eq_false ho hstage (by simp [hs, he, Loop.stage?])]
      exact .of_shut (shut_finishStop _ _ _)
    · refine .of_eq ho rfl ?_
      rw [hstage, hs]
      exact stage?_of_unstarted fun _ _ => by simp

theorem waits_served {g : Glance} {calls : List (Nat × Call)} {m : Move}
    (hm : Served g calls l m) : Waits opening m := by
  cases hm with
  | @joined ticket disposing s hl hs he =>
    have hstage := stage?_of_unstarted (l := l) fun _ _ => by simp [hl]
    rw [opening_eq_false ho hstage (by simp [hs, he, Loop.stage?])]
    exact .of_shut (shut_finishStop _ _ _)
  | @called ticket c hl hc =>
    have hbegins := begins_serve l g ticket c
    generalize l.serve g ticket c = m at hbegins
    cases hbegins with
    | answered result =>
      intro h
      have hsame : (l.answer ticket result).1 = l := by rw [answer_fst, ← hl]
      rw [hsame]
      exact ho h
    | started ht hs =>
      have hstage := stage?_of_unstarted (l := l) fun _ _ => by simp [hl]
      rw [opening_eq_false ho hstage (by simp [hs])]
      intro h
      rw [andThen_snd, opensAfter_append, opensAfter_of_shut (shut_goto _ _)] at h
      exact waits_firstAdvance (l.goto .connecting).1 ticket _ h
    | stopped => exact waits_beginStop ho hl ticket false
    | disposed => exact waits_beginStop (l := { l with disposed := true }) ho hl ticket true
  | dequeued _ => exact .of_eq ho rfl rfl

/-- **An opening that is under way after a step is waited for**, if it was before the step
and an opening that has ended is not under way any more. -/
theorem stage_step (g : Glance) {i : Input}
    (hi : ∀ result, i = .opened result → opening = false) : Waits opening (l.step g i) := by
  obtain ⟨effects, hserves, heffects⟩ := step_parts l g i
  have hhears := waits_hears ho hi (hears_hear l g i)
  have hcomposes : Composes fun l effects l' => ∀ opening : Bool,
      (opening = true → l.stage? = some .opening) → Waits opening (l', effects) := by
    refine ⟨fun l opening ho => .of_eq ho rfl rfl, fun h h' opening ho => ?_⟩
    intro hafter
    rw [opensAfter_append] at hafter
    exact h' _ (h opening ho) hafter
  have hserved := rel_serves hcomposes (fun _ _ hm _ ho => waits_served ho hm) hserves _ hhears
  intro hafter
  rw [heffects, opensAfter_append] at hafter
  exact hserved hafter

end Moves

/-! ## Calls during an opening -/

/-- `effect.Replies`: the effect is the answer of a call. -/
def Effect.Replies : Effect → Prop
  | .reply _ _ => True
  | _ => False

/-- What is served during an opening is at most answered. -/
theorem served_of_opening {g : Glance} {calls : List (Nat × Call)} {l : Listener} {m : Move}
    (h : l.stage? = some .opening) (hm : Served g calls l m) :
    (∀ e ∈ m.2, e.Replies) ∧ m.1.stage? = some .opening := by
  cases hm with
  | joined hl hs he =>
    rw [stage?_of_unstarted (fun _ _ => by simp [hl]), hs] at h
    simp [he, Loop.stage?] at h
  | @called ticket c hl hc =>
    have hstage := stage?_of_unstarted (l := l) fun _ _ => by simp [hl]
    rw [h] at hstage
    obtain ⟨s, hs, hloop⟩ := Option.bind_eq_some_iff.1 hstage.symm
    have hstop : ∀ (l' : Listener) (disposing : Bool), l'.supervisor = some s →
        (∀ e ∈ (l'.beginStop ticket disposing).2, e.Replies) ∧
          (l'.beginStop ticket disposing).1.stage? = some .opening := by
      intro l' disposing hs'
      have he : s.loop ≠ .ended := by
        intro he
        simp [he, Loop.stage?] at hloop
      simp only [beginStop, hs', if_neg he]
      refine ⟨by simp, ?_⟩
      rw [stage?_of_unstarted (fun _ _ => by simp)]
      exact hloop
    have hbegins := begins_serve l g ticket c
    generalize l.serve g ticket c = m at hbegins
    cases hbegins with
    | answered result =>
      have hsame : (l.answer ticket result).1 = l := by rw [answer_fst, ← hl]
      exact ⟨by simp [Effect.Replies], by rw [hsame]; exact h⟩
    | started _ hnone =>
      rw [hs] at hnone
      cases hnone
    | stopped => exact hstop l false hs
    | disposed => exact hstop { l with disposed := true } true hs
  | dequeued _ => exact ⟨by simp, h⟩

/-- **A call that comes during an opening is at most answered**, and the opening goes on. -/
theorem step_call_of_opening {l : Listener} (h : l.stage? = some .opening) (g : Glance)
    (ticket : Nat) (c : Call) :
    (∀ e ∈ (l.step g (.call ticket c)).2, e.Replies) ∧
      (l.step g (.call ticket c)).1.stage? = some .opening := by
  obtain ⟨effects, hserves, heffects⟩ := step_parts l g (.call ticket c)
  have hcomposes : Composes fun l effects l' => l.stage? = some .opening →
      (∀ e ∈ effects, e.Replies) ∧ l'.stage? = some .opening := by
    refine ⟨fun l h => ⟨by simp, h⟩, fun h h' hl => ?_⟩
    obtain ⟨he, hl'⟩ := h hl
    obtain ⟨he', hl''⟩ := h' hl'
    exact ⟨List.forall_mem_append.2 ⟨he, he'⟩, hl''⟩
  obtain ⟨hreplies, hstage⟩ := rel_serves hcomposes (fun _ _ hm hl => served_of_opening hl hm)
    hserves h
  rw [heffects]
  exact ⟨hreplies, hstage⟩

/-- Such a step is quiet. -/
theorem quiet_call_of_opening {l : Listener} (h : l.stage? = some .opening) (g : Glance)
    (ticket : Nat) (c : Call) : ∀ line ∈ l.stepLog g (.call ticket c), line.Quiet := by
  intro line hline
  cases line with
  | did effect =>
    have hmem : effect ∈ (l.step g (.call ticket c)).2 := by
      rw [← effects_stepLog]
      exact List.mem_filterMap.2 ⟨_, hline, rfl⟩
    have hreplies := (step_call_of_opening h g ticket c).1 effect hmem
    cases effect with
    | reply ticket' result => exact trivial
    | _ => exact hreplies.elim
  | _ => exact trivial

end Listener

end Appliance

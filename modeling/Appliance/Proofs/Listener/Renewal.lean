import Appliance.Proofs.Listener.Ledger
import Appliance.Proofs.Listener.Walk
import Mathlib.Data.List.Permutation

/-!
# When a refused token is presented again

A token that the transport has refused should not be presented again before the session
has got a new one. The loop remembers a refusal for its next attempt only, and the first
attempt of a start remembers nothing, so there are runs in which it is presented again.
This file says in which.

* `Agrees` — the invariant between a listener and the ledger of its history.
* `sound_history` — every line of every history is one that the ledger before it allows.
* `refused_token_presented_again_iff` — **after a refusal the transport is called without
  a new token exactly when the attempt that calls it began with time left, and was the
  first of a start or came after a failure that was no refusal.**
-/

namespace Appliance.Listener

/-! ## What the ledger allows -/

/-- `Allowed k e`: with the ledger `k` the line `e` may come next. The transport is called
by an attempt that either got a new token or did not begin by asking for one, and it
answers only when it was called. -/
def Allowed (k : Ledger) : Entry → Prop
  | .did (.openChannel _) => ∃ a, k.begun = some a ∧ (k.renewed = true ↔ a.Renews)
  | .heard (.opened _) => k.calling = true
  | _ => True

/-- `Sound k h`: every line of `h` is allowed, the first of them with the ledger `k`. -/
def Sound : Ledger → List Entry → Prop
  | _, [] => True
  | k, e :: h => Allowed k e ∧ Sound (k.note e) h

theorem sound_append {k : Ledger} {h h' : List Entry} :
    Sound k (h ++ h') ↔ Sound k h ∧ Sound (k.noteAll h) h' := by
  induction h generalizing k with
  | nil => simp [Sound]
  | cons e h ih => simp [Sound, ih, and_assoc]

/-- Until the transport is called again it does not answer again. -/
theorem Sound.not_isOpened {k : Ledger} {h : List Entry} (hs : Sound k h)
    (hk : k.calling = false) (hh : ∀ e ∈ h, e.isOpening = false) :
    ∀ e ∈ h, e.isOpened = false := by
  induction h generalizing k with
  | nil => simp
  | cons e h ih =>
    obtain ⟨he, hs⟩ := hs
    have hrest : ∀ x ∈ h, x.isOpening = false := fun x hx => hh x (List.mem_cons_of_mem _ hx)
    have ho := hh e List.mem_cons_self
    have hclosed : e.isOpened = false ∧ (k.note e).calling = false := by
      cases e with
      | heard i =>
        cases i with
        | opened result => simp [Allowed, hk] at he
        | refreshed result => rcases result with (_ | _) | _ <;> exact ⟨rfl, hk⟩
        | _ => exact ⟨rfl, hk⟩
      | did effect =>
        cases effect with
        | openChannel token => simp [Entry.isOpening] at ho
        | _ => exact ⟨rfl, hk⟩
    intro x hx
    rcases List.mem_cons.1 hx with rfl | hx
    · exact hclosed.1
    · exact ih hs hclosed.2 hrest x hx

/-! ## Effects that the ledger does not note -/

/-- Whether the ledger passes over an effect. -/
def Effect.isQuiet : Effect → Bool
  | .attempt _ _ | .refresh | .openChannel _ => false
  | _ => true

theorem noteAll_quiet {effects : List Effect} (hq : effects.all Effect.isQuiet = true)
    (k : Ledger) : k.noteAll (effects.map .did) = k ∧ Sound k (effects.map .did) := by
  induction effects with
  | nil => exact ⟨rfl, trivial⟩
  | cons e effects ih =>
    rw [List.all_cons, Bool.and_eq_true] at hq
    obtain ⟨hqe, hq⟩ := hq
    have he : k.note (.did e) = k ∧ Allowed k (.did e) := by
      cases e <;> first | exact ⟨rfl, trivial⟩ | simp [Effect.isQuiet] at hqe
    obtain ⟨hn, hs⟩ := ih hq
    simp only [List.map_cons, Ledger.noteAll_cons, Sound, he.1]
    exact ⟨hn, he.2, hs⟩

@[simp] theorem all_isQuiet_goto (l : Listener) (next : ListenerState) :
    (l.goto next).2.all Effect.isQuiet = true := by
  rw [goto_snd]
  split <;> simp [Effect.isQuiet]

/-! ## The invariant -/

/-- `Agrees l k`: the listener `l` stands where the ledger `k` of its history says. -/
structure Agrees (l : Listener) (k : Ledger) : Prop where
  /-- The loop remembers whether the last attempt failed because of its token. -/
  flag : ∀ s, l.supervisor = some s → s.loop ≠ .ended →
    s.refreshNext = k.fault.any Fault.isTokenRefused
  /-- A new token is waited for only by an attempt that began so. -/
  refreshing : l.stage? = some .refreshing → k.asked = true ∧ ∃ a, k.begun = some a ∧ a.Renews
  opening : l.stage? = some .opening → k.calling = true
  /-- A new token is presented at once, or never. -/
  renewed : k.renewed = true → l.state = .permanentlyFailed

theorem agrees_blank (backoff : Backoff) (ownsSession : Bool) :
    Agrees (fresh backoff ownsSession) .blank where
  flag s hs := by simp [fresh] at hs
  refreshing h := by simp [fresh, stage?] at h
  opening h := by simp [fresh, stage?] at h
  renewed h := by simp [Ledger.blank] at h

/-- `Keeps k h l`: the lines `h` are allowed after the ledger `k`, and `l` stands where
they lead. -/
def Keeps (k : Ledger) (h : List Entry) (l : Listener) : Prop :=
  Sound k h ∧ Agrees l (k.noteAll h)

theorem Keeps.append {k : Ledger} {h h' : List Entry} {l : Listener} (hs : Sound k h)
    (h2 : Keeps (k.noteAll h) h' l) : Keeps k (h ++ h') l :=
  ⟨sound_append.2 ⟨hs, h2.1⟩, by rw [Ledger.noteAll_append]; exact h2.2⟩

theorem Keeps.of_quiet {k : Ledger} {effects : List Effect} {l : Listener}
    (hq : effects.all Effect.isQuiet = true) (ha : Agrees l k) : Keeps k (effects.map .did) l := by
  obtain ⟨hn, hs⟩ := noteAll_quiet hq k
  exact ⟨hs, by rw [hn]; exact ha⟩

/-- A listener whose loop makes no attempt. -/
theorem Agrees.of_supervisor {l : Listener} {k : Ledger} {s : Supervisor} (hl : Unstarted l)
    (hs : l.supervisor = some s) (hstage : s.loop.stage? = none)
    (hflag : s.loop ≠ .ended → s.refreshNext = k.fault.any Fault.isTokenRefused)
    (hr : k.renewed = true → l.state = .permanentlyFailed) : Agrees l k where
  flag s' hs' he := by
    rw [hs] at hs'
    cases hs'
    exact hflag he
  refreshing h := by simp [stage?_of_unstarted hl, hs, hstage] at h
  opening h := by simp [stage?_of_unstarted hl, hs, hstage] at h
  renewed := hr

/-- A listener without a loop. -/
theorem Agrees.of_idle {l : Listener} {k : Ledger} (hl : Unstarted l) (hs : l.supervisor = none)
    (hr : k.renewed = true → l.state = .permanentlyFailed) : Agrees l k where
  flag s' hs' := by simp [hs] at hs'
  refreshing h := by simp [stage?_of_unstarted hl, hs] at h
  opening h := by simp [stage?_of_unstarted hl, hs] at h
  renewed := hr

/-- A listener whose loop stands where it stood. -/
theorem Agrees.of_loop {l l' : Listener} {k : Ledger} (h : Agrees l k) (hl : Unstarted l)
    (hl' : Unstarted l') (hstate : l'.state = l.state)
    (hs : ∀ s', l'.supervisor = some s' → ∃ s, l.supervisor = some s ∧ s'.loop = s.loop ∧
      s'.refreshNext = s.refreshNext) : Agrees l' k := by
  have hstage : ∀ stage, l'.stage? = some stage → l.stage? = some stage := by
    intro stage hst
    rw [stage?_of_unstarted hl'] at hst
    obtain ⟨s', hs', hst⟩ := Option.bind_eq_some_iff.1 hst
    obtain ⟨s, hs, hloop, -⟩ := hs s' hs'
    rw [stage?_of_unstarted hl, hs, Option.bind_some, ← hloop]
    exact hst
  exact {
    flag := fun s' hs' he => by
      obtain ⟨s, hs, hloop, hr⟩ := hs s' hs'
      rw [hr]
      exact h.flag s hs (hloop ▸ he)
    refreshing := fun hst => h.refreshing (hstage _ hst)
    opening := fun hst => h.opening (hstage _ hst)
    renewed := fun hk => by rw [hstate]; exact h.renewed hk }

/-- A new token that was got is not still to be presented while the listener goes on. -/
theorem Agrees.not_renewed {l : Listener} {k : Ledger} (h : Agrees l k)
    (hl : l.state ≠ .permanentlyFailed) : k.renewed = false := by
  rw [← Bool.not_eq_true]
  exact fun hr => hl (h.renewed hr)

/-! ## How an attempt goes on -/

/-- `Backs k a`: with the ledger `k` an attempt may go on by `a`. -/
def Backs (k : Ledger) : Advance → Prop
  | .asks .refresh => k.renewed = false ∧ ∃ b, k.begun = some b ∧ b.Renews
  | .asks (.openChannel _) => ∃ b, k.begun = some b ∧ (k.renewed = true ↔ b.Renews)
  | .fails f => f.isFatal = true ∨ (k.renewed = false ∧ k.fault = some f)

/-- An attempt that has just begun. -/
theorem backs_beginAttempt {k : Ledger} {g : Glance} {first refreshFirst : Bool}
    {fault : Option Fault} (hk : k.renewed = false) (hb : k.begun = some ⟨first, g, fault⟩)
    (hr : refreshFirst = true ↔ first = false ∧ fault.any Fault.isTokenRefused = true) :
    Backs k (beginAttempt g refreshFirst) := by
  unfold beginAttempt
  split
  · rename_i h
    refine ⟨hk, _, hb, ?_⟩
    simp only [Bool.or_eq_true, decide_eq_true_eq] at h
    exact h.symm.imp_right hr.1
  · rename_i h
    simp only [Bool.or_eq_true, decide_eq_true_eq, not_or] at h
    unfold openWith
    split
    · refine ⟨_, hb, ?_⟩
      have hn : ¬ (⟨first, g, fault⟩ : Begun).Renews := by
        rintro (h0 | h1)
        · exact h.2 h0
        · exact h.1 (hr.2 h1)
      simp [hk, hn]
    · exact Or.inl rfl

/-- An attempt that has just got a new token. -/
theorem backs_openWith {k : Ledger} {g : Glance} {a : Begun} (hk : k.renewed = true)
    (hb : k.begun = some a) (ha : a.Renews) : Backs k (openWith g) := by
  unfold openWith
  split
  · exact ⟨a, hb, by simp [hk, ha]⟩
  · exact Or.inl rfl

/-- What an attempt asks for is allowed. -/
theorem sound_ask {k : Ledger} {a : Ask} (hb : Backs k (.asks a)) : Sound k [.did a.effect] := by
  cases a with
  | refresh => exact ⟨trivial, trivial⟩
  | openChannel token => exact ⟨hb, trivial⟩

/-- An attempt that has asked for something stands where the ledger says. -/
theorem agrees_ask {k : Ledger} {l : Listener} {a : Ask} (hb : Backs k (.asks a))
    (hstage : l.stage? = some a.stage)
    (hflag : ∀ s, l.supervisor = some s → s.refreshNext = k.fault.any Fault.isTokenRefused) :
    Agrees l (k.noteAll [.did a.effect]) := by
  cases a with
  | refresh =>
    exact {
      flag := fun s hs _ => hflag s hs
      refreshing := fun _ => ⟨rfl, hb.2⟩
      opening := fun h => by simp [hstage, Ask.stage] at h
      renewed := fun h => by
        have hr : k.renewed = true := h
        simp [hb.1] at hr }
  | openChannel token =>
    exact {
      flag := fun s hs _ => hflag s hs
      refreshing := fun h => by simp [hstage, Ask.stage] at h
      opening := fun _ => rfl
      renewed := fun h => by simp [Ask.effect, Ledger.note] at h }

theorem keeps_firstAdvance {k : Ledger} {l : Listener} (hs : l.supervisor = none) (ticket : Nat)
    {a : Advance} (hb : Backs k a) :
    Keeps k ((l.firstAdvance ticket a).2.map .did) (l.firstAdvance ticket a).1 := by
  cases a with
  | asks a =>
    refine ⟨sound_ask hb, agrees_ask hb (stage?_of_starting rfl) ?_⟩
    intro s h
    simp [firstAdvance, hs] at h
  | fails f =>
    simp only [firstAdvance, firstFailed]
    split
    · refine Keeps.of_quiet ?_ (.of_idle (fun _ _ => by simp) hs fun _ => rfl)
      simp [Effect.isQuiet]
    · rename_i hf
      obtain ⟨hr, hfault⟩ := hb.resolve_left hf
      refine Keeps.of_quiet ?_ (.of_supervisor (fun _ _ => by simp) rfl rfl ?_ ?_)
      · simp [Effect.isQuiet]
      · simp [hfault]
      · simp [hr]

theorem keeps_attemptAdvance {k : Ledger} {l : Listener} {s : Supervisor} (hl : Unstarted l)
    (attempt : Nat) {a : Advance} (hb : Backs k a)
    (hflag : ∀ ask, a = .asks ask → s.refreshNext = k.fault.any Fault.isTokenRefused) :
    Keeps k ((l.attemptAdvance s attempt a).2.map .did) (l.attemptAdvance s attempt a).1 := by
  cases a with
  | asks a =>
    have hl' : Unstarted (l.attemptAdvance s attempt (.asks a)).1 := hl
    refine ⟨sound_ask hb, agrees_ask hb ?_ ?_⟩
    · rw [stage?_of_unstarted hl']
      rfl
    · intro s' h
      simp only [attemptAdvance, withLoop, Option.some.injEq] at h
      rw [← h]
      exact hflag a rfl
  | fails f =>
    simp only [attemptAdvance, attemptFailed]
    split
    · exact Keeps.of_quiet (all_isQuiet_goto _ _) (.of_supervisor hl rfl rfl (by simp) fun _ => rfl)
    · rename_i hf
      obtain ⟨hr, hfault⟩ := hb.resolve_left hf
      refine Keeps.of_quiet ?_ (.of_supervisor hl rfl rfl ?_ ?_)
      · simp [Effect.isQuiet]
      · simp [hfault]
      · simp [hr]

/-! ## Answers -/

/-- An attempt takes a turn only by what it waits for. -/
theorem isAnswer_of_turn {l : Listener} {g : Glance} {stage : Stage} {i : Input} {turn : Turn}
    (hstage : l.stage? = some stage) (ht : turn? g stage i = some turn) : l.isAnswer i = true := by
  rw [isAnswer, hstage]
  show stage.isEndedBy i = true
  rw [← Bool.not_eq_false, ← turn?_eq_none_iff (g := g), ht]
  simp

/-- `BacksTurn k turn`: with the ledger `k` an attempt may take the turn. -/
def BacksTurn (k : Ledger) : Turn → Prop
  | .advances a => Backs k a
  | .opens _ => k.fault = none ∧ k.renewed = false
  | .breaks => k.renewed = false

/-- An attempt may take the turn that the answer it waits for means. -/
theorem backs_turn {l : Listener} {k : Ledger} (h : Agrees l k) {g : Glance} {stage : Stage}
    {i : Input} {turn : Turn} (hstage : l.stage? = some stage) (hr : k.renewed = false)
    (ht : turn? g stage i = some turn) :
    Allowed k (.heard i) ∧ BacksTurn (k.note (.heard i)) turn ∧
      ∀ ask, turn = .advances (.asks ask) → (k.note (.heard i)).fault = k.fault := by
  rcases turn?_cases ht with ⟨rfl, rfl, rfl⟩ | ⟨rfl, f, rfl, rfl⟩ | ⟨rfl, rfl, rfl⟩ |
    ⟨rfl, channel, rfl, rfl⟩ | ⟨rfl, f, rfl, rfl⟩
  · obtain ⟨hasked, a, hb, ha⟩ := h.refreshing hstage
    exact ⟨trivial, backs_openWith (by simp [Ledger.note, hasked]) hb ha, fun _ _ => rfl⟩
  · exact ⟨trivial, Or.inr ⟨hr, rfl⟩, by simp⟩
  · exact ⟨trivial, hr, by simp⟩
  · exact ⟨h.opening hstage, ⟨rfl, rfl⟩, by simp⟩
  · exact ⟨h.opening hstage, Or.inr ⟨rfl, rfl⟩, by simp⟩

theorem keeps_firstTurn {k : Ledger} {l : Listener} (hs : l.supervisor = none) (ticket : Nat)
    {turn : Turn} (hb : BacksTurn k turn) :
    Keeps k ((l.firstTurn ticket turn).2.map .did) (l.firstTurn ticket turn).1 := by
  cases turn with
  | advances a => exact keeps_firstAdvance hs ticket hb
  | opens channel =>
    obtain ⟨hfault, hr⟩ := hb
    refine Keeps.of_quiet ?_
      (.of_supervisor (fun _ _ => by simp [firstTurn, firstOpened]) rfl rfl ?_ ?_)
    · simp [firstTurn, firstOpened, Effect.isQuiet]
    · simp [hfault]
    · simp [hr]
  | breaks =>
    have hr : k.renewed = false := hb
    refine Keeps.of_quiet ?_ (.of_idle (fun _ _ => by simp [firstTurn]) hs (by simp [hr]))
    simp [firstTurn, Effect.isQuiet]

theorem keeps_attemptTurn {k : Ledger} {l : Listener} {s : Supervisor} (hl : Unstarted l)
    (attempt : Nat) {turn : Turn} (hb : BacksTurn k turn)
    (hflag : ∀ ask, turn = .advances (.asks ask) →
      s.refreshNext = k.fault.any Fault.isTokenRefused) :
    Keeps k ((l.attemptTurn s attempt turn).2.map .did) (l.attemptTurn s attempt turn).1 := by
  cases turn with
  | advances a =>
    refine keeps_attemptAdvance hl attempt hb ?_
    rintro ask rfl
    exact hflag ask rfl
  | opens channel =>
    obtain ⟨hfault, hr⟩ := hb
    refine Keeps.of_quiet (all_isQuiet_goto _ _) (.of_supervisor hl rfl rfl ?_ ?_)
    · simp [hfault]
    · simp [hr]
  | breaks =>
    have hr : k.renewed = false := hb
    exact Keeps.of_quiet (by simp [attemptTurn]) (.of_supervisor hl rfl rfl (by simp) (by simp [hr]))

/-! ## The loop -/

section Loop

variable {k : Ledger} {l : Listener} {s : Supervisor} (hl : Unstarted l)
  (hs : l.supervisor = some s) (hc : Coherent l) (ha : Agrees l k)
include hl hs hc ha

omit hc in
theorem keeps_notice : Keeps k ((l.notice s).2.map .did) (l.notice s).1 := by
  unfold notice
  split
  · rename_i channel hloop
    refine Keeps.of_quiet (by simp [Effect.isQuiet]) (.of_supervisor hl rfl rfl ?_ ha.renewed)
    exact fun _ => ha.flag s hs (by simp [hloop])
  · refine Keeps.of_quiet (by simp [Effect.isQuiet]) (.of_supervisor hl rfl rfl ?_ ha.renewed)
    simp
  · refine Keeps.of_quiet (by simp [Effect.isQuiet]) (.of_supervisor hl rfl rfl ?_ ha.renewed)
    simp
  · refine Keeps.of_quiet (by simp) (.of_supervisor hl rfl rfl ?_ ha.renewed)
    simp
  · exact Keeps.of_quiet (by simp) ha
  · exact Keeps.of_quiet (by simp) ha

theorem keeps_channelClosed {channel : Nat} {reason : Option DisconnectReason}
    (hloop : s.loop = .closing channel reason) :
    Keeps k ((l.channelClosed s channel reason).2.map .did)
      (l.channelClosed s channel reason).1 := by
  have hst : l.state = .connected := hc.placed s hs _ (by simp [hloop, Loop.state?])
  have hr := ha.not_renewed (by simp [hst])
  have hflag := ha.flag s hs (by simp [hloop])
  -- the loop goes on or ends, and what it remembers stays
  have hagrees : ∀ (loop : Loop) (state : ListenerState), loop.stage? = none →
      Agrees { l.withLoop s loop with state } k := fun loop state hstage =>
    .of_supervisor hl rfl hstage (fun _ => hflag) (by simp [hr])
  unfold channelClosed
  split
  · exact Keeps.of_quiet (by simp [Effect.isQuiet]) (hagrees .ended l.state rfl)
  · split
    · refine Keeps.of_quiet ?_ (hagrees .ended _ rfl)
      simp [Effect.isQuiet]
    · split
      · exact Keeps.of_quiet (by simp [Effect.isQuiet]) (hagrees .ended l.state rfl)
      · refine Keeps.of_quiet ?_ (hagrees (.waiting 1) _ rfl)
        simp [Effect.isQuiet]

/-- An attempt of the loop begins with a new token if the last one failed because of its
token. -/
theorem keeps_loopAttempt {attempt : Nat} (g : Glance) (hloop : s.loop = .ready attempt) :
    Keeps k ((l.loopAttempt g s attempt).2.map .did) (l.loopAttempt g s attempt).1 := by
  have hst : l.state = .connecting := hc.placed s hs _ (by simp [hloop, Loop.state?])
  have hr := ha.not_renewed (by simp [hst])
  have hflag := ha.flag s hs (by simp [hloop])
  have hb : Backs (k.note (.did (.attempt false g))) (beginAttempt g s.refreshNext) :=
    backs_beginAttempt hr rfl (by simp [hflag])
  obtain ⟨hsound, hagrees⟩ := keeps_attemptAdvance hl attempt hb fun _ _ => hflag
  exact ⟨⟨trivial, hsound⟩, hagrees⟩

/-- Whatever the loop takes, it stands where the ledger says. -/
theorem keeps_loopHears {g : Glance} {i : Input} {m : Move} (hm : LoopHears g i l s m) :
    Keeps k ((if l.isAnswer i then [.heard i] else []) ++ m.2.map .did) m.1 := by
  have hanswer : l.isAnswer i = s.loop.stage?.any (·.isEndedBy i) := by
    rw [isAnswer, stage?_of_unstarted hl, hs]
    rfl
  cases hm with
  | noticed _ hi =>
    have hno : l.isAnswer i = false := by
      rw [hanswer, hi]
      cases s.loop.stage? with
      | none => rfl
      | some stage => cases stage <;> rfl
    rw [hno]
    exact keeps_notice hl hs ha
  | fell hloop hi =>
    have hno : l.isAnswer i = false := by simp [hanswer, hloop, Loop.stage?]
    rw [hno]
    refine Keeps.of_quiet (by simp [Effect.isQuiet]) (.of_supervisor hl rfl rfl ?_ ha.renewed)
    exact fun _ => ha.flag s hs (by simp [hloop])
  | closed hloop hi =>
    have hno : l.isAnswer i = false := by simp [hanswer, hloop, Loop.stage?]
    rw [hno]
    exact keeps_channelClosed hl hs hc ha hloop
  | elapsed hloop hi =>
    have hno : l.isAnswer i = false := by simp [hanswer, hloop, Loop.stage?]
    have hst : l.state = .retryScheduled := hc.placed s hs _ (by simp [hloop, Loop.state?])
    have hr := ha.not_renewed (by simp [hst])
    rw [hno]
    refine Keeps.of_quiet (all_isQuiet_goto _ _) (.of_supervisor hl rfl rfl ?_ (by simp [hr]))
    exact fun _ => ha.flag s hs (by simp [hloop])
  | began hloop hi =>
    have hno : l.isAnswer i = false := by simp [hanswer, hloop, Loop.stage?]
    rw [hno]
    exact keeps_loopAttempt hl hs hc ha g hloop
  | @turned attempt stage turn hloop ht =>
    have hstage : l.stage? = some stage := by
      rw [stage?_of_unstarted hl, hs]
      simp [hloop, Loop.stage?]
    have hyes : l.isAnswer i = true := isAnswer_of_turn hstage ht
    have hst : l.state = .connecting := hc.placed s hs _ (by simp [hloop, Loop.state?])
    obtain ⟨hallowed, hb, hfault⟩ := backs_turn ha hstage (ha.not_renewed (by simp [hst])) ht
    have hflag := ha.flag s hs (by simp [hloop])
    rw [hyes]
    refine Keeps.append (h := [.heard i]) ⟨hallowed, trivial⟩ (keeps_attemptTurn hl _ hb ?_)
    intro ask hask
    rw [Ledger.noteAll_cons, Ledger.noteAll_nil, hfault ask hask]
    exact hflag

end Loop

/-- Whatever an input does, the listener stands where the ledger says. -/
theorem keeps_hears {g : Glance} {i : Input} {k : Ledger} {l : Listener} {m : Move}
    (hc : Coherent l) (ha : Agrees l k) (hm : Hears g i l m) :
    Keeps k ((if l.isAnswer i then [.heard i] else []) ++ m.2.map .did) m.1 := by
  cases hm with
  | nothing hi =>
    rw [hi]
    exact ⟨trivial, ha⟩
  | queued hi =>
    have hno : l.isAnswer i = false := by
      rw [isAnswer, hi]
      cases l.stage? with
      | none => rfl
      | some stage => cases stage <;> rfl
    rw [hno]
    exact ⟨trivial, ⟨ha.flag, ha.refreshing, ha.opening, ha.renewed⟩⟩
  | firstTurn hl ht =>
    obtain ⟨hs, hst⟩ := hc.starting _ _ hl
    have hstage := stage?_of_starting hl
    have hyes : l.isAnswer i = true := isAnswer_of_turn hstage ht
    obtain ⟨hallowed, hb, -⟩ := backs_turn ha hstage (ha.not_renewed (by simp [hst])) ht
    rw [hyes]
    exact Keeps.append (h := [.heard i]) ⟨hallowed, trivial⟩ (keeps_firstTurn hs _ hb)
  | looped hl hs hm => exact keeps_loopHears hl hs hc ha hm

/-! ## Calls -/

theorem quiet_finishStop (l : Listener) (ticket : Nat) (disposing : Bool) :
    (l.finishStop ticket disposing).2.all Effect.isQuiet = true := by
  have hafter : l.afterLoop.2.all Effect.isQuiet = true := by
    unfold afterLoop
    simp only []
    split <;> simp
  have hdismiss : ∀ l : Listener, l.dismiss.2.all Effect.isQuiet = true := by
    intro l
    simp only [dismiss, andThen_snd, List.all_append, Bool.and_eq_true]
    refine ⟨?_, ?_⟩
    · split <;> simp [Effect.isQuiet]
    · split <;> simp
  cases disposing with
  | true => simp [finishStop, hafter, hdismiss, Effect.isQuiet]
  | false => simp [finishStop, hafter, Effect.isQuiet]

section Calls

variable {k : Ledger} {l : Listener} (hl : Unstarted l) (ha : Agrees l k)

include ha in
theorem keeps_finishStop (ticket : Nat) (disposing : Bool) :
    Keeps k ((l.finishStop ticket disposing).2.map .did) (l.finishStop ticket disposing).1 := by
  refine Keeps.of_quiet (quiet_finishStop l ticket disposing) (.of_idle ?_ ?_ ?_)
  · exact fun _ _ => by simp [finishStop]
  · cases disposing <;> simp [finishStop, afterLoop_fst, dismiss_fst]
  · intro hr
    have hst := ha.renewed hr
    cases disposing <;> simp [finishStop, afterLoop_fst, dismiss_fst, hst, ListenerState.isTerminal]

include hl ha

theorem keeps_beginStop (ticket : Nat) (disposing : Bool) :
    Keeps k ((l.beginStop ticket disposing).2.map .did) (l.beginStop ticket disposing).1 := by
  unfold beginStop
  split
  · exact keeps_finishStop ha ticket disposing
  · rename_i s hs
    split
    · exact keeps_finishStop ha ticket disposing
    · refine Keeps.of_quiet (by simp) (ha.of_loop hl (fun _ _ => by simp) rfl ?_)
      intro s' hs'
      simp only [still_fst, Option.some.injEq] at hs'
      exact ⟨s, hs, by rw [← hs'], by rw [← hs']⟩

omit hl in
/-- The first attempt of a start begins without a new token, unless the old one has run out. -/
theorem keeps_start (g : Glance) (ticket : Nat) (ht : l.state ≠ .permanentlyFailed)
    (hs : l.supervisor = none) :
    let m := (l.goto .connecting).andThen fun l => l.firstAttempt g ticket
    Keeps k (m.2.map .did) m.1 := by
  intro m
  have hr := ha.not_renewed ht
  have hb : Backs (k.note (.did (.attempt true g))) (beginAttempt g false) :=
    backs_beginAttempt hr rfl (by simp)
  obtain ⟨hsound, hagrees⟩ := keeps_firstAdvance (l := (l.goto .connecting).1) hs ticket hb
  obtain ⟨hn, hquiet⟩ := noteAll_quiet (all_isQuiet_goto l .connecting) k
  simp only [m, andThen_snd, List.map_append]
  refine Keeps.append hquiet ?_
  rw [hn]
  exact ⟨⟨trivial, hsound⟩, hagrees⟩

theorem keeps_begins {g : Glance} {ticket : Nat} {c : Call} {m : Move}
    (hm : Begins g ticket l c m) : Keeps k (m.2.map .did) m.1 := by
  cases hm with
  | answered result =>
    exact Keeps.of_quiet (by simp [Effect.isQuiet])
      (ha.of_loop hl (fun _ _ => by simp) rfl fun s hs => ⟨s, hs, rfl, rfl⟩)
  | started ht hs => exact keeps_start ha g ticket ht hs
  | stopped => exact keeps_beginStop hl ha ticket false
  | disposed =>
    exact keeps_beginStop (l := { l with disposed := true }) hl
      (ha.of_loop hl hl rfl fun s hs => ⟨s, hs, rfl, rfl⟩) ticket true

end Calls

/-- Whatever is served, the listener stands where the ledger says. -/
theorem keeps_served {g : Glance} {calls : List (Nat × Call)} {k : Ledger} {l : Listener}
    {m : Move} (ha : Agrees l k) (hm : Served g calls l m) : Keeps k (m.2.map .did) m.1 := by
  cases hm with
  | joined hl hs he => exact keeps_finishStop ha _ _
  | called hl hc => exact keeps_begins (fun _ _ => by simp [hl]) ha (begins_serve l g _ _)
  | dequeued hq => exact ⟨trivial, ⟨ha.flag, ha.refreshing, ha.opening, ha.renewed⟩⟩

/-! ## Runs -/

theorem composes_keeps : Composes fun l effects l' =>
    ∀ k, Agrees l k → Keeps k (effects.map .did) l' where
  refl l k ha := ⟨trivial, ha⟩
  trans h h' k ha := by
    obtain ⟨hsound, ha'⟩ := h k ha
    rw [List.map_append]
    exact Keeps.append hsound (h' _ ha')

/-- **Every step keeps the listener where the ledger says, and its lines are allowed.** -/
theorem keeps_step {k : Ledger} {l : Listener} (hc : Coherent l) (ha : Agrees l k) (g : Glance)
    (i : Input) : Keeps k (l.entries g i) (l.step g i).1 := by
  obtain ⟨effects, hserves, heffects⟩ := step_parts l g i
  obtain ⟨hsound, ha'⟩ := keeps_hears hc ha (hears_hear l g i)
  rw [entries, heffects, List.map_append, ← List.append_assoc]
  refine Keeps.append hsound ?_
  exact rel_serves composes_keeps (fun _ _ hm _ ha => keeps_served ha hm) hserves _ ha'

/-- Every line of a history is allowed. -/
theorem sound_history (inputs : List (Glance × Input)) {k : Ledger} {l : Listener}
    (hc : Coherent l) (ha : Agrees l k) : Sound k (l.history inputs) := by
  induction inputs generalizing k l with
  | nil => trivial
  | cons input rest ih =>
    obtain ⟨hsound, ha'⟩ := keeps_step hc ha input.1 input.2
    exact sound_append.2 ⟨hsound, ih (walks_step l input.1 input.2 hc).1 ha'⟩

/-! ## Between a refusal and the next call of the transport -/

/-- The call of the transport that follows a refusal comes from the attempt that began
last, and is made without a new token unless that attempt began by asking for one. -/
theorem not_renewed_iff_of_sound {k : Ledger} {f : Fault} {mid after : List Entry} {token : Token}
    (hs : Sound k (refusal f :: (mid ++ .did (.openChannel token) :: after)))
    (hmid : ∀ e ∈ mid, e.isOpening = false) :
    ¬ Renewed mid ↔ ∃ a, LastBegun f mid a ∧ ¬ a.Renews := by
  obtain ⟨-, hs⟩ := hs
  rw [sound_append] at hs
  obtain ⟨hsmid, ⟨a, ha, hrenews⟩, -⟩ := hs
  have hopened := hsmid.not_isOpened rfl hmid
  have htells := noteAll_refusal k f fun e he => ⟨hmid e he, hopened e he⟩
  rw [← htells.renewed, hrenews]
  constructor
  · exact fun hn => ⟨a, (htells.begun a).1 ha, hn⟩
  · rintro ⟨a', ha', hn⟩
    have hsame : a = a' := Option.some.inj (ha.symm.trans ((htells.begun a').2 ha'))
    rw [hsame]
    exact hn

/-- An attempt that is no first one, and follows no other failure than the refusal, begins
by asking for a new token. -/
theorem LastBegun.renews {f : Fault} {mid : List Entry} {a : Begun} (h : LastBegun f mid a)
    (hf : f.isTokenRefused = true) (hfirst : ∀ seen, .did (.attempt true seen) ∉ mid)
    (hfault : ∀ e ∈ mid, e.fault? = none) : a.Renews := by
  obtain ⟨earlier, later, rfl, -, ha⟩ := h
  refine Or.inr ⟨?_, ?_⟩
  · rw [← Bool.not_eq_true]
    intro hfst
    rw [hfst] at hfirst
    exact hfirst a.seen (by simp)
  · have hnone : earlier.reverse.findSome? Entry.fault? = none :=
      List.findSome?_eq_none_iff.2 fun e he => hfault e (by simp_all)
    have hlast : lastFault? (refusal f :: earlier) = some f := by
      rw [lastFault?, List.reverse_cons, List.findSome?_append, hnone]
      rfl
    rw [ha, hlast]
    exact hf

/-- **When a refused token is presented again.**  Let the transport refuse a token in some
run, and be called again.  No new token was got in between exactly when the attempt that
calls it began while the old one had time left, and was the first attempt of a start or
followed a failure that was no refusal.  Without a start and without another failure in
between, a new token was got. -/
theorem refused_token_presented_again_iff (backoff : Backoff) (ownsSession : Bool)
    (inputs : List (Glance × Input)) (before mid after : List Entry) (f : Fault) (token : Token)
    (hh : (fresh backoff ownsSession).history inputs =
      before ++ refusal f :: (mid ++ .did (.openChannel token) :: after))
    (hf : f.isTokenRefused = true) (hmid : ∀ e ∈ mid, e.isOpening = false) :
    (¬ Renewed mid ↔ ∃ a, LastBegun f mid a ∧ a.seen.secondsLeft ≠ 0 ∧
      (a.first = true ∨ a.fault.any Fault.isTokenRefused = false)) ∧
    ((∀ seen, .did (.attempt true seen) ∉ mid) → (∀ e ∈ mid, e.fault? = none) → Renewed mid) := by
  have hsound := sound_history inputs (coherent_fresh backoff ownsSession)
    (agrees_blank backoff ownsSession)
  rw [hh, sound_append] at hsound
  have hiff := not_renewed_iff_of_sound hsound.2 hmid
  refine ⟨?_, fun hfirst hfault => ?_⟩
  · rw [hiff]
    refine exists_congr fun a => and_congr_right fun _ => ?_
    simp only [Begun.Renews, not_or, not_and, Bool.not_eq_true, ne_eq]
    refine and_congr_right fun _ => ?_
    cases a.first <;> simp
  · by_contra hn
    obtain ⟨a, ha, hno⟩ := hiff.1 hn
    exact hno (ha.renews hf hfirst hfault)

/-- A stop and a start make the listener forget that its token was refused: the next start
presents it again. -/
theorem refused_token_presented_after_restart :
    let token : Token := ⟨"t", 0⟩
    let f : Fault := .auth (.tokenRefused 401)
    let seen : Glance := ⟨3600, some token⟩
    let inputs := [.call 0 .start, .opened (.error f), .call 1 .stop, .noticed, .call 2 .start]
    ∃ before mid after, (fresh Backoff.standard false).history (inputs.map (seen, ·)) =
      before ++ refusal f :: (mid ++ .did (.openChannel token) :: after) ∧
      f.isTokenRefused = true ∧ (∀ e ∈ mid, e.isOpening = false) ∧ ¬ Renewed mid := by
  intro token f seen inputs
  let before : List Entry :=
    [.did (.show .connecting), .did (.attempt true seen), .did (.openChannel token)]
  let mid : List Entry :=
    [.did (.show .retryScheduled), .did (.wait (Backoff.standard.delay 1)), .did (.reply 0 (.ok ())),
      .did .abandon, .did (.show .disconnected), .did (.reply 1 (.ok ())),
      .did (.show .connecting), .did (.attempt true seen)]
  have hrun : (fresh Backoff.standard false).history (inputs.map (seen, ·)) =
      before ++ refusal f :: (mid ++ .did (.openChannel token) :: []) := by cbv
  have hmid : ∀ e ∈ mid, e.isOpening = false := by simp [mid, Entry.isOpening]
  have hlast : LastBegun f mid ⟨true, seen, some f⟩ := ⟨mid.dropLast, [], rfl, by simp, rfl⟩
  refine ⟨before, mid, [], hrun, rfl, hmid, ?_⟩
  rw [(refused_token_presented_again_iff Backoff.standard false (inputs.map (seen, ·)) before mid []
    f token hrun rfl hmid).1]
  exact ⟨_, hlast, Nat.succ_ne_zero _, Or.inl rfl⟩

/-- A new token that could not be got for a passing reason makes the loop forget that the
old one was refused: the attempt after that presents it again. -/
theorem refused_token_presented_after_failed_refresh :
    let token : Token := ⟨"t", 0⟩
    let f : Fault := .auth (.tokenRefused 401)
    let seen : Glance := ⟨3600, some token⟩
    let inputs := [.call 0 .start, .opened (.error f), .elapsed, .proceed,
      .refreshed (.error (.fault (.transport (.timeout 1)))), .elapsed, .proceed]
    ∃ before mid after, (fresh Backoff.standard false).history (inputs.map (seen, ·)) =
      before ++ refusal f :: (mid ++ .did (.openChannel token) :: after) ∧ ¬ Renewed mid := by
  intro token f seen inputs
  refine ⟨[.did (.show .connecting), .did (.attempt true seen), .did (.openChannel token)],
    [.did (.show .retryScheduled), .did (.wait (Backoff.standard.delay 1)), .did (.reply 0 (.ok ())),
      .did (.show .connecting), .did (.attempt false seen), .did .refresh,
      .heard (.refreshed (.error (.fault (.transport (.timeout 1))))),
      .did (.show .retryScheduled), .did (.wait (Backoff.standard.delay 2)),
      .did (.show .connecting), .did (.attempt false seen)], [], by cbv, ?_⟩
  rintro ⟨earlier, between, later, he⟩
  have hmem : Entry.heard (.refreshed (.ok ())) ∈
      earlier ++ .did .refresh :: (between ++ .heard (.refreshed (.ok ())) :: later) := by simp
  rw [← he] at hmem
  simp at hmem

end Appliance.Listener

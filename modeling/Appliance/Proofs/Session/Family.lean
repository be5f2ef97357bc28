import Appliance.Proofs.Session.Finality
import Appliance.Session.Family
import Mathlib.Algebra.Order.Group.Int

/-!
# What leaves a session as it was

Refreshes, copies and disposals of many sessions may overlap in any order of their steps. A step
of one of them touches no session but its own, and that only where it says so: a refresh that
fails changes at most the scope, and the token is there until it is replaced or wiped.

* `SharedSession.Touches` — all that a step can do to its session.
* `Overlap.finished_stepped` — a refresh that is over stays as it ended.
* `SharedSession.session_of_failed` — **a refresh that fails changes at most the scope.**
* `SharedSession.accessToken_run` — the token stays unless a refresh renews it or a disposal
  takes it away.
* `Session.secondsLeft_eq_max` — the seconds left are those up to the expiry, rounded down.
* `SessionFamily.member_run` — **each member goes its own way.**
* `SessionFamily.session_is_left_intact` — **what may happen to a session in a family.**
-/

namespace Appliance

/-! ## Refreshes that are over -/

namespace Overlap

variable {w w' : Overlap}

/-- The refresh that takes a step. One that begins takes the next place. -/
def mover? (w : Overlap) : Event → Option Nat
  | .begin => some w.flights.length
  | .look k | .ask k | .resolved k _ | .issued k _ | .store k => some k
  | .mark | .wipe => none

/-- A refresh stays where it is while another one moves. -/
theorem flight_of_put {k n : Nat} {before f f' : Flight} (hk : w.flights[k]? = some before)
    (hn : w.flights[n]? = some f) (hne : before ≠ f) : (w.put k f').flights[n]? = some f := by
  have hkn : k ≠ n := by
    rintro rfl
    exact hne (Option.some.inj (hk.symm.trans hn))
  rw [flights_put, if_neg hkn]
  exact hn

/-- A refresh that is over stays as it ended. -/
theorem finished_stepped {n : Nat} {result : Except TokenService.Failure Unit}
    {asks : List (Nat × Ask)} (hs : Stepped w w' asks)
    (hn : w.flights[n]? = some (.going (.finished result))) :
    w'.flights[n]? = some (.going (.finished result)) := by
  cases hs with
  | stuck | marked | wiped => exact hn
  | began => rwa [List.getElem?_append_left (List.getElem?_eq_some_iff.1 hn).1]
  | looked hk => exact flight_of_put hk hn (by simp)
  | asked hk ha =>
    refine flight_of_put hk hn ?_
    rintro ⟨⟩
    cases ha
  | found scope hk => exact flight_of_put hk hn (by simp)
  | failed failure hk => exact flight_of_put hk hn (by simp)
  | took token hk => exact flight_of_put hk hn (by simp)
  | stored hk => exact flight_of_put hk hn (by simp)

end Overlap

/-! ## One session -/

namespace SharedSession

variable {w w' : SharedSession}

theorem run_append_fst (w : SharedSession) (before after : List Event) :
    (w.run (before ++ after)).1 = ((w.run before).1.run after).1 := by
  induction before generalizing w with
  | nil => rfl
  | cons e rest ih => exact ih (w.step e).1

/-- `Touches w e w'`: all that a step `e` which leads from `w` to `w'` can have done to the
session. -/
inductive Touches (w : SharedSession) : Event → SharedSession → Prop
  | leaves {e : Event} {w' : SharedSession} (h : w'.session = w.session) : Touches w e w'
  /-- A refresh stores the scope that it has found. -/
  | scope {k : Nat} {scope : Scope} {w' : SharedSession}
      (h : w'.session = { w.session with scope := some scope }) :
      Touches w (.refresh (.resolved k (.ok scope))) w'
  /-- A refresh stores its token, and is over without a failure. -/
  | token {k : Nat} {token : Token} {w' : SharedSession}
      (h : w'.session = { w.session with token := some token })
      (hk : w.overlap.flights[k]? = some (.storing token))
      (hk' : w'.overlap.flights[k]? = some (.going (.finished (.ok ())))) :
      Touches w (.refresh (.store k)) w'
  /-- A disposal marks the session. -/
  | marks {w' : SharedSession} (h : w'.session = w.session.mark) : Touches w .dispose w'
  /-- A disposal wipes the session. -/
  | wipes {k : Nat} {w' : SharedSession} (h : w'.session = w.session.wipe) :
      Touches w (.wipe k) w'

/-- What a step of a refresh does. -/
theorem touches_refresh (w : SharedSession) (e : Overlap.Event) :
    Touches w (.refresh e) (w.step (.refresh e)).1 := by
  cases e with
  | begin | mark | wipe => exact .leaves rfl
  | look k | ask k | issued k answer =>
    refine .leaves ?_
    simp only [step, session, Overlap.Event.isOfRefresh, if_true, Overlap.step]
    repeat' split
    all_goals rfl
  | resolved k answer =>
    cases answer with
    | error failure =>
      refine .leaves ?_
      simp only [step, session, Overlap.Event.isOfRefresh, if_true, Overlap.step]
      repeat' split
      all_goals rfl
    | ok scope =>
      simp only [step, Overlap.Event.isOfRefresh, if_true, Overlap.step]
      repeat' split
      · exact .leaves rfl
      · exact .scope rfl
      · exact .leaves rfl
  | store k =>
    simp only [step, Overlap.Event.isOfRefresh, if_true, Overlap.step]
    split
    · rename_i token hk
      exact .token rfl hk (Overlap.set_flight_self hk _)
    · exact .leaves rfl

/-- Every step does one of these things to its session, and no other. -/
theorem touches_step (w : SharedSession) (e : Event) : Touches w e (w.step e).1 := by
  cases e with
  | refresh e => exact touches_refresh w e
  | read | copy => exact .leaves rfl
  | take k | duplicate k =>
    refine .leaves ?_
    simp only [step]
    split <;> rfl
  | dispose =>
    simp only [step, Overlap.step]
    split
    · exact .leaves rfl
    · exact .marks rfl
  | wipe k =>
    simp only [step, Overlap.step]
    repeat' split
    · exact .leaves rfl
    · exact .wipes rfl
    · exact .leaves rfl
    · exact .leaves rfl

/-- As far as the refreshes are concerned, every step is one of theirs or nothing at all. -/
theorem stepped_overlap (w : SharedSession) (e : Event) :
    ∃ asks, Overlap.Stepped w.overlap (w.step e).1.overlap asks := by
  cases e with
  | refresh e =>
    simp only [step]
    split
    · exact ⟨_, Overlap.stepped_step w.overlap e⟩
    · exact ⟨_, .stuck⟩
  | read | copy => exact ⟨_, .stuck⟩
  | take k | duplicate k =>
    simp only [step]
    split <;> exact ⟨_, .stuck⟩
  | dispose => exact ⟨_, Overlap.stepped_step w.overlap .mark⟩
  | wipe k =>
    simp only [step]
    split
    · exact ⟨_, .stuck⟩
    · split
      · exact ⟨_, Overlap.stepped_step w.overlap .wipe⟩
      · exact ⟨_, .stuck⟩

/-- A refresh that is over stays as it ended, whatever happens. -/
theorem finished_run {n : Nat} {result : Except TokenService.Failure Unit}
    (hn : w.overlap.flights[n]? = some (.going (.finished result))) (events : List Event) :
    (w.run events).1.overlap.flights[n]? = some (.going (.finished result)) := by
  induction events generalizing w with
  | nil => exact hn
  | cons e rest ih =>
    obtain ⟨asks, hs⟩ := stepped_overlap w e
    exact ih (Overlap.finished_stepped hs hn)

/-- **A refresh that fails changes at most the scope**, in each of its steps. -/
theorem session_of_failed {before rest : List Event} {e : Overlap.Event} {n : Nat}
    {failure : TokenService.Failure} (he : (w.run before).1.overlap.mover? e = some n)
    (hn : (w.run (before ++ .refresh e :: rest)).1.overlap.flights[n]? =
      some (.going (.finished (.error failure)))) :
    ∃ scope, ((w.run before).1.step (.refresh e)).1.session =
      { (w.run before).1.session with scope } := by
  have htouches := touches_refresh (w.run before).1 e
  cases htouches with
  | leaves h => exact ⟨_, h⟩
  | scope h => exact ⟨_, h⟩
  | token h hk hk' =>
    -- a refresh that has stored its token does not fail any more
    obtain rfl := Option.some.inj he
    rw [run_append_fst, run, finished_run hk' rest] at hn
    simp at hn

/-- `Renews w events`: on the way a refresh stores its token, and is over without a failure. -/
def Renews (w : SharedSession) (events : List Event) : Prop :=
  ∃ before k token rest, events = before ++ .refresh (.store k) :: rest ∧
    (w.run before).1.overlap.flights[k]? = some (.storing token) ∧
    ((w.run before).1.step (.refresh (.store k))).1.overlap.flights[k]? =
      some (.going (.finished (.ok ())))

theorem Renews.cons {e : Event} {events : List Event} (h : Renews (w.step e).1 events) :
    Renews w (e :: events) := by
  obtain ⟨before, k, token, rest, rfl, hk, hk'⟩ := h
  exact ⟨e :: before, k, token, rest, rfl, hk, hk'⟩

/-- What a step does to the token that the session shows. -/
theorem Touches.accessToken {e : Event} (h : Touches w e w') :
    w'.session.accessToken = w.session.accessToken ∨ w'.session.accessToken = none ∨
      ∃ k token, e = .refresh (.store k) ∧ w.overlap.flights[k]? = some (.storing token) ∧
        w'.overlap.flights[k]? = some (.going (.finished (.ok ()))) := by
  cases h with
  | leaves h => exact .inl (by rw [h])
  | scope h => exact .inl (by rw [h]; rfl)
  | token h hk hk' => exact .inr (.inr ⟨_, _, rfl, hk, hk'⟩)
  | marks h => exact .inr (.inl (by rw [h]; rfl))
  | wipes h => exact .inr (.inl (by rw [h]; exact ite_self none))

/-- **The token stays** as it is, unless a refresh renews it or a disposal takes it away. -/
theorem accessToken_run (w : SharedSession) (events : List Event) :
    (w.run events).1.session.accessToken = w.session.accessToken ∨
      (w.run events).1.session.accessToken = none ∨ Renews w events := by
  induction events generalizing w with
  | nil => exact .inl rfl
  | cons e rest ih =>
    have hrest := ih (w.step e).1
    rcases (touches_step w e).accessToken with hkept | hlost | ⟨k, token, rfl, hk, hk'⟩
    · rw [hkept] at hrest
      exact hrest.imp id (.imp id .cons)
    · rw [hlost] at hrest
      exact .inr (hrest.elim .inl (.imp id .cons))
    · exact .inr (.inr ⟨[], k, token, rest, rfl, hk, hk'⟩)

end SharedSession

/-! ## The time that is left -/

namespace Session

variable {s s' : Session} {now now' : Instant}

/-- The seconds left are those up to the expiry, rounded down, and never less than none. -/
theorem secondsLeft_eq_max {t : Token} (ht : s.accessToken = some t) (now : Instant) :
    (s.secondsLeft now : Int) =
      max 0 (((t.expiry : Int) - (now : Int)) / Duration.nanosPerSecond) := by
  rw [secondsLeft, ht]
  simp only [Token.secondsLeft, Token.remaining, Duration.nanosPerSecond]
  omega

/-- The time that a token has left never grows. -/
theorem secondsLeft_le (hs : s'.accessToken = s.accessToken ∨ s'.accessToken = none)
    (hnow : now ≤ now') : s'.secondsLeft now' ≤ s.secondsLeft now := by
  rcases hs with hs | hs
  · rw [secondsLeft, secondsLeft, hs]
    split
    · exact Nat.div_le_div_right (Token.remaining_antitone _ hnow)
    · exact Nat.le_refl 0
  · rw [secondsLeft, hs]
    exact Nat.zero_le _

end Session

/-! ## Copies -/

namespace SharedSession

variable {w : SharedSession} {e : Event} {s : Session}

/-- A session is copied with all that it holds, and its copy is in use. -/
theorem duplicate_eq_ok_iff {s s' : Session} :
    s.duplicate = .ok s' ↔ s.credential ≠ none ∧ s' = { s with disposed := false } := by
  obtain ⟨credential, scope, token, disposed⟩ := s
  cases credential with
  | none => simp [Session.duplicate]
  | some c => simp [Session.duplicate, eq_comm]

/-- A call to copy that was admitted takes what its session holds. -/
theorem copied {k : Nat} (hk : w.copyings[k]? = some .admitted) (hh : w.overlap.holder = none) :
    (w.step (.duplicate k)).1.copyings[k]? = some (.over w.session.duplicate) := by
  simp only [step, hh, Option.isSome_none, Bool.false_eq_true, if_false]
  exact Visit.finish_of_admitted hk _

/-- **A session is made** when a call to copy that was admitted takes what its session holds, and
it starts with that. -/
theorem born?_eq_some_iff : w.born? e = some s ↔
    ∃ k, e = .duplicate k ∧ w.copyings[k]? = some .admitted ∧ w.overlap.holder = none ∧
      w.session.credential ≠ none ∧ s = { w.session with disposed := false } := by
  cases e with
  | duplicate k =>
    simp only [Event.duplicate.injEq, exists_eq_left', ← duplicate_eq_ok_iff]
    refine ⟨fun h => ?_, fun ⟨hk, hh, hs⟩ => ?_⟩
    · simp only [born?] at h
      split at h
      · rename_i s' hk hk'
        cases h
        cases hh : w.overlap.holder with
        | some n => simp [step, hh, hk] at hk'
        | none =>
          rw [copied hk hh] at hk'
          exact ⟨hk, rfl, Visit.over.inj (Option.some.inj hk')⟩
      · cases h
    · simp only [born?, hk, copied hk hh, hs]
  | _ => simp [born?]

end SharedSession

/-! ## Many sessions -/

namespace SessionFamily

variable {f : SessionFamily} {w : SharedSession} {k : Nat}

/-- The step of its own that a member takes. -/
def Event.own? (k : Nat) : Event → Option SharedSession.Event
  | .passes _ => none
  | .call n e => if n = k then some e else none

/-- The steps of its own that a member takes. -/
def own (k : Nat) (events : List Event) : List SharedSession.Event :=
  events.filterMap (Event.own? k)

/-- What a step of a member makes of the family. -/
theorem members_step_call (hk : f.members[k]? = some w) (e : SharedSession.Event) :
    (f.step (.call k e)).members =
      f.members.set k (w.step e).1 ++ (w.born? e).toList.map .ofSession := by
  simp only [step, hk]

/-- A member takes its own steps. -/
theorem member_step_own (hk : f.members[k]? = some w) (e : SharedSession.Event) :
    (f.step (.call k e)).members[k]? = some (w.step e).1 := by
  have hlt := (List.getElem?_eq_some_iff.1 hk).1
  rw [members_step_call hk, List.getElem?_append_left (by simpa using hlt),
    List.getElem?_set_self hlt]

/-- **No member changes when something else happens.** -/
theorem member_step_other (hk : f.members[k]? = some w) {event : Event}
    (hown : event.own? k = none) : (f.step event).members[k]? = some w := by
  cases event with
  | passes nanos => exact hk
  | call n e =>
    have hne : n ≠ k := fun h => by simp [Event.own?, h] at hown
    simp only [step]
    split
    · rw [List.getElem?_append_left (by simpa using (List.getElem?_eq_some_iff.1 hk).1),
        List.getElem?_set_ne hne, hk]
    · exact hk

/-- **Each member goes its own way**: what happens to a family leads a member where the steps of
its own lead it alone. -/
theorem member_run (hk : f.members[k]? = some w) (events : List Event) :
    (f.run events).members[k]? = some (w.run (own k events)).1 := by
  induction events generalizing f w with
  | nil => exact hk
  | cons event rest ih =>
    cases hown : event.own? k with
    | none =>
      have hrest := ih (member_step_other hk hown)
      rwa [own, List.filterMap_cons_none hown]
    | some e =>
      have hcall : event = .call k e := by
        cases event with
        | passes nanos => cases hown
        | call n e' =>
          simp only [Event.own?, Option.ite_none_right_eq_some, Option.some.injEq] at hown
          rw [hown.1, hown.2]
      have hrest := ih (hcall ▸ member_step_own hk e)
      rwa [own, List.filterMap_cons_some hown]

@[simp] theorem now_step_passes (f : SessionFamily) (nanos : Nat) :
    (f.step (.passes nanos)).now = f.now + nanos := rfl

@[simp] theorem now_step_call (f : SessionFamily) (k : Nat) (e : SharedSession.Event) :
    (f.step (.call k e)).now = f.now := by
  simp only [step]
  split <;> rfl

/-- Time does not go back. -/
theorem now_le_run (f : SessionFamily) (events : List Event) : f.now ≤ (f.run events).now := by
  induction events generalizing f with
  | nil => exact Nat.le_refl f.now
  | cons event rest ih =>
    refine Nat.le_trans ?_ (ih (f.step event))
    cases event with
    | passes nanos => exact Nat.le_add_right f.now nanos
    | call n e => exact (now_step_call f n e).ge

/-- **What may happen to a session in a family.** Let `events` happen to a family in any order.
What is not a step of a call of the member `k` leaves it as it is, so the steps of its own lead it
where they lead it alone; and of these each touches the session only as `Touches` says. A refresh
that fails in the end has changed at most the scope. The seconds left are those up to the expiry,
rounded down, or none without a token, and there are not more of them later on, unless a refresh
that ends without a failure has renewed the token. A new member is the answer of a call to copy,
and starts with what its session holds at that step: the same credential and scope, and the same
token with the same expiry. -/
theorem session_is_left_intact (f : SessionFamily) (k : Nat) (w : SharedSession)
    (hk : f.members[k]? = some w) (events : List Event) :
    let f' := f.run events
    let w' := (w.run (own k events)).1
    (∀ event : Event, event.own? k = none → (f.step event).members[k]? = some w) ∧
    (∀ e, (f.step (.call k e)).members[k]? = some (w.step e).1 ∧
      SharedSession.Touches w e (w.step e).1) ∧
    f'.members[k]? = some w' ∧
    (∀ before e rest n failure, own k events = before ++ .refresh e :: rest →
      (w.run before).1.overlap.mover? e = some n →
      w'.overlap.flights[n]? = some (.going (.finished (.error failure))) →
      ∃ scope, ((w.run before).1.step (.refresh e)).1.session =
        { (w.run before).1.session with scope }) ∧
    (∀ t, w'.session.accessToken = some t → (w'.session.secondsLeft f'.now : Int) =
      max 0 (((t.expiry : Int) - (f'.now : Int)) / Duration.nanosPerSecond)) ∧
    (w'.session.accessToken = none → w'.session.secondsLeft f'.now = 0) ∧
    (w'.session.secondsLeft f'.now ≤ w.session.secondsLeft f.now ∨ w.Renews (own k events)) ∧
    (∀ e, (f.step (.call k e)).members =
        f.members.set k (w.step e).1 ++ (w.born? e).toList.map .ofSession ∧
      ∀ s, w.born? e = some s → s = { w.session with disposed := false } ∧
        ∃ n, e = .duplicate n ∧ (w.step e).1.copyings[n]? = some (.over (.ok s))) ∧
    (∀ n, w.copyings[n]? = some .admitted → w.overlap.holder = none →
      w.session.credential ≠ none →
      w.born? (.duplicate n) = some { w.session with disposed := false }) := by
  intro f' w'
  refine ⟨fun event => member_step_other hk, fun e => ⟨member_step_own hk e, w.touches_step e⟩,
    member_run hk events, ?failed, fun t ht => Session.secondsLeft_eq_max ht f'.now, ?without,
    ?later, fun e => ⟨members_step_call hk e, ?copy⟩, ?copied⟩
  case failed =>
    intro before e rest n failure hevents he hn
    have hrun : w' = (w.run (before ++ .refresh e :: rest)).1 := by rw [← hevents]
    rw [hrun] at hn
    exact SharedSession.session_of_failed he hn
  case without =>
    intro hnone
    rw [Session.secondsLeft, hnone]
  case later =>
    rcases w.accessToken_run (own k events) with hkept | hlost | hrenews
    · exact .inl (Session.secondsLeft_le (.inl hkept) (now_le_run f events))
    · exact .inl (Session.secondsLeft_le (.inr hlost) (now_le_run f events))
    · exact .inr hrenews
  case copy =>
    intro s hs
    obtain ⟨n, rfl, hn, hh, hc, rfl⟩ := SharedSession.born?_eq_some_iff.1 hs
    refine ⟨rfl, n, rfl, ?_⟩
    rw [SharedSession.copied hn hh, SharedSession.duplicate_eq_ok_iff.2 ⟨hc, rfl⟩]
  case copied =>
    intro n hn hh hc
    exact SharedSession.born?_eq_some_iff.2 ⟨n, rfl, hn, hh, hc, rfl⟩

/-- A session is copied and disposed of, and a refresh of the copy fails: three seconds later the
copy has its token still, with six of its nine seconds left. -/
theorem copy_outlives_original :
    let s : Session := ⟨some ⟨.password "u" ⟨[]⟩, none⟩, some .localAccounts,
      some ⟨"token", 9000000000⟩, false⟩
    let f := (ofSession 0 s).run [.call 0 .copy, .call 0 (.duplicate 0)]
    let events : List Event := [.call 1 (.refresh .begin), .call 1 (.refresh (.look 0)),
      .call 0 .dispose, .call 1 (.refresh (.ask 0)), .passes 3000000000, .call 0 (.wipe 0),
      .call 1 (.refresh (.issued 0 (.error (.fault Session.disposedFault))))]
    ∃ w, (f.run events).members[1]? = some w ∧ w.session = s ∧
      (w.session.secondsLeft (f.run events).now : Int) = 6 := by
  intro s f events
  have hcopy : f.members[1]? = some (SharedSession.ofSession s) := rfl
  have hnow : (f.run events).now = 3000000000 := by simp [f, events, run, ofSession]
  obtain ⟨-, -, hmember, -, hseconds, -⟩ := session_is_left_intact f 1 _ hcopy events
  refine ⟨_, hmember, rfl, ?_⟩
  rw [hseconds ⟨"token", 9000000000⟩ rfl, hnow]
  decide

end SessionFamily

end Appliance

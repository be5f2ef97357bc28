import Appliance.Proofs.Histories
import Appliance.Proofs.Session.Family
import Appliance.Session.Lineage

/-!
# A scope is resolved once

A refresh stores the scope as soon as the provider has found it, and may fail all the same after
that; and a session may be copied at any time. Still the two keep step: what a session goes by is
what was found on its line, until a disposal takes it away together with the credential.

* `SharedSession.Told` — all that a step can do, and what it tells.
* `SessionFamily.Successive` — the refreshes of one session do not overlap.
* `SessionFamily.Rested.successive` — they do not if each begins when those before it are over.
* `Descendant.Entry.Follows` — what may stand in a history after what.
* `Descendant.Sound` — the invariant: a session goes by the scope that its history tells.
* `Lineage.scope_is_resolved_once` — **on a line a scope is found at most once, nobody looks for it
  any more after that, and every token is asked for with it.**
-/

namespace Appliance

/-- What stands in a list after one place was replaced and more was added. -/
theorem getElem?_set_append {α : Type} {xs more : List α} {n k : Nat} {x y : α}
    (hk : (xs.set n x ++ more)[k]? = some y) :
    xs[k]? = some y ∨ k = n ∧ y = x ∨ xs.length ≤ k ∧ y ∈ more := by
  rw [List.getElem?_append, List.length_set] at hk
  split at hk
  · rename_i hlt
    rw [List.getElem?_set] at hk
    split at hk
    · rename_i hnk
      rw [if_pos (hnk ▸ hlt)] at hk
      exact .inr (.inl ⟨hnk.symm, (Option.some.inj hk).symm⟩)
    · exact .inl hk
  · exact .inr (.inr ⟨by omega, List.mem_of_getElem? hk⟩)

/-! ## Steps that tell nothing -/

/-- The scope that a refresh which has looked at the session goes by, or that it goes by none. -/
def Flight.scope? : Flight → Option (Option Scope)
  | .going (.resolving _) | .awaiting (.resolving _) => some none
  | .going (.issuing _ scope) | .awaiting (.issuing _ scope) => some (some scope)
  | _ => none

namespace Overlap

variable {w w' : Overlap}

/-- `Quiet w w'`: on the way from `w` to `w'` nobody has found out anything about the scope. -/
structure Quiet (w w' : Overlap) : Prop where
  /-- A session keeps its scope as long as it holds a credential. -/
  scope : w'.session.credential ≠ none →
    w.session.credential ≠ none ∧ w'.session.scope = w.session.scope
  grows : w.flights.length ≤ w'.flights.length
  /-- A refresh that goes by a scope has done so before, or has just looked at the session. -/
  flights : ∀ (n : Nat) (f : Flight), w'.flights[n]? = some f → f.scope? ≠ none →
    w.flights[n]? = some f ∨ f = .going w.session.snapshot

/-- Refreshes stay where they are, and the session keeps its scope or loses its credential. -/
theorem Quiet.of_flights (hflights : w'.flights = w.flights)
    (hs : w'.session.credential ≠ none →
      w.session.credential ≠ none ∧ w'.session.scope = w.session.scope) : Quiet w w' where
  scope := hs
  grows := Nat.le_of_eq (congrArg List.length hflights.symm)
  flights _ _ hn _ := .inl (hflights ▸ hn)

theorem Quiet.refl (w : Overlap) : Quiet w w := .of_flights rfl fun h => ⟨h, rfl⟩

/-- A refresh moves to where it goes by no scope, or has just looked at the session. -/
theorem Quiet.put {k : Nat} {f : Flight} (h : Quiet w w')
    (hf : f.scope? ≠ none → f = .going w.session.snapshot) : Quiet w (w'.put k f) where
  scope := h.scope
  grows := by simpa [Overlap.put] using h.grows
  flights n f' hn hf' := by
    rw [flights_put] at hn
    split at hn
    · split at hn
      · obtain rfl := Option.some.inj hn
        exact .inr (hf hf')
      · simp at hn
    · exact h.flights n f' hn hf'

/-- A refresh that begins goes by no scope yet. -/
theorem quiet_begin (w : Overlap) : Quiet w (w.step .begin).1 where
  scope h := ⟨h, rfl⟩
  grows := by simp [step]
  flights n f hn hf := by
    have hnone : (Flight.going w.session.enter).scope? = none := by
      rw [Session.enter]
      split <;> rfl
    simp only [step] at hn
    rw [List.getElem?_append] at hn
    split at hn
    · exact .inl hn
    · rw [List.getElem?_singleton] at hn
      split at hn
      · exact absurd (Option.some.inj hn ▸ hnone) hf
      · simp at hn

/-- **Only a refresh that calls the provider, or takes its answer about the scope, has anything
to tell.** -/
theorem quiet_step (w : Overlap) {e : Event} (hask : ∀ k, e ≠ .ask k)
    (hresolved : ∀ k answer, e ≠ .resolved k answer) :
    Quiet w (w.step e).1 ∧ (w.step e).2 = [] := by
  cases e with
  | begin => exact ⟨quiet_begin w, rfl⟩
  | look k =>
    simp only [step]
    repeat' split
    · exact ⟨.refl w, rfl⟩
    · exact ⟨(Quiet.refl w).put fun _ => rfl, rfl⟩
    · exact ⟨.refl w, rfl⟩
  | ask k => exact absurd rfl (hask k)
  | resolved k answer => exact absurd rfl (hresolved k answer)
  | issued k answer =>
    simp only [step]
    repeat' split
    · exact ⟨(Quiet.refl w).put fun h => absurd rfl h, rfl⟩
    · exact ⟨.refl w, rfl⟩
    · exact ⟨(Quiet.refl w).put fun h => absurd rfl h, rfl⟩
    · exact ⟨.put (.of_flights rfl fun h => ⟨h, rfl⟩) fun h => absurd rfl h, rfl⟩
    · exact ⟨.refl w, rfl⟩
  | store k =>
    simp only [step]
    split
    · exact ⟨.put (.of_flights rfl fun h => ⟨h, rfl⟩) fun h => absurd rfl h, rfl⟩
    · exact ⟨.refl w, rfl⟩
  | mark =>
    simp only [step]
    split
    · exact ⟨.refl w, rfl⟩
    · exact ⟨.of_flights rfl fun h => ⟨h, rfl⟩, rfl⟩
  | wipe =>
    simp only [step]
    split
    · exact ⟨.of_flights rfl fun h => absurd rfl h, rfl⟩
    · exact ⟨.refl w, rfl⟩

end Overlap

/-! ## What a step tells -/

namespace SharedSession

variable {w w' : SharedSession} {e : Event}

/-- `Told w e w' deeds`: all that a step `e` from `w` to `w'` can do, and what it tells. -/
inductive Told (w : SharedSession) : Event → SharedSession → List (Nat × Overlap.Deed) → Prop
  | quiet {e : Event} {w' : SharedSession} (h : w.overlap.Quiet w'.overlap) : Told w e w' []
  | called {k : Nat} {r : Refresh} {a : Overlap.Ask} {w' : SharedSession}
      (hk : w.overlap.flights[k]? = some (.going r)) (ha : Overlap.ask? r = some a)
      (hw : w'.overlap = w.overlap.put k (.awaiting r)) :
      Told w (.refresh (.ask k)) w' [(k, .calls a)]
  /-- A refresh takes the scope that was found, and stores it. -/
  | found {k : Nat} {c : Credential} {scope : Scope} {w' : SharedSession}
      (hk : w.overlap.flights[k]? = some (.awaiting (.resolving c)))
      (hw : w'.overlap =
        { w.overlap with session := { w.session with scope := some scope } }.put k
          (.going (.issuing c scope))) :
      Told w (.refresh (.resolved k (.ok scope))) w' [(k, .learns (.ok scope))]
  /-- A refresh takes notice that no scope was found, and fails. -/
  | unfound {k : Nat} {c : Credential} {f : TokenService.Failure} {w' : SharedSession}
      (hk : w.overlap.flights[k]? = some (.awaiting (.resolving c)))
      (hw : w'.overlap = w.overlap.put k (.going (.finished (.error f)))) :
      Told w (.refresh (.resolved k (.error f))) w' [(k, .learns (.error f))]

/-- Steps of other calls than refreshes tell nothing. -/
theorem told_of_not_refresh (he : ∀ e', e ≠ .refresh e') : Told w e (w.step e).1 (w.deeds e) := by
  cases e with
  | refresh e' => exact absurd rfl (he e')
  | read | copy => exact .quiet (.refl _)
  | take k | duplicate k =>
    simp only [deeds, learned?, step]
    split <;> exact .quiet (.refl _)
  | dispose => exact .quiet (Overlap.quiet_step _ (by simp) (by simp)).1
  | wipe k =>
    simp only [deeds, learned?, step]
    repeat' split
    · exact .quiet (.refl _)
    · exact .quiet (Overlap.quiet_step _ (by simp) (by simp)).1
    · exact .quiet (.refl _)

/-- A refresh that takes the provider's answer about the scope tells it. -/
theorem told_resolved (w : SharedSession) (k : Nat) (answer : Except TokenService.Failure Scope) :
    Told w (.refresh (.resolved k answer)) (w.step (.refresh (.resolved k answer))).1
      (w.deeds (.refresh (.resolved k answer))) := by
  simp only [deeds, learned?, step, Overlap.Event.isOfRefresh, if_true, Overlap.step]
  split
  · rename_i c hk
    have hset := Overlap.set_flight_self hk
    split
    · simp only [hk]
      exact .quiet (.refl _)
    · cases answer with
      | error f =>
        simp only [Session.takeScope, Overlap.put, hset, hk]
        exact .unfound hk rfl
      | ok scope =>
        simp only [Session.takeScope, Overlap.put, hset, hk]
        exact .found hk rfl
  · split
    · rename_i hne _ _ _ _ hk _
      exact absurd hk (hne _)
    · exact .quiet (.refl _)

/-- Other steps of refreshes tell nothing. -/
theorem told_of_quiet {e : Overlap.Event} (hask : ∀ k, e ≠ .ask k)
    (hresolved : ∀ k answer, e ≠ .resolved k answer) :
    Told w (.refresh e) (w.step (.refresh e)).1 (w.deeds (.refresh e)) := by
  obtain ⟨hquiet, hasks⟩ := Overlap.quiet_step w.overlap hask hresolved
  have hlearned : w.learned? (.refresh e) = none := by
    cases e with
    | resolved k answer => exact absurd rfl (hresolved k answer)
    | _ => rfl
  simp only [deeds, hlearned, step]
  split
  · simp only [hasks]
    exact .quiet hquiet
  · exact .quiet (.refl _)

/-- Every step does one of these things, and tells no more. -/
theorem told_step (w : SharedSession) (e : Event) : Told w e (w.step e).1 (w.deeds e) := by
  cases e with
  | refresh e =>
    cases e with
    | ask k =>
      simp only [deeds, learned?, step, Overlap.Event.isOfRefresh, if_true, Overlap.step]
      split
      · rename_i r hk
        split
        · rename_i a ha
          exact .called hk ha rfl
        · exact .quiet (.refl _)
      · exact .quiet (.refl _)
    | resolved k answer => exact told_resolved w k answer
    | _ => exact told_of_quiet (by simp) (by simp)
  | _ => exact told_of_not_refresh (by simp)

/-! ## Refreshes that do not overlap -/

/-- `InTurn w e`: a refresh that a later one has followed does not take its step. -/
def InTurn (w : SharedSession) : Event → Prop
  | .refresh e => ∀ n, w.overlap.mover? e = some n → n + 1 < w.overlap.flights.length →
    (w.step (.refresh e)).1 = w
  | _ => True

/-- What is told is told of the latest refresh. -/
theorem Told.latest {deeds : List (Nat × Overlap.Deed)} (h : Told w e w' deeds)
    (hw' : (w.step e).1 = w') (hturn : w.InTurn e) :
    ∀ p ∈ deeds, p.1 + 1 = w.overlap.flights.length := by
  -- a refresh that was followed would stay where it is
  have hmoved : ∀ {e' : Overlap.Event} {k : Nat} {f f' : Flight}, e = .refresh e' →
      w.overlap.mover? e' = some k → w.overlap.flights[k]? = some f →
      w'.overlap.flights[k]? = some f' → f ≠ f' → k + 1 = w.overlap.flights.length := by
    rintro e' k f f' rfl hmover hk hk' hne
    refine Decidable.byContradiction fun hlength => hne ?_
    have hlt := (List.getElem?_eq_some_iff.1 hk).1
    rw [← hw', hturn k hmover (by omega), hk] at hk'
    exact Option.some.inj hk'
  cases h with
  | quiet => simp
  | called hk ha hw =>
    simpa using hmoved rfl rfl hk (by rw [hw]; exact Overlap.set_flight_self hk _) (by simp)
  | found hk hw =>
    simpa using hmoved rfl rfl hk (by rw [hw]; exact Overlap.set_flight_self hk _) (by simp)
  | unfound hk hw =>
    simpa using hmoved rfl rfl hk (by rw [hw]; exact Overlap.set_flight_self hk _) (by simp)

end SharedSession

namespace Overlap

variable {w : Overlap} {e : Event}

/-- Only a refresh that begins takes a place. -/
theorem length_flights_step (he : e ≠ .begin) :
    (w.step e).1.flights.length = w.flights.length := by
  cases e with
  | begin => exact absurd rfl he
  | _ =>
    simp only [step]
    repeat' split
    all_goals simp [put]

/-- A refresh that is over takes no step. -/
theorem step_of_over {n : Nat} {result : Except TokenService.Failure Unit}
    (hn : w.flights[n]? = some (.going (.finished result))) (he : w.mover? e = some n) :
    w.step e = (w, []) := by
  cases e with
  | begin =>
    obtain rfl := Option.some.inj he
    simp at hn
  | mark | wipe => cases he
  | look k | ask k | resolved k answer | issued k answer | store k =>
    obtain rfl := Option.some.inj he
    simp [step, hn, ask?]

/-- `KeepsOver w w'`: refreshes that are over in `w` are so in `w'`, with the same result. -/
def KeepsOver (w w' : Overlap) : Prop :=
  ∀ (n : Nat) (result : Except TokenService.Failure Unit),
    w.flights[n]? = some (.going (.finished result)) →
    w'.flights[n]? = some (.going (.finished result))

theorem keepsOver_stepped {w' : Overlap} {asks : List (Nat × Ask)} (h : Stepped w w' asks) :
    KeepsOver w w' := fun _ _ => finished_stepped h

end Overlap

namespace SharedSession

variable {w : SharedSession} {e : Event}

/-- `Rested w`: all refreshes are over that a later one has followed. -/
def Rested (w : SharedSession) : Prop :=
  ∀ (n : Nat) (f : Flight), w.overlap.flights[n]? = some f → n + 1 < w.overlap.flights.length →
    f.IsOver

/-- A refresh that is over takes no step. -/
theorem Rested.inTurn (h : Rested w) (e : Event) : w.InTurn e := by
  cases e with
  | refresh e =>
    intro n hn hlt
    obtain ⟨result, hresult⟩ := h n _ (List.getElem?_eq_getElem (by omega)) hlt
    have hover : w.overlap.step e = (w.overlap, []) :=
      Overlap.step_of_over (by rw [List.getElem?_eq_getElem (by omega), hresult]) hn
    simp [step, hover]
  | _ => trivial

/-- Only a refresh that begins takes a place. -/
theorem length_flights_step (he : e ≠ .refresh .begin) :
    (w.step e).1.overlap.flights.length = w.overlap.flights.length := by
  cases e with
  | refresh e' =>
    simp only [step]
    split
    · exact Overlap.length_flights_step fun h => he (congrArg Event.refresh h)
    · rfl
  | dispose => exact Overlap.length_flights_step (by simp)
  | wipe k =>
    simp only [step]
    repeat' split
    · rfl
    · exact Overlap.length_flights_step (by simp)
    · rfl
  | read | copy => rfl
  | take k | duplicate k =>
    simp only [step]
    split <;> rfl

/-- A session is rested as long as its refreshes begin when those before them are over. -/
theorem Rested.step (h : Rested w)
    (hbegin : e = .refresh .begin → ∀ f ∈ w.overlap.flights, f.IsOver) : Rested (w.step e).1 := by
  intro n f hn hlt
  by_cases he : e = .refresh .begin
  · subst he
    have hflights : (w.step (.refresh .begin)).1.overlap.flights =
        w.overlap.flights ++ [.going w.session.enter] := rfl
    simp only [hflights, List.length_append, List.length_singleton] at hn hlt
    rw [List.getElem?_append_left (by omega)] at hn
    exact hbegin rfl f (List.mem_of_getElem? hn)
  · rw [length_flights_step he] at hlt
    obtain ⟨result, hresult⟩ := h n _ (List.getElem?_eq_getElem (by omega)) hlt
    have hbefore : w.overlap.flights[n]? = some (.going (.finished result)) := by
      rw [List.getElem?_eq_getElem (by omega), hresult]
    obtain ⟨asks, hstepped⟩ := w.stepped_overlap e
    exact ⟨result, Option.some.inj (hn.symm.trans (Overlap.finished_stepped hstepped hbefore))⟩

end SharedSession

namespace SessionFamily

/-- `InTurn f event`: a refresh that a later one of the same session has followed does not take
its step. -/
def InTurn (f : SessionFamily) : Event → Prop
  | .passes _ => True
  | .call k e => ∀ w, f.members[k]? = some w → w.InTurn e

/-- `Successive f events`: the refreshes of one session do not overlap. Once one begins, those
before it are over or were given up, and take no step. -/
def Successive (f : SessionFamily) : List Event → Prop
  | [] => True
  | event :: rest => f.InTurn event ∧ (f.step event).Successive rest

/-- `Rested f`: in each session all refreshes are over that a later one has followed. -/
def Rested (f : SessionFamily) : Prop :=
  ∀ (k : Nat) (w : SharedSession), f.members[k]? = some w → w.Rested

variable {f : SessionFamily}

theorem rested_ofSession (now : Instant) (s : Session) : Rested (ofSession now s) := by
  intro k w hk n r hn
  obtain rfl := List.mem_singleton.1 (List.mem_of_getElem? hk)
  simp [SharedSession.ofSession, Overlap.ofSession] at hn

theorem Rested.step (h : Rested f) {event : Event}
    (hbegin : ∀ k w, event = .call k (.refresh .begin) → f.members[k]? = some w →
      ∀ r ∈ w.overlap.flights, r.IsOver) : Rested (f.step event) := by
  cases event with
  | passes nanos => exact h
  | call n e =>
    intro k w' hk
    cases hn : f.members[n]? with
    | none =>
      simp only [SessionFamily.step, hn] at hk
      exact h k w' hk
    | some w =>
      rw [members_step_call hn] at hk
      rcases getElem?_set_append hk with hk | ⟨-, rfl⟩ | ⟨-, hmem⟩
      · exact h k w' hk
      · refine (h n w hn).step ?_
        rintro rfl
        exact hbegin n w rfl hn
      · -- no refresh of a copy has begun
        obtain ⟨s, -, rfl⟩ := List.mem_map.1 hmem
        intro m r hm
        simp [SharedSession.ofSession, Overlap.ofSession] at hm

/-- **Refreshes that begin when those of the same session are over do not overlap.** -/
theorem Rested.successive (h : Rested f) {events : List Event}
    (hevents : ∀ before k rest w, events = before ++ .call k (.refresh .begin) :: rest →
      (f.run before).members[k]? = some w → ∀ r ∈ w.overlap.flights, r.IsOver) :
    f.Successive events := by
  induction events generalizing f with
  | nil => trivial
  | cons event rest ih =>
    refine ⟨?turn, ih (h.step fun k w hevent => ?now) fun before k rest' w hsplit => ?later⟩
    case turn =>
      cases event with
      | passes nanos => trivial
      | call k e => exact fun w hk => (h k w hk).inTurn e
    case now => exact hevents [] k rest w (by rw [hevent]; rfl)
    case later => exact hevents (event :: before) k rest' w (by rw [hsplit]; rfl)

end SessionFamily

/-! ## What a history tells -/

namespace Descendant

/-- The scope that an entry tells of. -/
def Entry.scope? (e : Entry) : Option Scope :=
  match e.deed with
  | .learns (.ok scope) => some scope
  | _ => none

/-- The scope that was found, as a history tells. -/
def known (history : List Entry) : Option Scope := history.findSome? Entry.scope?

theorem known_snoc (history : List Entry) (e : Entry) :
    known (history ++ [e]) = (known history).or e.scope? := by
  simp [known, List.findSome?_append]

theorem Entry.scope?_eq_some_iff {e : Entry} {scope : Scope} :
    e.scope? = some scope ↔ e.deed = .learns (.ok scope) := by
  rw [Entry.scope?]
  split
  · rename_i hdeed
    simp [hdeed]
  · rename_i hne
    simpa using hne scope

theorem known_eq_none_iff {history : List Entry} :
    known history = none ↔ ∀ x ∈ history, ∀ scope, x.deed ≠ .learns (.ok scope) := by
  rw [known, List.findSome?_eq_none_iff]
  simp only [Option.eq_none_iff_forall_ne_some, ne_eq, Entry.scope?_eq_some_iff]

theorem exists_of_known {history : List Entry} {scope : Scope} (h : known history = some scope) :
    ∃ x ∈ history, x.deed = .learns (.ok scope) := by
  obtain ⟨x, hx, hscope⟩ := List.exists_of_findSome?_eq_some h
  exact ⟨x, hx, Entry.scope?_eq_some_iff.1 hscope⟩

/-- `Follows before e`: the entry `e` may stand after `before`. Nobody looks for a scope that is
known, and a token is asked for with the scope that is known, by a refresh that has not failed
to find one. -/
def Entry.Follows (before : List Entry) (e : Entry) : Prop :=
  match e.deed with
  | .calls (.resolve _) | .learns _ => known before = none
  | .calls (.authenticate _ scope) => known before = some scope ∧
    ∀ f, ⟨e.member, e.refresh, .learns (.error f)⟩ ∉ before

section Regular

variable {history before after : List Entry} {e : Entry}

/-- Once a scope is found none is found any more, and nobody looks for one. -/
theorem found_once (h : Regular Entry.Follows history) (hsplit : history = before ++ e :: after)
    {scope : Scope} (he : e.deed = .learns (.ok scope)) :
    (∀ x ∈ before ++ after, ∀ scope', x.deed ≠ .learns (.ok scope')) ∧
      ∀ x ∈ after, ∀ c, x.deed ≠ .calls (.resolve c) := by
  have hbefore : known before = none := by
    have hfollows := h before e after hsplit
    rwa [Entry.Follows, he] at hfollows
  have hafter : ∀ x ∈ after, ∃ before', known before' ≠ none ∧ x.Follows before' := by
    intro x hx
    obtain ⟨before', hmem, -, hfollows⟩ := h.later hsplit hx
    exact ⟨before', fun hnone => known_eq_none_iff.1 hnone e hmem scope he, hfollows⟩
  refine ⟨fun x hx scope' hdeed => ?_, fun x hx c hdeed => ?_⟩
  · rcases List.mem_append.1 hx with hx | hx
    · exact known_eq_none_iff.1 hbefore x hx scope' hdeed
    · obtain ⟨before', hknown, hfollows⟩ := hafter x hx
      rw [Entry.Follows, hdeed] at hfollows
      exact hknown hfollows
  · obtain ⟨before', hknown, hfollows⟩ := hafter x hx
    rw [Entry.Follows, hdeed] at hfollows
    exact hknown hfollows

/-- A token is asked for with the scope that was found. -/
theorem found_of_authenticate (h : Regular Entry.Follows history)
    (hsplit : history = before ++ e :: after) {c : Credential} {scope : Scope}
    (he : e.deed = .calls (.authenticate c scope)) : ∃ x ∈ before, x.deed = .learns (.ok scope) := by
  have hfollows := h before e after hsplit
  rw [Entry.Follows, he] at hfollows
  exact exists_of_known hfollows.1

/-- A refresh that has failed to find a scope asks for no token. -/
theorem not_authenticate_of_missed (h : Regular Entry.Follows history)
    (hsplit : history = before ++ e :: after) {f : TokenService.Failure}
    (he : e.deed = .learns (.error f)) {x : Entry} (hx : x ∈ after)
    (hmember : x.member = e.member) (hrefresh : x.refresh = e.refresh) (c : Credential)
    (scope : Scope) : x.deed ≠ .calls (.authenticate c scope) := by
  intro hdeed
  obtain ⟨before', hmem, -, hfollows⟩ := h.later hsplit hx
  rw [Entry.Follows, hdeed, hmember, hrefresh] at hfollows
  refine hfollows.2 f ?_
  rw [← he]
  exact hmem

end Regular

/-! ## The invariant of every run -/

/-- `Sound k d`: the member `k` of a family goes by the scope that its history tells. -/
structure Sound (k : Nat) (d : Descendant) : Prop where
  regular : Regular Entry.Follows d.history
  /-- The session does, as long as it holds a credential. -/
  scope : d.calls.session.credential ≠ none → d.calls.session.scope = known d.history
  /-- So does its latest refresh. -/
  latest : ∀ (n : Nat) (f : Flight), d.calls.overlap.flights[n]? = some f →
    n + 1 = d.calls.overlap.flights.length → ∀ scope, f.scope? = some scope →
    scope = known d.history
  /-- A history tells of the session and of those that it comes from. -/
  line : ∀ e ∈ d.history, e.member ≤ k
  /-- A refresh that has failed to find a scope is over. -/
  missed : ∀ n f, ⟨k, n, .learns (.error f)⟩ ∈ d.history →
    ∃ result, d.calls.overlap.flights[n]? = some (.going (.finished result))

variable {k : Nat} {d : Descendant}

/-- A refresh that looks at a session goes by what that goes by. -/
theorem Sound.snapshot (h : Sound k d) {scope : Option Scope}
    (hscope : (Flight.going d.calls.session.snapshot).scope? = some scope) :
    scope = known d.history := by
  cases hc : d.calls.session.credential with
  | none => simp [Session.snapshot, hc, Session.refusedRefresh, Flight.scope?] at hscope
  | some c =>
    rw [← h.scope (by simp [hc])]
    cases hs : d.calls.session.scope <;>
      simpa [Session.snapshot, hc, hs, Flight.scope?, eq_comm] using hscope

/-- A step that tells nothing keeps a history sound. -/
theorem Sound.quiet (h : Sound k d) {w' : SharedSession} (hquiet : d.calls.overlap.Quiet w'.overlap)
    (hover : d.calls.overlap.KeepsOver w'.overlap) : Sound k ⟨w', d.history⟩ where
  regular := h.regular
  scope hc := by
    obtain ⟨hcredential, hscope⟩ := hquiet.scope hc
    exact hscope.trans (h.scope hcredential)
  latest n f hn hlength scope hscope := by
    rcases hquiet.flights n f hn (by simp [hscope]) with hbefore | rfl
    · have hgrows := hquiet.grows
      have hlt := (List.getElem?_eq_some_iff.1 hbefore).1
      exact h.latest n f hbefore (by simp only at hlength; omega) scope hscope
    · exact h.snapshot hscope
  line := h.line
  missed n f hmem := (h.missed n f hmem).imp fun _ => hover n _

section Tells

variable {w' : SharedSession} {n : Nat} {f : Flight}

/-- The latest refresh moves and tells something, and goes by what the history tells then. -/
theorem Sound.tells (h : Sound k d) {f' : Flight} {session : Session} {deed : Overlap.Deed}
    (hn : d.calls.overlap.flights[n]? = some f)
    (hlatest : n + 1 = d.calls.overlap.flights.length)
    (hw : w'.overlap = { d.calls.overlap with session }.put n f')
    (hover : d.calls.overlap.KeepsOver w'.overlap)
    (hfollows : Entry.Follows d.history ⟨k, n, deed⟩)
    (hsession : session.credential ≠ none →
      session.scope = known (d.history ++ [⟨k, n, deed⟩]))
    (hflight : ∀ scope, f'.scope? = some scope → scope = known (d.history ++ [⟨k, n, deed⟩]))
    (hmissed : ∀ g, deed = .learns (.error g) → f' = .going (.finished (.error g))) :
    Sound k ⟨w', d.history ++ [⟨k, n, deed⟩]⟩ := by
  have hn' : w'.overlap.flights[n]? = some f' := by
    rw [hw]
    exact Overlap.set_flight_self hn f'
  have hlength : w'.overlap.flights.length = d.calls.overlap.flights.length := by
    simp [hw, Overlap.put]
  have hsession' : w'.session = session := by
    rw [SharedSession.session, hw]
    rfl
  exact {
    regular := h.regular.snoc hfollows
    scope := by
      show w'.session.credential ≠ none → w'.session.scope = _
      rw [hsession']
      exact hsession
    latest := fun m g hm hlast scope hscope => by
      obtain rfl : m = n := by
        simp only at hlast
        omega
      obtain rfl := Option.some.inj (hm.symm.trans hn')
      exact hflight scope hscope
    line := fun e he => by
      rcases List.mem_append.1 he with he | he
      · exact h.line e he
      · rw [List.mem_singleton.1 he]
    missed := fun m g hmem => by
      rcases List.mem_append.1 hmem with hmem | hmem
      · exact (h.missed m g hmem).imp fun _ => hover m _
      · obtain ⟨-, rfl, hdeed⟩ := Entry.mk.inj (List.mem_singleton.1 hmem)
        exact ⟨_, hmissed g hdeed.symm ▸ hn'⟩ }

/-- The latest refresh calls the provider, and what it asks for is due. -/
theorem Sound.called (h : Sound k d) {r : Refresh} {a : Overlap.Ask}
    (hn : d.calls.overlap.flights[n]? = some (.going r)) (ha : Overlap.ask? r = some a)
    (hlatest : n + 1 = d.calls.overlap.flights.length)
    (hw : w'.overlap = d.calls.overlap.put n (.awaiting r))
    (hover : d.calls.overlap.KeepsOver w'.overlap) :
    Sound k ⟨w', d.history ++ [⟨k, n, .calls a⟩]⟩ := by
  have hgoes := h.latest n _ hn hlatest
  have hknown : known (d.history ++ [⟨k, n, .calls a⟩]) = known d.history := by
    simp [known_snoc, Entry.scope?]
  refine h.tells hn hlatest hw hover ?follows ?session ?flight (by simp)
  case follows =>
    cases r with
    | resolving c =>
      obtain rfl := Option.some.inj ha
      exact (hgoes none rfl).symm
    | issuing c scope =>
      obtain rfl := Option.some.inj ha
      refine ⟨(hgoes (some scope) rfl).symm, fun f hmem => ?_⟩
      -- a refresh that has failed to find a scope would be over
      obtain ⟨result, hresult⟩ := h.missed n f hmem
      simp [hn] at hresult
    | admitted | finished result => cases ha
  case session =>
    rw [hknown]
    exact h.scope
  case flight =>
    rw [hknown]
    cases r <;> exact hgoes

/-- The latest refresh takes the scope that was found. Nobody has found one before. -/
theorem Sound.found (h : Sound k d) {c : Credential} {scope : Scope}
    (hn : d.calls.overlap.flights[n]? = some (.awaiting (.resolving c)))
    (hlatest : n + 1 = d.calls.overlap.flights.length)
    (hw : w'.overlap =
      { d.calls.overlap with session := { d.calls.session with scope := some scope } }.put n
        (.going (.issuing c scope)))
    (hover : d.calls.overlap.KeepsOver w'.overlap) :
    Sound k ⟨w', d.history ++ [⟨k, n, .learns (.ok scope)⟩]⟩ := by
  have hnone : known d.history = none := (h.latest n _ hn hlatest none rfl).symm
  have hknown : known (d.history ++ [⟨k, n, .learns (.ok scope)⟩]) = some scope := by
    simp [known_snoc, hnone, Entry.scope?]
  refine h.tells hn hlatest hw hover hnone (fun _ => hknown.symm) ?_ (by simp)
  rintro _ ⟨⟩
  exact hknown.symm

/-- The latest refresh takes notice that no scope was found. -/
theorem Sound.unfound (h : Sound k d) {c : Credential} {g : TokenService.Failure}
    (hn : d.calls.overlap.flights[n]? = some (.awaiting (.resolving c)))
    (hlatest : n + 1 = d.calls.overlap.flights.length)
    (hw : w'.overlap = d.calls.overlap.put n (.going (.finished (.error g))))
    (hover : d.calls.overlap.KeepsOver w'.overlap) :
    Sound k ⟨w', d.history ++ [⟨k, n, .learns (.error g)⟩]⟩ := by
  have hnone : known d.history = none := (h.latest n _ hn hlatest none rfl).symm
  have hknown : known (d.history ++ [⟨k, n, .learns (.error g)⟩]) = known d.history := by
    simp [known_snoc, Entry.scope?]
  refine h.tells hn hlatest hw hover hnone ?_ (by simp [Flight.scope?]) ?_
  · rw [hknown]
    exact h.scope
  · rintro g ⟨⟩
    rfl

end Tells

/-- **Each step of its own keeps a session sound**, if its refreshes do not overlap. -/
theorem Sound.step (h : Sound k d) {e : SharedSession.Event} (hturn : d.calls.InTurn e) :
    Sound k (d.step k e) := by
  obtain ⟨asks, hstepped⟩ := d.calls.stepped_overlap e
  have hover := Overlap.keepsOver_stepped hstepped
  have htold := d.calls.told_step e
  have hlatest := htold.latest rfl hturn
  rw [Descendant.step]
  generalize (d.calls.step e).1 = w' at *
  generalize d.calls.deeds e = deeds at *
  cases htold with
  | quiet hquiet => simpa using h.quiet hquiet hover
  | called hn ha hw => exact h.called hn ha (hlatest _ (List.mem_singleton_self _)) hw hover
  | found hn hw => exact h.found hn (hlatest _ (List.mem_singleton_self _)) hw hover
  | unfound hn hw => exact h.unfound hn (hlatest _ (List.mem_singleton_self _)) hw hover

/-- **A copy is sound**, for it takes over the history with what the session holds. -/
theorem Sound.copied (h : Sound k d) {e : SharedSession.Event} {s : Session} {k' : Nat}
    (hs : d.calls.born? e = some s) (hk : k < k') : Sound k' ⟨.ofSession s, d.history⟩ := by
  obtain ⟨-, -, -, -, hc, rfl⟩ := SharedSession.born?_eq_some_iff.1 hs
  exact {
    regular := h.regular
    scope := fun _ => h.scope hc
    latest := fun n f hn => by simp [SharedSession.ofSession, Overlap.ofSession] at hn
    line := fun x hx => Nat.le_of_lt (Nat.lt_of_le_of_lt (h.line x hx) hk)
    missed := fun n f hmem => absurd (h.line _ hmem) (Nat.not_le.2 hk) }

/-- A session of which no call was made, and that no scope was found for. -/
theorem sound_ofSession {s : Session} (hs : s.scope = none) : Sound k ⟨.ofSession s, []⟩ where
  regular := regular_nil
  scope _ := hs
  latest n f hn := by simp [SharedSession.ofSession, Overlap.ofSession] at hn
  line e he := by simp at he
  missed n f hmem := by simp at hmem

end Descendant

/-! ## Families with their histories -/

namespace Lineage

variable {l : Lineage}

/-- Histories are only told: they change nothing. -/
theorem family_step (l : Lineage) (event : SessionFamily.Event) :
    (l.step event).family = l.family.step event := by
  cases event with
  | passes nanos => rfl
  | call k e =>
    simp only [step, SessionFamily.step, family, List.getElem?_map]
    cases l.members[k]? with
    | none => rfl
    | some d => simp [Descendant.step, List.map_set, Function.comp_def]

theorem family_run (l : Lineage) (events : List SessionFamily.Event) :
    (l.run events).family = l.family.run events := by
  induction events generalizing l with
  | nil => rfl
  | cons event rest ih =>
    rw [run, SessionFamily.run, List.foldl_cons, List.foldl_cons, ← family_step]
    exact ih (l.step event)

/-- The members after a step: one that has taken a step, a copy, and the others as they were. -/
theorem member_of_step {n k : Nat} {e : SharedSession.Event} {d' : Descendant}
    (hk : (l.step (.call n e)).members[k]? = some d') :
    l.members[k]? = some d' ∨ ∃ d, l.members[n]? = some d ∧ (k = n ∧ d' = d.step n e ∨
      n < k ∧ ∃ s, d.calls.born? e = some s ∧ d' = ⟨.ofSession s, d.history⟩) := by
  simp only [step] at hk
  split at hk
  · rename_i d hn
    have hlt := (List.getElem?_eq_some_iff.1 hn).1
    rcases getElem?_set_append hk with hk | ⟨rfl, rfl⟩ | ⟨hlength, hmem⟩
    · exact .inl hk
    · exact .inr ⟨d, hn, .inl ⟨rfl, rfl⟩⟩
    · obtain ⟨s, hs, rfl⟩ := List.mem_map.1 hmem
      exact .inr ⟨d, hn, .inr ⟨by omega, s, Option.mem_toList.1 hs, rfl⟩⟩
  · exact .inl hk

/-- `Sound l`: each member goes by the scope that its history tells. -/
def Sound (l : Lineage) : Prop :=
  ∀ (k : Nat) (d : Descendant), l.members[k]? = some d → d.Sound k

/-- Nothing that happens in turn makes a family unsound. -/
theorem Sound.step (h : Sound l) {event : SessionFamily.Event} (hturn : l.family.InTurn event) :
    Sound (l.step event) := by
  cases event with
  | passes nanos => exact h
  | call n e =>
    intro k d' hk
    rcases member_of_step hk with hk | ⟨d, hn, ⟨rfl, rfl⟩ | ⟨hlt, s, hs, rfl⟩⟩
    · exact h k d' hk
    · exact (h k d hn).step (hturn d.calls (by simp [family, hn]))
    · exact (h n d hn).copied hs hlt

/-- A family stays sound as long as refreshes of one session do not overlap. -/
theorem Sound.run (h : Sound l) {events : List SessionFamily.Event}
    (hevents : l.family.Successive events) : Sound (l.run events) := by
  induction events generalizing l with
  | nil => exact h
  | cons event rest ih =>
    refine ih (h.step hevents.1) ?_
    rw [family_step]
    exact hevents.2

theorem sound_ofSession (now : Instant) {s : Session} (hs : s.scope = none) :
    Sound (ofSession now s) := by
  intro k d hk
  rw [ofSession, List.getElem?_singleton] at hk
  split at hk
  · obtain rfl := Option.some.inj hk
    exact Descendant.sound_ofSession hs
  · cases hk

end Lineage

end Appliance

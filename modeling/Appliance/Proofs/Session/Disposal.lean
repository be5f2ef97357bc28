import Appliance.Session.Overlap

/-!
# What a disposal leaves under way

A session that was disposed of holds no credential and no token, and never will again.
The refreshes under way are another matter: one that waits for its scope finds out only
when its token arrives. This file says which refreshes still call the provider, and when
a scope is stored once more.

* `Stepped` — all that one step can do.
* `takeToken_eq_issued_store`, `dispose_eq_mark_wipe` — steps that come one right after
  another are the whole operations.
* `Orderly` — the invariant of every run: who stores a token holds the session, and only
  a session that is marked is wiped.
* `Dwindles` — after a disposal no refresh gets anything to do that it had not.
* `disposed_session_refreshes_iff` — **after a disposal a refresh calls the provider again
  exactly when it had looked at the session before and does not wait for a token, and a
  scope is stored again exactly when a refresh lacked one.**
-/

namespace Appliance

namespace Flight

/-- Whether a refresh has found no scope and still gets one. -/
def lacksScope : Flight → Bool
  | .going (.resolving _) | .awaiting (.resolving _) => true
  | _ => false

/-- Whether a refresh has looked at the session and has a call of the provider before it. -/
def isPending : Flight → Bool
  | .going (.resolving _) | .going (.issuing _ _) | .awaiting (.resolving _) => true
  | _ => false

end Flight

namespace Overlap

variable {w : Overlap}

theorem run_append_fst (w : Overlap) (before after : List Event) :
    (w.run (before ++ after)).1 = ((w.run before).1.run after).1 := by
  induction before generalizing w with
  | nil => rfl
  | cons e rest ih => exact ih (w.step e).1

/-! ## Where refreshes stand -/

/-- What a refresh has come to after one of them was moved. -/
theorem flights_put (w : Overlap) (k n : Nat) (f : Flight) :
    (w.put k f).flights[n]? =
      if k = n then (if k < w.flights.length then some f else none) else w.flights[n]? :=
  List.getElem?_set

/-- A refresh that was moved stands where it was moved to. -/
theorem set_flight_self {k : Nat} {f : Flight} (hk : w.flights[k]? = some f) (f' : Flight) :
    (w.flights.set k f')[k]? = some f' :=
  List.getElem?_set_self (List.getElem?_eq_some_iff.1 hk).1

/-- Whether a refresh has a call of the provider before it. -/
def pends (w : Overlap) (k : Nat) : Bool := w.flights[k]?.any Flight.isPending

/-- Whether a refresh still gets a scope. -/
def lacksScope (w : Overlap) (k : Nat) : Bool := w.flights[k]?.any Flight.lacksScope

theorem pends_of_flight {k : Nat} {f : Flight} (hk : w.flights[k]? = some f) :
    w.pends k = f.isPending := by
  rw [pends, hk]
  rfl

theorem lacksScope_of_flight {k : Nat} {f : Flight} (hk : w.flights[k]? = some f) :
    w.lacksScope k = f.lacksScope := by
  rw [lacksScope, hk]
  rfl

/-! ## What a step does -/

/-- `Stepped w w' asks`: a step leads from `w` to `w'` with the calls `asks` of the
provider. -/
inductive Stepped (w : Overlap) : Overlap → List (Nat × Ask) → Prop
  | stuck : Stepped w w []
  | began : Stepped w { w with flights := w.flights ++ [.going w.session.enter] } []
  | looked {k : Nat} (hk : w.flights[k]? = some (.going .admitted)) :
      Stepped w (w.put k (.going w.session.snapshot)) []
  | asked {k : Nat} {r : Refresh} {a : Ask} (hk : w.flights[k]? = some (.going r))
      (ha : ask? r = some a) : Stepped w (w.put k (.awaiting r)) [(k, a)]
  /-- The session takes the scope of a refresh. -/
  | found {k : Nat} {c : Credential} (scope : Scope)
      (hk : w.flights[k]? = some (.awaiting (.resolving c))) (hh : w.holder = none) :
      Stepped w
        ({ w with session := { w.session with scope := some scope } }.put k
          (.going (.issuing c scope))) []
  | failed {k : Nat} {r : Refresh} (f : TokenService.Failure)
      (hk : w.flights[k]? = some (.awaiting r)) :
      Stepped w (w.put k (.going (.finished (.error f)))) []
  /-- A refresh takes hold of the session. -/
  | took {k : Nat} {c : Credential} {scope : Scope} (token : Token)
      (hk : w.flights[k]? = some (.awaiting (.issuing c scope))) (hh : w.holder = none)
      (hd : w.session.disposed = false) :
      Stepped w ({ w with holder := some k }.put k (.storing token)) []
  | stored {k : Nat} {token : Token} (hk : w.flights[k]? = some (.storing token)) :
      Stepped w
        ({ w with session := { w.session with token := some token }, holder := none }.put k
          (.going (.finished (.ok ())))) []
  | marked (hd : w.session.disposed = false) :
      Stepped w { w with session := w.session.mark, wiping := true } []
  | wiped (hw : w.wiping = true) (hh : w.holder = none) :
      Stepped w { w with session := w.session.wipe, wiping := false } []

/-- Every step does one of these things. -/
theorem stepped_step (w : Overlap) (e : Event) : Stepped w (w.step e).1 (w.step e).2 := by
  cases e with
  | begin => exact .began
  | look k =>
    simp only [step]
    split
    · rename_i hk
      split
      · exact .stuck
      · exact .looked hk
    · exact .stuck
  | ask k =>
    simp only [step]
    split
    · rename_i r hk
      split
      · rename_i a ha
        exact .asked hk ha
      · exact .stuck
    · exact .stuck
  | resolved k answer =>
    simp only [step]
    split
    · rename_i c hk
      split
      · exact .stuck
      · rename_i hh
        cases answer with
        | error f => exact .failed f hk
        | ok scope => exact .found scope hk (by simpa [Except.isOk, Except.toBool] using hh)
    · exact .stuck
  | issued k answer =>
    simp only [step]
    split
    · rename_i f hk
      exact .failed f hk
    · rename_i token hk
      split
      · exact .stuck
      · rename_i hh
        split
        · exact .failed _ hk
        · rename_i hd
          exact .took token hk (by simpa using hh) (by simpa using hd)
    · exact .stuck
  | store k =>
    simp only [step]
    split
    · rename_i token hk
      exact .stored hk
    · exact .stuck
  | mark =>
    simp only [step]
    split
    · exact .stuck
    · rename_i hd
      exact .marked (by simpa using hd)
  | wipe =>
    simp only [step]
    split
    · rename_i h
      simp only [Bool.and_eq_true, Option.isNone_iff_eq_none] at h
      exact .wiped h.1 h.2
    · exact .stuck

/-! ## Steps that come one right after another -/

/-- A refresh whose token arrives takes it in two steps. -/
theorem takeToken_eq_issued_store {k : Nat} {c : Credential} {scope : Scope}
    (hk : w.flights[k]? = some (.awaiting (.issuing c scope))) (hh : w.holder = none)
    (answer : Except TokenService.Failure Token) :
    let w' := (w.run [.issued k answer, .store k]).1
    (w'.session, w'.flights[k]?) =
      ((w.session.takeToken answer).1, some (.going (w.session.takeToken answer).2)) := by
  have hset := set_flight_self hk
  intro w'
  cases answer with
  | error f => simp only [w', run, step, hk, put, hset, Session.takeToken]
  | ok token =>
    by_cases hd : w.session.disposed = true
    · simp [w', run, step, hk, hh, hd, put, hset, Session.takeToken, Session.refusedRefresh]
    · simp [w', run, step, hk, hh, hd, put, hset, Session.takeToken]

/-- A disposal takes two steps. -/
theorem dispose_eq_mark_wipe (hw : w.wiping = false) (hh : w.holder = none) :
    (w.run [.mark, .wipe]).1 = { w with session := w.session.dispose } := by
  obtain ⟨s, flights, holder, wiping⟩ := w
  obtain rfl : wiping = false := hw
  obtain rfl : holder = none := hh
  by_cases hd : s.disposed = true
  · simp [run, step, hd, Session.dispose]
  · simp [run, step, hd, Session.dispose]

/-! ## The invariant of every run -/

/-- `Orderly w`: the session is held, marked and wiped in order. -/
structure Orderly (w : Overlap) : Prop where
  /-- A refresh that stores its token holds the session. -/
  held : ∀ k token, w.flights[k]? = some (.storing token) → w.holder = some k
  /-- Only a session that is marked is wiped. -/
  marked : w.wiping = true → w.session.disposed = true

theorem orderly_ofSession (s : Session) : Orderly (ofSession s) where
  held k token h := by simp [ofSession] at h
  marked h := by simp [ofSession] at h

/-- Moving a refresh to where it does not store a token. -/
theorem storing_of_put {k n : Nat} {f : Flight} {token : Token} (hf : ∀ t, f ≠ .storing t)
    (hn : (w.put k f).flights[n]? = some (.storing token)) :
    n ≠ k ∧ w.flights[n]? = some (.storing token) := by
  rw [flights_put] at hn
  split at hn
  · split at hn
    · exact absurd (Option.some.inj hn) (hf token)
    · simp at hn
  · rename_i hne
    exact ⟨Ne.symm hne, hn⟩

theorem Orderly.stepped {w' : Overlap} {asks : List (Nat × Ask)} (h : Orderly w)
    (hs : Stepped w w' asks) : Orderly w' := by
  -- a refresh that moves to where it stores nothing leaves the others as they were
  have hmove : ∀ {k : Nat} {f : Flight}, (∀ t, f ≠ .storing t) → ∀ n token,
      (w.put k f).flights[n]? = some (.storing token) → w.holder = some n :=
    fun hf n token hn => h.held n token (storing_of_put hf hn).2
  cases hs with
  | stuck => exact h
  | began =>
    refine ⟨fun n token hn => ?_, h.marked⟩
    rw [List.getElem?_append] at hn
    split at hn
    · exact h.held n token hn
    · rw [List.getElem?_singleton] at hn
      split at hn <;> simp at hn
  | looked hk => exact ⟨hmove (by simp), h.marked⟩
  | asked hk ha => exact ⟨hmove (by simp), h.marked⟩
  | found scope hk hh => exact ⟨hmove (by simp), h.marked⟩
  | failed f hk => exact ⟨hmove (by simp), h.marked⟩
  | @took k _ _ token hk hh hd =>
    refine ⟨fun n t hn => ?_, h.marked⟩
    rw [flights_put] at hn
    split at hn
    · rename_i hkn
      rw [← hkn]
      rfl
    · -- nobody else stores a token, for nobody held the session
      have hheld := h.held n t hn
      simp [hh] at hheld
  | @stored k token hk =>
    refine ⟨fun n t hn => ?_, h.marked⟩
    obtain ⟨hne, hn⟩ := storing_of_put (f := .going (.finished (.ok ()))) (by simp) hn
    have hheld := (h.held k token hk).symm.trans (h.held n t hn)
    exact absurd (Option.some.inj hheld).symm hne
  | marked hd => exact ⟨h.held, fun _ => rfl⟩
  | wiped hw hh => exact ⟨h.held, by simp⟩

/-- Every run is orderly. -/
theorem Orderly.run (h : Orderly w) (events : List Event) : Orderly (w.run events).1 := by
  induction events generalizing w with
  | nil => exact h
  | cons e rest ih => exact ih (h.stepped (stepped_step w e))

/-! ## After a disposal -/

/-- `Emptied w`: the session was disposed of. -/
structure Emptied (w : Overlap) : Prop where
  disposed : w.session.disposed = true
  credential : w.session.credential = none
  token : w.session.token = none
  unheld : ∀ (k : Nat) (t : Token), w.flights[k]? ≠ some (.storing t)

/-- A disposal that wipes the session has disposed of it. -/
theorem Orderly.emptied_wipe (h : Orderly w) (hw : w.wiping = true) (hh : w.holder = none) :
    Emptied (w.step .wipe).1 := by
  have hstep : (w.step .wipe).1 = { w with session := w.session.wipe, wiping := false } := by
    simp [step, hw, hh]
  rw [hstep]
  exact {
    disposed := h.marked hw
    credential := rfl
    token := rfl
    unheld := fun k token hk => by simpa [hh] using h.held k token hk }

/-- `Dwindles w w' asks`: no refresh has anything to do in `w'` that it had not in `w`,
and only refreshes that had to call the provider did so. -/
structure Dwindles (w w' : Overlap) (asks : List (Nat × Ask)) : Prop where
  emptied : Emptied w'
  pends : ∀ k, w'.pends k = true → w.pends k = true
  lacks : ∀ k, w'.lacksScope k = true → w.lacksScope k = true
  asked : ∀ p ∈ asks, w.pends p.1 = true
  scope : w'.session.scope ≠ none → w.session.scope ≠ none ∨ ∃ k, w.lacksScope k = true

theorem Emptied.refl (h : Emptied w) : Dwindles w w [] where
  emptied := h
  pends _ hk := hk
  lacks _ hk := hk
  asked := by simp
  scope := Or.inl

theorem Dwindles.trans {w' w'' : Overlap} {asks asks' : List (Nat × Ask)} (h : Dwindles w w' asks)
    (h' : Dwindles w' w'' asks') : Dwindles w w'' (asks ++ asks') where
  emptied := h'.emptied
  pends k hk := h.pends k (h'.pends k hk)
  lacks k hk := h.lacks k (h'.lacks k hk)
  asked p hp := by
    rcases List.mem_append.1 hp with hp | hp
    · exact h.asked p hp
    · exact h.pends p.1 (h'.asked p hp)
  scope hs := by
    rcases h'.scope hs with hs | ⟨k, hk⟩
    · exact h.scope hs
    · exact Or.inr ⟨k, h.lacks k hk⟩

/-- A refresh moves on, and has nothing more to do than before. -/
theorem Emptied.put {k : Nat} {f f' : Flight} (h : Emptied w) (hk : w.flights[k]? = some f)
    (hf : ∀ t, f' ≠ .storing t) (hp : f'.isPending = true → f.isPending = true)
    (hl : f'.lacksScope = true → f.lacksScope = true) : Dwindles w (w.put k f') [] := by
  have hlt : k < w.flights.length := (List.getElem?_eq_some_iff.1 hk).1
  exact {
    emptied := ⟨h.disposed, h.credential, h.token, fun n t hn => h.unheld n t (storing_of_put hf hn).2⟩
    pends := fun n hn => by
      rw [Overlap.pends, flights_put, if_pos hlt] at hn
      split at hn
      · rename_i hkn
        rw [← hkn, pends_of_flight hk]
        exact hp hn
      · exact hn
    lacks := fun n hn => by
      rw [Overlap.lacksScope, flights_put, if_pos hlt] at hn
      split at hn
      · rename_i hkn
        rw [← hkn, lacksScope_of_flight hk]
        exact hl hn
      · exact hn
    asked := by simp
    scope := Or.inl }

/-- A step after a disposal leaves no refresh more to do. -/
theorem Emptied.stepped {w' : Overlap} {asks : List (Nat × Ask)} (h : Emptied w)
    (hs : Stepped w w' asks) : Dwindles w w' asks := by
  cases hs with
  | stuck => exact h.refl
  | began =>
    -- a refresh that begins now is refused
    have hrefused : w.session.enter = Session.refusedRefresh := if_pos h.disposed
    have hany : ∀ (p : Flight → Bool) (n : Nat), p (.going Session.refusedRefresh) = false →
        (w.flights ++ [.going Session.refusedRefresh])[n]?.any p = true →
        w.flights[n]?.any p = true := by
      intro p n hp hn
      rw [List.getElem?_append] at hn
      split at hn
      · exact hn
      · rw [List.getElem?_singleton] at hn
        split at hn <;> simp [hp] at hn
    rw [hrefused]
    exact { h.refl with
      emptied := ⟨h.disposed, h.credential, h.token, fun k t hk => by
        rw [List.getElem?_append] at hk
        split at hk
        · exact h.unheld k t hk
        · rw [List.getElem?_singleton] at hk
          split at hk <;> simp at hk⟩
      pends := fun n hn => hany _ n rfl hn
      lacks := fun n hn => hany _ n rfl hn }
  | looked hk =>
    have hrefused : w.session.snapshot = Session.refusedRefresh := by
      simp [Session.snapshot, h.credential]
    rw [hrefused]
    exact h.put hk (by simp) (by simp [Session.refusedRefresh, Flight.isPending])
      (by simp [Session.refusedRefresh, Flight.lacksScope])
  | @asked k r a hk ha =>
    have hpends : w.pends k = true := by
      rw [pends_of_flight hk]
      cases r <;> simp_all [ask?, Flight.isPending]
    have hput : Dwindles w (w.put k (.awaiting r)) [] := by
      refine h.put hk (by simp) ?_ ?_
      · cases r <;> simp [Flight.isPending]
      · cases r <;> simp [Flight.lacksScope]
    exact { hput with asked := by simp [hpends] }
  | @found k c scope hk hh =>
    have hlacks : w.lacksScope k = true := lacksScope_of_flight hk
    have hput : Dwindles w (w.put k (.going (.issuing c scope))) [] :=
      h.put hk (by simp) (fun _ => rfl) (by simp [Flight.lacksScope])
    exact {
      emptied := ⟨h.disposed, h.credential, h.token, hput.emptied.unheld⟩
      pends := hput.pends
      lacks := hput.lacks
      asked := by simp
      scope := fun _ => Or.inr ⟨k, hlacks⟩ }
  | failed f hk => exact h.put hk (by simp) (by simp [Flight.isPending]) (by simp [Flight.lacksScope])
  | took token hk hh hd => simp [h.disposed] at hd
  | stored hk => exact absurd hk (h.unheld _ _)
  | marked hd => simp [h.disposed] at hd
  | wiped hw hh =>
    exact { h.refl with
      emptied := ⟨h.disposed, rfl, rfl, h.unheld⟩
      scope := fun hs => absurd rfl hs }

/-- **After a disposal no refresh ever gets anything to do that it had not.** -/
theorem Emptied.run (h : Emptied w) (events : List Event) :
    Dwindles w (w.run events).1 (w.run events).2 := by
  induction events generalizing w with
  | nil => exact h.refl
  | cons e rest ih =>
    have hstep := h.stepped (stepped_step w e)
    exact hstep.trans (ih hstep.emptied)

/-! ## What happens in the end -/

/-- A refresh that has a call of the provider before it makes one, if it comes so far. -/
theorem exists_asked_of_pends {k : Nat} (hh : w.holder = none) (hk : w.pends k = true) :
    ∃ after a, (k, a) ∈ (w.run after).2 := by
  obtain ⟨f, hf, hp⟩ := Option.any_eq_true (Flight.isPending) _ |>.1 hk
  have hset := set_flight_self hf
  cases f with
  | going r =>
    cases r with
    | resolving c => exact ⟨[.ask k], .resolve c, by simp [run, step, hf, ask?]⟩
    | issuing c scope => exact ⟨[.ask k], .authenticate c scope, by simp [run, step, hf, ask?]⟩
    | _ => simp [Flight.isPending] at hp
  | awaiting r =>
    cases r with
    | resolving c =>
      refine ⟨[.resolved k (.ok .localAccounts), .ask k], .authenticate c .localAccounts, ?_⟩
      simp [run, step, hf, hh, hset, put, Session.takeScope, ask?]
    | _ => simp [Flight.isPending] at hp
  | storing token => simp [Flight.isPending] at hp

/-- A refresh that lacks a scope stores one, if the provider finds one. -/
theorem exists_scope_of_lacksScope {k : Nat} (hh : w.holder = none) (hk : w.lacksScope k = true) :
    ∃ after, (w.run after).1.session.scope ≠ none := by
  obtain ⟨f, hf, hp⟩ := Option.any_eq_true (Flight.lacksScope) _ |>.1 hk
  have hset := set_flight_self hf
  cases f with
  | going r =>
    cases r with
    | resolving c =>
      refine ⟨[.ask k, .resolved k (.ok .localAccounts)], ?_⟩
      simp [run, step, hf, hh, hset, put, Session.takeScope, ask?]
    | _ => simp [Flight.lacksScope] at hp
  | awaiting r =>
    cases r with
    | resolving c =>
      refine ⟨[.resolved k (.ok .localAccounts)], ?_⟩
      simp [run, step, hf, hh, put, Session.takeScope]
    | _ => simp [Flight.lacksScope] at hp
  | storing token => simp [Flight.lacksScope] at hp

/-- **What a disposal ends, and what it does not.**  When a disposal has wiped the session,
credential and token are gone for good, whatever the refreshes under way do.  A refresh may
call the provider again exactly when it has looked at the session already and does not wait
for a token; a scope may be stored again exactly when a refresh has found none and still
gets one.  A refresh that begins later does neither. -/
theorem disposed_session_refreshes_iff (s : Session) (before : List Event)
    (hw : ((ofSession s).run before).1.wiping = true)
    (hh : ((ofSession s).run before).1.holder = none) :
    let w := ((ofSession s).run (before ++ [.wipe])).1
    (∀ after, (w.run after).1.session.credential = none ∧
      (w.run after).1.session.accessToken = none) ∧
    (∀ k, (∃ after a, (k, a) ∈ (w.run after).2) ↔ w.pends k = true) ∧
    ((∃ after, (w.run after).1.session.scope ≠ none) ↔ ∃ k, w.lacksScope k = true) := by
  intro w
  have hwipe : w = (((ofSession s).run before).1.step .wipe).1 := run_append_fst _ _ _
  have hemptied : Emptied w := by
    rw [hwipe]
    exact ((orderly_ofSession s).run before).emptied_wipe hw hh
  have hholder : w.holder = none := by
    rw [hwipe]
    simp [step, hw, hh]
  have hscope : w.session.scope = none := by
    rw [hwipe]
    simp [step, hw, hh, Session.wipe]
  refine ⟨fun after => ?_, fun k => ⟨?_, exists_asked_of_pends hholder⟩, ⟨?_, ?_⟩⟩
  · have hlater := (hemptied.run after).emptied
    exact ⟨hlater.credential, if_pos hlater.disposed⟩
  · rintro ⟨after, a, ha⟩
    exact (hemptied.run after).asked _ ha
  · rintro ⟨after, hs⟩
    exact ((hemptied.run after).scope hs).resolve_left (absurd hscope)
  · rintro ⟨k, hk⟩
    exact exists_scope_of_lacksScope hholder hk

/-- A session is disposed of while its first refresh waits for the scope: the scope is
stored all the same, and the provider is asked for a token with it. -/
theorem disposed_session_resolves_scope :
    let s := Session.ofCredential ⟨.password "u" ⟨[]⟩, none⟩
    let before := [.begin, .look 0, .ask 0, .mark]
    let w := ((ofSession s).run (before ++ [.wipe])).1
    (∃ after a, (0, a) ∈ (w.run after).2) ∧ ∃ after, (w.run after).1.session.scope ≠ none := by
  intro s before w
  obtain ⟨-, hasks, hscope⟩ := disposed_session_refreshes_iff s before rfl rfl
  exact ⟨(hasks 0).2 rfl, hscope.2 ⟨0, rfl⟩⟩

end Overlap

end Appliance

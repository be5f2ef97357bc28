import Appliance.Proofs.Session.Disposal
import Appliance.Session.Sharing

/-!
# Nothing comes back after a disposal

When the disposal that came first has wiped the session, no call gets anything out of it
any more: not one that begins later, and not one under way that had found the session in
use. A refresh whose token arrives late does not store it.

* `Overlap.Unwinds` — after a disposal every refresh that has stored no token stores none.
* `Overlap.Sealed.settles` — a refresh that goes on ends with a failure, whatever the
  provider answers.
* `Visit.Refuses` — calls that are not over get the refusal, and no other answer.
* `SharedSession.Arranged` — the invariant of every run: the first disposal is the one that
  wipes the session, and has done so when it is over.
* `disposed_session_yields_nothing` — **after the first disposal every call is refused,
  and every refresh that had stored no token fails.**
-/

namespace Appliance

namespace Flight

/-- `f.HasStored`: the refresh has stored its token, and is over. -/
def HasStored (f : Flight) : Prop := f = .going (.finished (.ok ()))

/-- `f.IsOver`: the refresh is over. -/
def IsOver (f : Flight) : Prop := ∃ result, f = .going (.finished result)

end Flight

/-! ## Refreshes after a disposal -/

namespace Overlap

variable {w w' w'' : Overlap}

/-- `Sealed w`: the session was disposed of, and nobody holds it. -/
structure Sealed (w : Overlap) : Prop extends Emptied w where
  released : w.holder = none

/-- `Asking w`: who waits for the provider has called it. -/
def Asking (w : Overlap) : Prop :=
  ∀ (k : Nat) (r : Refresh), w.flights[k]? = some (.awaiting r) → (ask? r).isSome = true

/-- `Unwinds w w'`: the session was disposed of, and on the way from `w` to `w'` no refresh
has stored a token. -/
structure Unwinds (w w' : Overlap) : Prop where
  closed : Sealed w'
  unstored : ∀ (k : Nat) (f : Flight), w.flights[k]? = some f → ¬ f.HasStored →
    ∃ f', w'.flights[k]? = some f' ∧ ¬ f'.HasStored
  rests : ∀ (k : Nat) (f : Flight), w.flights[k]? = some f → f.IsOver → w'.flights[k]? = some f
  /-- A refresh that has begun on the way was refused. -/
  later : ∀ (k : Nat) (f : Flight), w.flights.length ≤ k → w'.flights[k]? = some f →
    f = .going Session.refusedRefresh

theorem Sealed.refl (h : Sealed w) : Unwinds w w where
  closed := h
  unstored _ f hk hf := ⟨f, hk, hf⟩
  rests _ _ hk _ := hk
  later k f hlen hk := by
    rw [List.getElem?_eq_none hlen] at hk
    simp at hk

theorem Unwinds.trans (h : Unwinds w w') (h' : Unwinds w' w'') : Unwinds w w'' where
  closed := h'.closed
  unstored k f hk hf := by
    obtain ⟨f', hk', hf'⟩ := h.unstored k f hk hf
    exact h'.unstored k f' hk' hf'
  rests k f hk hf := h'.rests k f (h.rests k f hk hf) hf
  later k f hlen hk := by
    rcases Nat.lt_or_ge k w'.flights.length with hlt | hge
    · -- it had begun in between already, and was refused then
      have hk' := List.getElem?_eq_getElem hlt
      have hrefused := h.later k _ hlen hk'
      have hstays := h'.rests k _ hk' ⟨_, hrefused⟩
      rw [hk, hrefused] at hstays
      exact Option.some.inj hstays
    · exact h'.later k f hge hk

/-- A refresh that is not over moves on without storing a token. -/
theorem Unwinds.of_set {k : Nat} {f f' : Flight} (hs : Sealed w')
    (hw : w'.flights = w.flights.set k f') (hk : w.flights[k]? = some f) (hf : ¬ f.IsOver)
    (hf' : ¬ f'.HasStored) : Unwinds w w' where
  closed := hs
  unstored n g hn hg := by
    rw [hw, List.getElem?_set]
    split
    · rename_i hkn
      exact ⟨f', by rw [if_pos (List.getElem?_eq_some_iff.1 hk).1], hf'⟩
    · exact ⟨g, hn, hg⟩
  rests n g hn hg := by
    rw [hw, List.getElem?_set_ne, hn]
    rintro rfl
    rw [hk] at hn
    exact hf (Option.some.inj hn ▸ hg)
  later n g hlen hn := by
    rw [hw, List.getElem?_eq_none (by simpa using hlen)] at hn
    simp at hn

theorem not_isOver_going {r : Refresh} (h : ∀ result, r ≠ .finished result) :
    ¬ (Flight.going r).IsOver := by
  rintro ⟨result, hr⟩
  exact h result (Flight.going.inj hr)

theorem not_isOver_awaiting (r : Refresh) : ¬ (Flight.awaiting r).IsOver := by
  rintro ⟨result, hr⟩
  cases hr

/-- After a disposal no step stores a token. -/
theorem Sealed.stepped {asks : List (Nat × Ask)} (h : Sealed w) (hs : Stepped w w' asks) :
    Unwinds w w' := by
  have hemptied := (h.toEmptied.stepped hs).emptied
  cases hs with
  | stuck => exact h.refl
  | began =>
    have hrefused : w.session.enter = Session.refusedRefresh := if_pos h.disposed
    rw [hrefused] at hemptied ⊢
    exact {
      closed := ⟨hemptied, h.released⟩
      unstored := fun k f hk hf =>
        ⟨f, by rw [List.getElem?_append_left (List.getElem?_eq_some_iff.1 hk).1, hk], hf⟩
      rests := fun k f hk _ => by
        rw [List.getElem?_append_left (List.getElem?_eq_some_iff.1 hk).1, hk]
      later := fun k f hlen hk => by
        rw [List.getElem?_append_right hlen, List.getElem?_singleton] at hk
        split at hk
        · exact (Option.some.inj hk).symm
        · simp at hk }
  | looked hk =>
    have hrefused : w.session.snapshot = Session.refusedRefresh := by
      simp [Session.snapshot, h.credential]
    rw [hrefused] at hemptied ⊢
    exact .of_set ⟨hemptied, h.released⟩ rfl hk (not_isOver_going (by simp))
      (by simp [Flight.HasStored, Session.refusedRefresh])
  | asked hk ha =>
    refine .of_set ⟨hemptied, h.released⟩ rfl hk (not_isOver_going ?_) (by simp [Flight.HasStored])
    rintro result rfl
    simp [ask?] at ha
  | found scope hk hh =>
    exact .of_set ⟨hemptied, h.released⟩ rfl hk (not_isOver_awaiting _) (by simp [Flight.HasStored])
  | failed f hk =>
    exact .of_set ⟨hemptied, h.released⟩ rfl hk (not_isOver_awaiting _) (by simp [Flight.HasStored])
  | took token hk hh hd => simp [h.disposed] at hd
  | stored hk => exact absurd hk (h.unheld _ _)
  | marked hd => simp [h.disposed] at hd
  | wiped hw hh =>
    exact { h.refl with closed := ⟨hemptied, hh⟩ }

/-- Only who has called the provider waits for it. -/
theorem Asking.stepped {asks : List (Nat × Ask)} (h : Asking w) (hs : Stepped w w' asks) :
    Asking w' := by
  have hmove : ∀ {k : Nat} {f : Flight}, (∀ r : Refresh, f = .awaiting r → (ask? r).isSome = true) →
      ∀ (n : Nat) (r : Refresh), (w.put k f).flights[n]? = some (.awaiting r) →
        (ask? r).isSome = true := by
    intro k f hf n r hn
    rw [flights_put] at hn
    split at hn
    · split at hn
      · exact hf r (Option.some.inj hn)
      · simp at hn
    · exact h n r hn
  cases hs with
  | stuck => exact h
  | began =>
    intro n r hn
    rw [List.getElem?_append] at hn
    split at hn
    · exact h n r hn
    · rw [List.getElem?_singleton] at hn
      split at hn <;> simp at hn
  | looked hk => exact hmove (by simp)
  | asked hk ha =>
    refine hmove fun r hr => ?_
    obtain rfl := Flight.awaiting.inj hr
    simp [ha]
  | found scope hk hh => exact hmove (by simp)
  | failed f hk => exact hmove (by simp)
  | took token hk hh hd => exact hmove (by simp)
  | stored hk => exact hmove (by simp)
  | marked hd => exact h
  | wiped hw hh => exact h

/-- The steps that are left for a refresh at most, with the answers of the provider. -/
def settling (k : Nat) (scope : Except TokenService.Failure Scope)
    (token : Except TokenService.Failure Token) : List Event :=
  [.look k, .ask k, .resolved k scope, .ask k, .issued k token]

/-- **A refresh that goes on after a disposal fails**, whatever the provider answers: with
the provider's failure, or because the session was disposed of. -/
theorem Sealed.settles (h : Sealed w) (ha : Asking w) {k : Nat} {f : Flight}
    (hk : w.flights[k]? = some f) (hf : ¬ f.HasStored)
    (scope : Except TokenService.Failure Scope) (token : Except TokenService.Failure Token) :
    ∃ failure, (w.run (settling k scope token)).1.flights[k]? =
        some (.going (.finished (.error failure))) ∧
      (failure = .fault Session.disposedFault ∨ scope = .error failure ∨ token = .error failure ∨
        f = .going (.finished (.error failure))) := by
  have hset := set_flight_self hk
  obtain ⟨⟨hdisposed, hcredential, -, hunheld⟩, hreleased⟩ := h
  -- the refresh is followed from where it stands; steps that it does not take change nothing
  cases f with
  | going r =>
    cases r with
    | admitted =>
      simp [settling, run, step, hk, put, hset, hreleased, ask?, Session.snapshot, hcredential,
        Session.refusedRefresh]
    | resolving c =>
      cases scope <;> cases token <;>
        simp [settling, run, step, hk, put, hset, hreleased, hdisposed, ask?, Session.takeScope,
          Session.refusedRefresh]
    | issuing c s =>
      cases token <;>
        simp [settling, run, step, hk, put, hset, hreleased, hdisposed, ask?, Session.refusedRefresh]
    | finished result =>
      cases result with
      | error failure => simp [settling, run, step, hk, ask?]
      | ok u => exact absurd rfl hf
  | awaiting r =>
    cases r with
    | resolving c =>
      cases scope <;> cases token <;>
        simp [settling, run, step, hk, put, hset, hreleased, hdisposed, ask?, Session.takeScope,
          Session.refusedRefresh]
    | issuing c s =>
      cases token <;>
        simp [settling, run, step, hk, put, hset, hreleased, hdisposed, Session.refusedRefresh]
    | admitted => simpa [ask?] using ha k _ hk
    | finished result => simpa [ask?] using ha k _ hk
  | storing t => exact absurd hk (hunheld k t)

end Overlap

/-! ## Calls that look at the session once -/

namespace Visit

variable {α : Type} {visits visits' visits'' : List (Visit α)} {refusal : α}

/-- `Refuses refusal visits visits'`: on the way from `visits` to `visits'` a call that was
not over has got no other answer than `refusal`. -/
structure Refuses (refusal : α) (visits visits' : List (Visit α)) : Prop where
  rests : ∀ (k : Nat) (a : α), visits[k]? = some (.over a) → visits'[k]? = some (.over a)
  answers : ∀ (k : Nat) (v : Visit α), (∀ a, visits[k]? ≠ some (.over a)) →
    visits'[k]? = some v → v = .admitted ∨ v = .over refusal

theorem Refuses.refl (refusal : α) (visits : List (Visit α)) : Refuses refusal visits visits where
  rests _ _ hk := hk
  answers k v hk hv := by
    cases v with
    | admitted => exact Or.inl rfl
    | «over» a => exact absurd hv (hk a)

theorem Refuses.trans (h : Refuses refusal visits visits') (h' : Refuses refusal visits' visits'') :
    Refuses refusal visits visits'' where
  rests k a hk := h'.rests k a (h.rests k a hk)
  answers k v hk hv := by
    by_cases hover : ∃ a, visits'[k]? = some (.over a)
    · obtain ⟨a, ha⟩ := hover
      have hstays := h'.rests k a ha
      rw [hv] at hstays
      rw [Option.some.inj hstays]
      exact h.answers k _ hk ha
    · exact h'.answers k v (not_exists.1 hover) hv

/-- A call that begins and is refused at once. -/
theorem Refuses.append (refusal : α) (visits : List (Visit α)) :
    Refuses refusal visits (visits ++ [.over refusal]) where
  rests k a hk := by rw [List.getElem?_append_left (List.getElem?_eq_some_iff.1 hk).1, hk]
  answers k v hk hv := by
    rw [List.getElem?_append] at hv
    split at hv
    · exact (Refuses.refl refusal visits).answers k v hk hv
    · rw [List.getElem?_singleton] at hv
      split at hv
      · exact Or.inr (Option.some.inj hv).symm
      · simp at hv

theorem finish_of_admitted {k : Nat} (hk : visits[k]? = some .admitted) (answer : α) :
    (finish visits k answer)[k]? = some (.over answer) := by
  rw [finish, hk]
  exact List.getElem?_set_self (List.getElem?_eq_some_iff.1 hk).1

theorem finish_of_over {k : Nat} {a : α} (hk : visits[k]? = some (.over a)) (answer : α) :
    finish visits k answer = visits := by
  rw [finish, hk]

/-- A call that was admitted and is refused in the end. -/
theorem Refuses.finish (refusal : α) (visits : List (Visit α)) (k : Nat) :
    Refuses refusal visits (finish visits k refusal) := by
  unfold Visit.finish
  split
  · rename_i hk
    exact {
      rests := fun n a hn => by
        rw [List.getElem?_set_ne, hn]
        rintro rfl
        simp [hk] at hn
      answers := fun n v hn hv => by
        rw [List.getElem?_set] at hv
        split at hv
        · split at hv
          · exact Or.inr (Option.some.inj hv).symm
          · simp at hv
        · exact (Refuses.refl refusal visits).answers n v hn hv }
  · exact .refl refusal visits

/-- A call that was not over is so after its last step, and was refused. -/
theorem Refuses.finished (h : Refuses refusal visits visits') {k : Nat} {v : Visit α}
    (hk : ∀ a, visits[k]? ≠ some (.over a)) (hv : visits'[k]? = some v) :
    (Visit.finish visits' k refusal)[k]? = some (.over refusal) := by
  rcases h.answers k v hk hv with rfl | rfl
  · exact finish_of_admitted hv refusal
  · rw [finish_of_over hv, hv]

end Visit

/-! ## The invariant of every run -/

namespace Overlap

variable {w : Overlap}

/-- No step of a refresh marks the session or wipes it. -/
theorem step_of_isOfRefresh {e : Event} (he : e.isOfRefresh = true) :
    (w.step e).1.session.disposed = w.session.disposed ∧ (w.step e).1.wiping = w.wiping := by
  cases e with
  | mark => simp [Event.isOfRefresh] at he
  | wipe => simp [Event.isOfRefresh] at he
  | resolved k answer =>
    simp only [step]
    split
    · split
      · exact ⟨rfl, rfl⟩
      · cases answer <;> exact ⟨rfl, rfl⟩
    · exact ⟨rfl, rfl⟩
  | begin => exact ⟨rfl, rfl⟩
  | _ =>
    simp only [step]
    repeat' split
    all_goals exact ⟨rfl, rfl⟩

end Overlap

namespace SharedSession

variable {w w' w'' : SharedSession}

/-- `Arranged w`: the disposal that came first marks the session and wipes it, and no other
one does. -/
structure Arranged (w : SharedSession) : Prop where
  orderly : Overlap.Orderly w.overlap
  asking : Overlap.Asking w.overlap
  /-- The session is marked as soon as a disposal has begun. -/
  marked : w.session.disposed = true ↔ w.disposals ≠ []
  /-- Only the first disposal wipes the session. -/
  first : ∀ k, w.disposals[k]? = some .wiping → k = 0 ∧ w.overlap.wiping = true
  /-- When it is over it has wiped the session. -/
  closed : w.disposals[0]? = some .over → Overlap.Sealed w.overlap

theorem arranged_ofSession {s : Session} (hs : s.disposed = false) : Arranged (ofSession s) where
  orderly := Overlap.orderly_ofSession s
  asking k r hk := by simp [ofSession, Overlap.ofSession] at hk
  marked := by simp [session, ofSession, Overlap.ofSession, hs]
  first k hk := by simp [ofSession] at hk
  closed h := by simp [ofSession] at h

theorem Arranged.refresh (h : Arranged w) {e : Overlap.Event} (he : e.isOfRefresh = true) :
    Arranged { w with overlap := (w.overlap.step e).1 } := by
  have hstepped := Overlap.stepped_step w.overlap e
  obtain ⟨hdisposed, hwiping⟩ := Overlap.step_of_isOfRefresh (w := w.overlap) he
  exact {
    orderly := h.orderly.stepped hstepped
    asking := h.asking.stepped hstepped
    marked := by
      rw [← h.marked]
      exact iff_of_eq (congrArg (· = true) hdisposed)
    first := fun k hk => by
      rw [hwiping]
      exact h.first k hk
    closed := fun hover => ((h.closed hover).stepped hstepped).closed }

theorem Arranged.dispose (h : Arranged w) : Arranged (w.step .dispose).1 := by
  have hstepped := Overlap.stepped_step w.overlap .mark
  cases hd : w.session.disposed with
  | true =>
    -- the session is marked already, and the disposal is over at once
    have hsame : w.overlap.step .mark = (w.overlap, []) := if_pos hd
    have hne := h.marked.1 hd
    have hstep : (w.step .dispose).1 = { w with disposals := w.disposals ++ [.over] } := by
      simp only [step, hsame, hd, if_true]
    have hzero : (w.disposals ++ [Disposal.over])[0]? = w.disposals[0]? :=
      List.getElem?_append_left (List.length_pos_iff.2 hne)
    rw [hstep]
    exact { h with
      marked := by
        refine iff_of_true hd ?_
        simp
      first := fun k hk => by
        rw [List.getElem?_append] at hk
        split at hk
        · exact h.first k hk
        · rw [List.getElem?_singleton] at hk
          split at hk <;> simp at hk
      closed := fun hover => h.closed (hzero.symm.trans hover) }
  | false =>
    have hnil : w.disposals = [] := by
      cases hl : w.disposals with
      | nil => rfl
      | cons first rest => simp [h.marked.2 (by simp [hl])] at hd
    have hmark : (w.overlap.step .mark).1 =
        { w.overlap with session := w.overlap.session.mark, wiping := true } := by
      have hd' : w.overlap.session.disposed = false := hd
      simp [Overlap.step, hd']
    have hstep : (w.step .dispose).1 =
        { w with overlap := (w.overlap.step .mark).1, disposals := [.wiping] } := by
      simp [step, hd, hnil]
    rw [hstep]
    exact {
      orderly := h.orderly.stepped hstepped
      asking := h.asking.stepped hstepped
      marked := by
        refine iff_of_true ?_ (List.cons_ne_nil _ _)
        simp [session, hmark, Session.mark]
      first := fun k hk => by
        rw [List.getElem?_singleton] at hk
        split at hk
        · rename_i hzero
          exact ⟨hzero, by rw [hmark]⟩
        · simp at hk
      closed := by simp }

theorem Arranged.wipe (h : Arranged w) {k : Nat} (hk : w.disposals[k]? = some .wiping)
    (hh : w.overlap.holder = none) :
    Arranged { w with
      overlap := (w.overlap.step .wipe).1, disposals := w.disposals.set k .over } := by
  have hstepped := Overlap.stepped_step w.overlap .wipe
  obtain ⟨rfl, hwiping⟩ := h.first k hk
  have hwipe : (w.overlap.step .wipe).1 =
      { w.overlap with session := w.overlap.session.wipe, wiping := false } := by
    simp [Overlap.step, hwiping, hh]
  have hne : w.disposals ≠ [] := by
    rintro hnil
    simp [hnil] at hk
  exact {
    orderly := h.orderly.stepped hstepped
    asking := h.asking.stepped hstepped
    marked := by
      refine iff_of_true ?_ (by simpa using hne)
      rw [session, hwipe]
      exact h.marked.2 hne
    first := fun n hn => by
      rw [List.getElem?_set] at hn
      split at hn
      · split at hn <;> simp at hn
      · rename_i hzero
        exact absurd (h.first n hn).1.symm hzero
    closed := fun _ => {
      toEmptied := h.orderly.emptied_wipe hwiping hh
      released := by rw [hwipe, hh] } }

theorem Arranged.step (h : Arranged w) (e : Event) : Arranged (w.step e).1 := by
  -- calls that look at the session leave it alone
  have hlook : ∀ readings copyings, Arranged { w with readings, copyings } :=
    fun _ _ => ⟨h.orderly, h.asking, h.marked, h.first, h.closed⟩
  cases e with
  | refresh e =>
    simp only [SharedSession.step]
    split
    · rename_i he
      exact h.refresh he
    · exact h
  | read => exact hlook _ _
  | take k =>
    simp only [SharedSession.step]
    split
    · exact h
    · exact hlook _ _
  | copy => exact hlook _ _
  | duplicate k =>
    simp only [SharedSession.step]
    split
    · exact h
    · exact hlook _ _
  | dispose => exact h.dispose
  | wipe k =>
    simp only [SharedSession.step]
    split
    · exact h
    · rename_i hh
      split
      · rename_i hk
        exact h.wipe hk (by simpa using hh)
      · exact h

/-- Every run is arranged so. -/
theorem Arranged.run (h : Arranged w) (events : List Event) : Arranged (w.run events).1 := by
  induction events generalizing w with
  | nil => exact h
  | cons e rest ih => exact ih (h.step e)

/-- **As soon as a disposal has begun, every call that begins is refused.** -/
theorem Arranged.refuses (h : Arranged w) (hd : w.disposals ≠ []) :
    (∀ {α : Type} (refusal : α), w.session.admission refusal = .over refusal) ∧
      w.session.enter = Session.refusedRefresh :=
  have hdisposed := h.marked.2 hd
  ⟨fun _ => if_pos hdisposed, if_pos hdisposed⟩

/-! ## After the first disposal -/

/-- `Ends w w' asks`: the session was disposed of, and on the way from `w` to `w'` nobody
has got anything out of it. -/
structure Ends (w w' : SharedSession) (asks : List (Nat × Overlap.Ask)) : Prop where
  dwindles : Overlap.Dwindles w.overlap w'.overlap asks
  unwinds : Overlap.Unwinds w.overlap w'.overlap
  readings : Visit.Refuses none w.readings w'.readings
  copyings : Visit.Refuses (.error Session.disposedFault) w.copyings w'.copyings

theorem ends_refl (h : Overlap.Sealed w.overlap) : Ends w w [] where
  dwindles := h.toEmptied.refl
  unwinds := h.refl
  readings := .refl _ _
  copyings := .refl _ _

theorem Ends.trans {asks asks' : List (Nat × Overlap.Ask)} (h : Ends w w' asks)
    (h' : Ends w' w'' asks') : Ends w w'' (asks ++ asks') where
  dwindles := h.dwindles.trans h'.dwindles
  unwinds := h.unwinds.trans h'.unwinds
  readings := h.readings.trans h'.readings
  copyings := h.copyings.trans h'.copyings

/-- A step of a refresh or of a disposal, as far as it concerns the refreshes. -/
theorem ends_overlap (h : Overlap.Sealed w.overlap) (e : Overlap.Event)
    (disposals : List Disposal) :
    Ends w { w with overlap := (w.overlap.step e).1, disposals } (w.overlap.step e).2 where
  dwindles := h.toEmptied.stepped (Overlap.stepped_step w.overlap e)
  unwinds := h.stepped (Overlap.stepped_step w.overlap e)
  readings := .refl _ _
  copyings := .refl _ _

theorem ends_step (h : Overlap.Sealed w.overlap) (e : Event) :
    Ends w (w.step e).1 (w.step e).2 := by
  have hdisposed : w.session.disposed = true := h.disposed
  have hrefl := ends_refl h
  cases e with
  | refresh e =>
    simp only [step]
    split
    · exact ends_overlap h e w.disposals
    · exact hrefl
  | read =>
    have hrefused : w.session.admission (none : Option Token) = .over none := if_pos hdisposed
    simp only [step, hrefused]
    exact { hrefl with readings := .append none w.readings }
  | take k =>
    simp only [step, h.released, Option.isSome_none, Bool.false_eq_true, if_false]
    have htoken : w.session.token = none := h.token
    rw [htoken]
    exact { hrefl with readings := .finish none w.readings k }
  | copy =>
    have hrefused : w.session.admission (Except.error (α := Session) Session.disposedFault) =
        .over (.error Session.disposedFault) := if_pos hdisposed
    simp only [step, hrefused]
    exact { hrefl with copyings := .append _ w.copyings }
  | duplicate k =>
    simp only [step, h.released, Option.isSome_none, Bool.false_eq_true, if_false]
    have hnothing : w.session.duplicate = .error Session.disposedFault := by
      have hcredential : w.session.credential = none := h.credential
      rw [Session.duplicate, hcredential]
    rw [hnothing]
    exact { hrefl with copyings := .finish _ w.copyings k }
  | dispose =>
    have hsame : w.overlap.step .mark = (w.overlap, []) := if_pos hdisposed
    have hends :=
      ends_overlap h .mark (w.disposals ++ [if w.session.disposed then .over else .wiping])
    rw [hsame] at hends
    simp only [step, hsame]
    exact hends
  | wipe k =>
    simp only [step]
    split
    · exact hrefl
    · split
      · have hends := ends_overlap h .wipe (w.disposals.set k .over)
        have hnone : (w.overlap.step .wipe).2 = [] := by
          simp only [Overlap.step]
          split <;> rfl
        rw [hnone] at hends
        exact hends
      · exact hrefl

/-- **After the first disposal nobody ever gets anything out of the session.** -/
theorem ends_run (h : Overlap.Sealed w.overlap) (events : List Event) :
    Ends w (w.run events).1 (w.run events).2 := by
  induction events generalizing w with
  | nil => exact ends_refl h
  | cons e rest ih =>
    have hstep := ends_step h e
    exact hstep.trans (ih hstep.unwinds.closed)

/-- Steps of refreshes lead the refreshes where they lead them alone. -/
theorem overlap_run_refresh (events : List Overlap.Event)
    (he : ∀ e ∈ events, e.isOfRefresh = true) :
    (w.run (events.map .refresh)).1.overlap = (w.overlap.run events).1 := by
  induction events generalizing w with
  | nil => rfl
  | cons e rest ih =>
    have hstep : (w.step (.refresh e)).1 = { w with overlap := (w.overlap.step e).1 } := by
      simp [step, he e List.mem_cons_self]
    simp only [List.map_cons, run, Overlap.run]
    rw [ih fun e he' => he e (List.mem_cons_of_mem _ he'), hstep]

/-! ## Steps that come one right after another -/

/-- A call that is admitted or refused, and then takes its answer. -/
theorem finish_admission {α : Type} (visits : List (Visit α)) (s : Session) (refusal answer : α) :
    (Visit.finish (visits ++ [s.admission refusal]) visits.length answer)[visits.length]? =
      some (.over (if s.disposed then refusal else answer)) := by
  have hlast : ∀ v : Visit α, (visits ++ [v])[visits.length]? = some v := fun v => by simp
  unfold Session.admission
  split
  · rw [Visit.finish_of_over (hlast _), hlast]
  · exact Visit.finish_of_admitted (hlast _) answer

/-- A call to read the token that nothing comes between gets the session's token. -/
theorem read_take (hh : w.overlap.holder = none) :
    (w.run [.read, .take w.readings.length]).1.readings[w.readings.length]? =
      some (.over w.session.accessToken) := by
  simp only [run, step, hh, Option.isSome_none, Bool.false_eq_true, if_false]
  exact finish_admission w.readings w.session none w.session.token

/-- A call to copy the session that nothing comes between gets the session's copy. -/
theorem copy_duplicate (hh : w.overlap.holder = none) :
    (w.run [.copy, .duplicate w.copyings.length]).1.copyings[w.copyings.length]? =
      some (.over w.session.copy) := by
  have hcopy : w.session.copy =
      if w.session.disposed then .error Session.disposedFault else w.session.duplicate := rfl
  simp only [run, step, hh, Option.isSome_none, Bool.false_eq_true, if_false]
  rw [hcopy]
  exact finish_admission w.copyings w.session _ w.session.duplicate

/-! ## What a disposal leaves -/

/-- **Nothing comes back after a disposal.**  Let the disposal that came first be over, after
any interleaving of refreshes, readers, copies and disposals; whatever happens `after` that,
the session shows no token and no time left, and cannot be copied.  A call to read the token
or to copy the session that was not over then gets nothing and the fault of a disposed
session, as soon as it goes on.  A refresh that begins later is refused without a call of the
provider; one that had not stored its token never does, and if it goes on it fails, whatever
the provider answers.  One more disposal changes nothing. -/
theorem disposed_session_yields_nothing (s : Session) (hs : s.disposed = false)
    (before : List Event) (hover : ((ofSession s).run before).1.disposals[0]? = some .over)
    (after : List Event) :
    let w := ((ofSession s).run before).1
    let w' := (w.run after).1
    (w'.session.accessToken = none ∧ (∀ now, w'.session.secondsLeft now = 0) ∧
      w'.session.copy = .error Session.disposedFault) ∧
    (∀ k v, (∀ token, w.readings[k]? ≠ some (.over token)) → w'.readings[k]? = some v →
      (w'.step (.take k)).1.readings[k]? = some (.over none)) ∧
    (∀ k v, (∀ result, w.copyings[k]? ≠ some (.over result)) → w'.copyings[k]? = some v →
      (w'.step (.duplicate k)).1.copyings[k]? = some (.over (.error Session.disposedFault))) ∧
    (∀ k f, w.overlap.flights.length ≤ k → w'.overlap.flights[k]? = some f →
      f = .going Session.refusedRefresh ∧ ∀ ask, (k, ask) ∉ (w.run after).2) ∧
    (∀ k f, w.overlap.flights[k]? = some f → ¬ f.HasStored →
      ∃ f', w'.overlap.flights[k]? = some f' ∧ ¬ f'.HasStored ∧ ∀ scope token, ∃ failure,
        (w'.run ((Overlap.settling k scope token).map .refresh)).1.overlap.flights[k]? =
          some (.going (.finished (.error failure))) ∧
        (failure = .fault Session.disposedFault ∨ scope = .error failure ∨
          token = .error failure ∨ f' = .going (.finished (.error failure)))) ∧
    w'.step .dispose = ({ w' with disposals := w'.disposals ++ [.over] }, []) := by
  intro w w'
  have harranged : Arranged w := (arranged_ofSession hs).run before
  have hends : Ends w w' (w.run after).2 := ends_run (harranged.closed hover) after
  have hsealed : Overlap.Sealed w'.overlap := hends.unwinds.closed
  have hdisposed : w'.session.disposed = true := hsealed.disposed
  have hfree : w'.overlap.holder.isSome = false := by simp [hsealed.released]
  have htoken : w'.session.accessToken = none := if_pos hdisposed
  refine ⟨⟨htoken, fun now => ?_, if_pos hdisposed⟩, ?_, ?_, ?_, ?_, ?_⟩
  · rw [Session.secondsLeft, htoken]
  · intro k v hk hv
    have hnone : w'.session.token = none := hsealed.token
    simp only [step, hfree, Bool.false_eq_true, if_false, hnone]
    exact hends.readings.finished hk hv
  · intro k v hk hv
    have hnothing : w'.session.duplicate = .error Session.disposedFault := by
      have hcredential : w'.session.credential = none := hsealed.credential
      rw [Session.duplicate, hcredential]
    simp only [step, hfree, Bool.false_eq_true, if_false, hnothing]
    exact hends.copyings.finished hk hv
  · intro k f hlen hk
    refine ⟨hends.unwinds.later k f hlen hk, fun ask hmem => ?_⟩
    -- only a refresh that had begun before calls the provider
    have hpends := hends.dwindles.asked _ hmem
    rw [Overlap.pends, List.getElem?_eq_none hlen] at hpends
    simp at hpends
  · intro k f hk hf
    obtain ⟨f', hk', hf'⟩ := hends.unwinds.unstored k f hk hf
    refine ⟨f', hk', hf', fun scope token => ?_⟩
    rw [overlap_run_refresh _ (by simp [Overlap.settling, Overlap.Event.isOfRefresh])]
    exact hsealed.settles (harranged.run after).asking hk' hf' scope token
  · have hsame : w'.overlap.step .mark = (w'.overlap, []) := if_pos hdisposed
    simp only [step, hsame, hdisposed, if_true]

/-- A session is disposed of while one refresh waits for its token and a reader has found
the session in use: the reader gets no token, and the refresh fails though its token comes. -/
theorem late_token_not_stored :
    let s : Session := ⟨some ⟨.password "u" ⟨[]⟩, none⟩, some .localAccounts, some ⟨"old", 9⟩, false⟩
    let before : List Event :=
      [.read, .refresh .begin, .refresh (.look 0), .refresh (.ask 0), .dispose, .wipe 0]
    let w := ((ofSession s).run before).1
    (w.step (.take 0)).1.readings[0]? = some (.over none) ∧ ∃ failure,
      (w.run ((Overlap.settling 0 (.ok .localAccounts) (.ok ⟨"new", 9⟩)).map
        .refresh)).1.overlap.flights[0]? = some (.going (.finished (.error failure))) := by
  intro s before w
  obtain ⟨-, hreadings, -, -, hflights, -⟩ :=
    disposed_session_yields_nothing s rfl before rfl []
  have hadmitted : ((ofSession s).run before).1.readings[0]? = some .admitted := rfl
  refine ⟨hreadings 0 .admitted (fun _ => by rw [hadmitted]; simp) rfl, ?_⟩
  obtain ⟨f', -, -, hsettles⟩ := hflights 0 _ rfl (by simp [Flight.HasStored])
  obtain ⟨failure, hfailure, -⟩ := hsettles (.ok .localAccounts) (.ok ⟨"new", 9⟩)
  exact ⟨failure, hfailure⟩

end SharedSession

end Appliance

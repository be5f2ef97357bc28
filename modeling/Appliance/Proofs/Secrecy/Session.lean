import Appliance.Proofs.Secrecy.Exchange
import Appliance.Session.Sharing

/-!
# Sessions do not tell secrets apart

Two sessions are alike if they hold alike credentials and tokens, and agree in everything
else; so are two sessions with their refreshes and other calls, if every call has come as
far in the one as in the other and holds alike things. A step that all calls take in the same
way keeps them alike, whatever the provider answers, as long as that is alike.

* `Session.Alike`, `Overlap.Alike`, `SharedSession.Alike` : sessions, with their calls
* `Session.Alike.debug`, `Session.Alike.secondsLeft` : what they show
* `Session.Alike.refresh`       : a refresh that nothing comes between
* **`Overlap.Alike.step`**       : one step of a refresh or of a disposal
* **`SharedSession.Alike.step`** : one step of any call
-/

namespace Appliance

/-! ## Lists that are related place by place -/

section Places

variable {α β : Type} {R : α → β → Prop} {l : List α} {l' : List β}

/-- At every place both lists have related things, or neither has anything. -/
theorem getElem?_rel (h : List.Forall₂ R l l') (k : Nat) : Option.Rel R l[k]? l'[k]? := by
  induction h generalizing k with
  | nil => exact .none
  | cons hab _ ih =>
    cases k with
    | zero => exact .some hab
    | succ k => exact ih k

/-- The two cases, with what is found. -/
theorem getElem?_cases (h : List.Forall₂ R l l') (k : Nat) :
    l[k]? = none ∧ l'[k]? = none ∨ ∃ a b, l[k]? = some a ∧ l'[k]? = some b ∧ R a b := by
  have hk := getElem?_rel h k
  generalize l[k]? = x at hk ⊢
  generalize l'[k]? = y at hk ⊢
  cases hk with
  | none => exact .inl ⟨rfl, rfl⟩
  | @some a b hab => exact .inr ⟨a, b, rfl, rfl, hab⟩

theorem set_rel (h : List.Forall₂ R l l') (k : Nat) {a : α} {b : β} (hab : R a b) :
    List.Forall₂ R (l.set k a) (l'.set k b) := by
  induction h generalizing k with
  | nil => exact .nil
  | cons hhead htail ih =>
    cases k with
    | zero => exact .cons hab htail
    | succ k => exact .cons hhead (ih k)

theorem snoc_rel (h : List.Forall₂ R l l') {a : α} {b : β} (hab : R a b) :
    List.Forall₂ R (l ++ [a]) (l' ++ [b]) :=
  List.rel_append h (.cons hab .nil)

end Places

/-! ## Sessions -/

/-- They hold alike credentials and tokens, and agree in everything else. -/
inductive Session.Alike (platform : TokenService.Platform) : Session → Session → Prop where
  | mk {c c' : Option Credential} {t t' : Option Token} (scope : Option Scope) (disposed : Bool) :
    Option.Rel (Credential.Alike platform) c c' → Option.Rel Token.Alike t t' →
      Alike platform ⟨c, scope, t, disposed⟩ ⟨c', scope, t', disposed⟩

/-- They have come as far, with alike credentials. -/
inductive Refresh.Alike (platform : TokenService.Platform) : Refresh → Refresh → Prop where
  | admitted : Alike platform .admitted .admitted
  | resolving {c c' : Credential} :
    c.Alike platform c' → Alike platform (.resolving c) (.resolving c')
  | issuing {c c' : Credential} (s : Scope) :
    c.Alike platform c' → Alike platform (.issuing c s) (.issuing c' s)
  | finished (result : Except TokenService.Failure Unit) :
    Alike platform (.finished result) (.finished result)

/-! ### Tokens -/

namespace Token.Alike

variable {t u : Token}

theorem refl (t : Token) : t.Alike t := ⟨rfl, rfl⟩

theorem secondsLeft (h : t.Alike u) (now : Instant) :
    t.secondsLeft now = u.secondsLeft now := by
  have hremaining : t.remaining now = u.remaining now := congrArg (· - now) h.expiry
  exact congrArg (· / Duration.nanosPerSecond) hremaining

/-- The diagnostic text of a token shows the time that is left alone. -/
theorem debug (h : t.Alike u) (now : Instant) : t.debug now = u.debug now := by
  have hseconds := h.secondsLeft now
  unfold Token.debug
  rw [hseconds]

end Token.Alike

namespace Session.Alike

variable {platform : TokenService.Platform} {a b : Session}

theorem disposed (h : a.Alike platform b) : a.disposed = b.disposed := by
  cases h
  rfl

theorem token (h : a.Alike platform b) : Option.Rel Token.Alike a.token b.token := by
  obtain ⟨scope, disposed, hc, ht⟩ := h
  exact ht

theorem enter (h : a.Alike platform b) : a.enter.Alike platform b.enter := by
  rw [Session.enter, Session.enter, ← h.disposed]
  split
  · exact .finished _
  · exact .admitted

theorem snapshot (h : a.Alike platform b) : a.snapshot.Alike platform b.snapshot := by
  obtain ⟨scope, disposed, hc, ht⟩ := h
  cases hc with
  | none => exact .finished _
  | some hc =>
    cases scope with
    | none => exact .resolving hc
    | some s => exact .issuing s hc

theorem takeScope (h : a.Alike platform b) {c c' : Credential} (hc : c.Alike platform c')
    (answer : Except TokenService.Failure Scope) :
    (a.takeScope c answer).1.Alike platform (b.takeScope c' answer).1 ∧
      (a.takeScope c answer).2.Alike platform (b.takeScope c' answer).2 := by
  cases answer with
  | error f => exact ⟨h, .finished _⟩
  | ok s =>
    obtain ⟨scope, disposed, hcredential, ht⟩ := h
    exact ⟨.mk (some s) disposed hcredential ht, .issuing s hc⟩

theorem takeToken (h : a.Alike platform b) {t u : Token} (ht : t.Alike u) :
    Session.Alike platform { a with token := some t } { b with token := some u } := by
  obtain ⟨scope, disposed, hc, -⟩ := h
  exact .mk scope disposed hc (.some ht)

theorem accessToken (h : a.Alike platform b) :
    Option.Rel Token.Alike a.accessToken b.accessToken := by
  rw [Session.accessToken, Session.accessToken, ← h.disposed]
  split
  · exact .none
  · exact h.token

theorem secondsLeft (h : a.Alike platform b) (now : Instant) :
    a.secondsLeft now = b.secondsLeft now := by
  have htoken := h.accessToken
  simp only [Session.secondsLeft]
  generalize a.accessToken = x at htoken ⊢
  generalize b.accessToken = y at htoken ⊢
  cases htoken with
  | none => rfl
  | some ht => exact ht.secondsLeft now

/-- **The diagnostic text of a session** shows of its credential the kind and of its token
that there is one. -/
theorem debug (h : a.Alike platform b) (appliance : Address) :
    a.debug appliance = b.debug appliance := by
  obtain ⟨scope, disposed, hc, ht⟩ := h
  cases ht <;> cases hc with
  | none => rfl
  | some hc => simp only [Session.debug, Option.map_some, hc.kind]

theorem duplicate (h : a.Alike platform b) :
    ExceptAlike (Session.Alike platform) a.duplicate b.duplicate := by
  obtain ⟨scope, disposed, hc, ht⟩ := h
  cases hc with
  | none => exact .error _
  | some hc => exact .ok (.mk scope false (.some hc) ht)

theorem mark (h : a.Alike platform b) : a.mark.Alike platform b.mark := by
  obtain ⟨scope, disposed, hc, ht⟩ := h
  exact .mk scope true hc ht

theorem wipe (h : a.Alike platform b) : a.wipe.Alike platform b.wipe := by
  obtain ⟨scope, disposed, hc, ht⟩ := h
  exact .mk none disposed .none .none

open TokenService in
/-- The last part of a refresh: the provider issues a token. -/
theorem issue (h : a.Alike platform b) {c c' : Credential} (hc : c.Alike platform c')
    (appliance : Address) (options : Options) (scope : Scope) :
    Conversation.Alike (fun x y => x.1.Alike platform y.1 ∧ x.2 = y.2)
      ((exchange platform appliance options c scope).map fun answer =>
        match a.takeToken answer with
        | (s, .finished r) => (s, r)
        | (s, _) => (s, Except.error (.fault Session.disposedFault)))
      ((exchange platform appliance options c' scope).map fun answer =>
        match b.takeToken answer with
        | (s, .finished r) => (s, r)
        | (s, _) => (s, Except.error (.fault Session.disposedFault))) := by
  refine (exchange_alike hc appliance options scope).map fun x y hxy => ?_
  cases hxy with
  | error f => exact ⟨h, rfl⟩
  | ok ht =>
    simp only [Session.takeToken]
    by_cases ha : a.disposed = true
    · have hb : b.disposed = true := h.disposed ▸ ha
      rw [if_pos ha, if_pos hb]
      exact ⟨h, rfl⟩
    · have hb : ¬b.disposed = true := h.disposed ▸ ha
      rw [if_neg ha, if_neg hb]
      exact ⟨h.takeToken ht, rfl⟩

open TokenService in
/-- **A refresh that nothing comes between** asks alike things, and ends alike. -/
theorem refresh (h : a.Alike platform b) (appliance : Address)
    (options : Options) :
    Conversation.Alike (fun x y => x.1.Alike platform y.1 ∧ x.2 = y.2)
      (a.refresh (provider platform appliance options))
      (b.refresh (provider platform appliance options)) := by
  have hsame := h
  obtain @⟨c, c', t, t', scope, disposed, hc, ht⟩ := h
  cases disposed with
  | true => exact .done ⟨hsame, rfl⟩
  | false =>
    cases hc with
    | none => exact .done ⟨hsame, rfl⟩
    | some hc =>
      cases scope with
      | some scope => exact hsame.issue hc appliance options scope
      | none =>
        refine (resolveScope_alike hc appliance).andThen fun x y hxy => ?_
        cases hxy with
        | error f => exact .done ⟨hsame, rfl⟩
        | ok heq =>
          subst heq
          exact (Session.Alike.mk (some _) false (.some hc) ht).issue hc appliance options _

end Session.Alike

/-! ## Overlapping refreshes -/

/-- They have come as far, with alike things in hand. -/
inductive Flight.Alike (platform : TokenService.Platform) : Flight → Flight → Prop where
  | going {r r' : Refresh} : r.Alike platform r' → Alike platform (.going r) (.going r')
  | awaiting {r r' : Refresh} : r.Alike platform r' → Alike platform (.awaiting r) (.awaiting r')
  | storing {t u : Token} : t.Alike u → Alike platform (.storing t) (.storing u)

/-- The sessions and the refreshes are alike. -/
inductive Overlap.Alike (platform : TokenService.Platform) : Overlap → Overlap → Prop where
  | mk {s s' : Session} {fs fs' : List Flight} (holder : Option Nat) (wiping : Bool) :
    s.Alike platform s' → List.Forall₂ (Flight.Alike platform) fs fs' →
      Alike platform ⟨s, fs, holder, wiping⟩ ⟨s', fs', holder, wiping⟩

/-- The same step, up to tokens that are alike. -/
inductive Overlap.Event.Alike : Overlap.Event → Overlap.Event → Prop where
  | same (e : Overlap.Event) : Alike e e
  | issued (k : Nat) {answer answer' : Except TokenService.Failure Token} :
    ExceptAlike Token.Alike answer answer' → Alike (.issued k answer) (.issued k answer')

namespace Overlap.Alike

variable {platform : TokenService.Platform} {w w' : Overlap}

theorem session (h : w.Alike platform w') : w.session.Alike platform w'.session := by
  obtain ⟨holder, wiping, hs, hfs⟩ := h
  exact hs

theorem flights (h : w.Alike platform w') :
    List.Forall₂ (Flight.Alike platform) w.flights w'.flights := by
  obtain ⟨holder, wiping, hs, hfs⟩ := h
  exact hfs

theorem holder (h : w.Alike platform w') : w.holder = w'.holder := by
  cases h
  rfl

theorem put (h : w.Alike platform w') (k : Nat) {f f' : Flight} (hf : f.Alike platform f') :
    (w.put k f).Alike platform (w'.put k f') := by
  obtain ⟨holder, wiping, hs, hfs⟩ := h
  exact .mk holder wiping hs (set_rel hfs k hf)

theorem withSession (h : w.Alike platform w') {s s' : Session} (hs : s.Alike platform s') :
    Overlap.Alike platform { w with session := s } { w' with session := s' } := by
  obtain ⟨holder, wiping, -, hfs⟩ := h
  exact .mk holder wiping hs hfs

theorem withHolder (h : w.Alike platform w') (holder : Option Nat) :
    Overlap.Alike platform { w with holder } { w' with holder } := by
  obtain ⟨-, wiping, hs, hfs⟩ := h
  exact .mk holder wiping hs hfs

/-! ### One lemma for each step -/

theorem begin (h : w.Alike platform w') : (w.step .begin).1.Alike platform (w'.step .begin).1 := by
  obtain ⟨holder, wiping, hs, hfs⟩ := h
  exact .mk holder wiping hs (snoc_rel hfs (.going hs.enter))

theorem look (h : w.Alike platform w') (k : Nat) :
    (w.step (.look k)).1.Alike platform (w'.step (.look k)).1 := by
  simp only [Overlap.step, ← h.holder]
  rcases getElem?_cases h.flights k with ⟨hk, hk'⟩ | ⟨f, f', hk, hk', hf⟩ <;> rw [hk, hk']
  · exact h
  · cases hf with
    | awaiting hr => exact h
    | storing ht => exact h
    | going hr =>
      cases hr with
      | resolving hc => exact h
      | issuing s hc => exact h
      | finished result => exact h
      | admitted =>
        by_cases hheld : w.holder.isSome = true
        · simpa only [if_pos hheld] using h
        · simpa only [if_neg hheld] using h.put k (.going h.session.snapshot)

theorem ask (h : w.Alike platform w') (k : Nat) :
    (w.step (.ask k)).1.Alike platform (w'.step (.ask k)).1 := by
  simp only [Overlap.step]
  rcases getElem?_cases h.flights k with ⟨hk, hk'⟩ | ⟨f, f', hk, hk', hf⟩ <;> rw [hk, hk']
  · exact h
  · cases hf with
    | awaiting hr => exact h
    | storing ht => exact h
    | going hr =>
      have hput := h.put k (.awaiting hr)
      cases hr with
      | admitted => exact h
      | finished result => exact h
      | resolving hc => exact hput
      | issuing s hc => exact hput

theorem resolved (h : w.Alike platform w') (k : Nat)
    (answer : Except TokenService.Failure Scope) :
    (w.step (.resolved k answer)).1.Alike platform (w'.step (.resolved k answer)).1 := by
  simp only [Overlap.step, ← h.holder]
  rcases getElem?_cases h.flights k with ⟨hk, hk'⟩ | ⟨f, f', hk, hk', hf⟩ <;> rw [hk, hk']
  · exact h
  · cases hf with
    | going hr => exact h
    | storing ht => exact h
    | awaiting hr =>
      cases hr with
      | admitted => exact h
      | issuing s hc => exact h
      | finished result => exact h
      | resolving hc =>
        obtain ⟨hsession, hrefresh⟩ := h.session.takeScope hc answer
        by_cases hheld : (answer.isOk && w.holder.isSome) = true
        · simpa only [if_pos hheld] using h
        · have hput := (h.withSession hsession).put k (.going hrefresh)
          simpa only [if_neg hheld, ← h.holder] using hput

theorem issued (h : w.Alike platform w') (k : Nat)
    {answer answer' : Except TokenService.Failure Token}
    (hanswer : ExceptAlike Token.Alike answer answer') :
    (w.step (.issued k answer)).1.Alike platform (w'.step (.issued k answer')).1 := by
  simp only [Overlap.step, ← h.holder, ← h.session.disposed]
  rcases getElem?_cases h.flights k with ⟨hk, hk'⟩ | ⟨f, f', hk, hk', hf⟩ <;> rw [hk, hk']
  · exact h
  · cases hf with
    | going hr => exact h
    | storing ht => exact h
    | awaiting hr =>
      cases hr with
      | admitted => exact h
      | resolving hc => exact h
      | finished result => exact h
      | issuing scope hc =>
        cases hanswer with
        | error f => exact h.put k (.going (.finished _))
        | ok ht =>
          by_cases hheld : w.holder.isSome = true
          · simpa only [if_pos hheld] using h
          · by_cases hdisposed : w.session.disposed = true
            · simp only [if_neg hheld, if_pos hdisposed]
              exact h.put k (.going (.finished _))
            · simp only [if_neg hheld, if_neg hdisposed]
              exact (h.withHolder (some k)).put k (.storing ht)

theorem store (h : w.Alike platform w') (k : Nat) :
    (w.step (.store k)).1.Alike platform (w'.step (.store k)).1 := by
  simp only [Overlap.step]
  rcases getElem?_cases h.flights k with ⟨hk, hk'⟩ | ⟨f, f', hk, hk', hf⟩ <;> rw [hk, hk']
  · exact h
  · cases hf with
    | going hr => exact h
    | awaiting hr => exact h
    | storing ht =>
      have hstored := (h.withSession (h.session.takeToken ht)).withHolder none
      exact hstored.put k (.going (.finished _))

theorem mark (h : w.Alike platform w') : (w.step .mark).1.Alike platform (w'.step .mark).1 := by
  obtain ⟨holder, wiping, hs, hfs⟩ := h
  simp only [Overlap.step, ← hs.disposed]
  split
  · exact .mk holder wiping hs hfs
  · exact .mk holder true hs.mark hfs

theorem wipe (h : w.Alike platform w') : (w.step .wipe).1.Alike platform (w'.step .wipe).1 := by
  obtain ⟨holder, wiping, hs, hfs⟩ := h
  simp only [Overlap.step]
  split
  · exact .mk holder false hs.wipe hfs
  · exact .mk holder wiping hs hfs

/-- **Every step keeps sessions with their refreshes alike.** -/
theorem step (h : w.Alike platform w') {e e' : Overlap.Event} (he : e.Alike e') :
    (w.step e).1.Alike platform (w'.step e').1 := by
  cases he with
  | issued k hanswer => exact h.issued k hanswer
  | same e =>
    cases e with
    | begin => exact h.begin
    | look k => exact h.look k
    | ask k => exact h.ask k
    | resolved k answer => exact h.resolved k answer
    | issued k answer => exact h.issued k (ExceptAlike.refl Token.Alike.refl answer)
    | store k => exact h.store k
    | mark => exact h.mark
    | wipe => exact h.wipe

end Overlap.Alike

/-! ## Sessions in many hands -/

/-- They have come as far, with answers that `R` relates. -/
inductive Visit.Alike {α : Type} (R : α → α → Prop) : Visit α → Visit α → Prop where
  | admitted : Alike R .admitted .admitted
  | over {a b : α} : R a b → Alike R (.over a) (.over b)

/-- The sessions and all the calls made of them are alike. -/
structure SharedSession.Alike (platform : TokenService.Platform) (w w' : SharedSession) : Prop where
  overlap : w.overlap.Alike platform w'.overlap
  readings : List.Forall₂ (Visit.Alike (Option.Rel Token.Alike)) w.readings w'.readings
  copyings :
    List.Forall₂ (Visit.Alike (ExceptAlike (Session.Alike platform))) w.copyings w'.copyings
  disposals : w.disposals = w'.disposals

/-- The same step, up to tokens that are alike. -/
inductive SharedSession.Event.Alike : SharedSession.Event → SharedSession.Event → Prop where
  | same (e : SharedSession.Event) : Alike e e
  | refresh {e e' : Overlap.Event} : e.Alike e' → Alike (.refresh e) (.refresh e')

theorem Visit.finish_rel {α : Type} {R : α → α → Prop} {visits visits' : List (Visit α)}
    (h : List.Forall₂ (Visit.Alike R) visits visits') (k : Nat) {a b : α} (hab : R a b) :
    List.Forall₂ (Visit.Alike R) (Visit.finish visits k a) (Visit.finish visits' k b) := by
  simp only [Visit.finish]
  rcases getElem?_cases h k with ⟨hk, hk'⟩ | ⟨v, v', hk, hk', hv⟩ <;> rw [hk, hk']
  · exact h
  · cases hv with
    | admitted => exact set_rel h k (.over hab)
    | «over» _ => exact h

theorem Session.Alike.admission {platform : TokenService.Platform} {a b : Session}
    (h : a.Alike platform b) {α : Type} {R : α → α → Prop} {refusal : α}
    (hrefusal : R refusal refusal) :
    Visit.Alike R (a.admission refusal) (b.admission refusal) := by
  rw [Session.admission, Session.admission, ← h.disposed]
  split
  · exact .over hrefusal
  · exact .admitted

theorem Overlap.Event.Alike.isOfRefresh {e e' : Overlap.Event} (h : e.Alike e') :
    e.isOfRefresh = e'.isOfRefresh := by
  cases h with
  | same => rfl
  | issued k _ => rfl

namespace SharedSession.Alike

variable {platform : TokenService.Platform} {w w' : SharedSession}

theorem session (h : w.Alike platform w') : w.session.Alike platform w'.session := h.overlap.session

/-- Sessions that are alike, before any call. -/
theorem ofSession {s s' : Session} (h : s.Alike platform s') :
    (SharedSession.ofSession s).Alike platform (SharedSession.ofSession s') :=
  ⟨.mk none false h .nil, .nil, .nil, rfl⟩

theorem refresh (h : w.Alike platform w') {e e' : Overlap.Event} (he : e.Alike e') :
    (w.step (.refresh e)).1.Alike platform (w'.step (.refresh e')).1 := by
  simp only [SharedSession.step, ← he.isOfRefresh]
  split
  · exact ⟨h.overlap.step he, h.readings, h.copyings, h.disposals⟩
  · exact h

/-- **Every step keeps sessions with all their calls alike.** -/
theorem step (h : w.Alike platform w') {e e' : SharedSession.Event} (he : e.Alike e') :
    (w.step e).1.Alike platform (w'.step e').1 := by
  have hholder := h.overlap.holder
  cases he with
  | refresh he => exact h.refresh he
  | same e =>
    cases e with
    | refresh e => exact h.refresh (.same e)
    | read =>
      exact ⟨h.overlap, snoc_rel h.readings (h.session.admission .none), h.copyings, h.disposals⟩
    | take k =>
      simp only [SharedSession.step, ← hholder]
      split
      · exact h
      · exact ⟨h.overlap, Visit.finish_rel h.readings k h.session.token, h.copyings, h.disposals⟩
    | copy =>
      exact ⟨h.overlap, h.readings, snoc_rel h.copyings (h.session.admission (.error _)),
        h.disposals⟩
    | duplicate k =>
      simp only [SharedSession.step, ← hholder]
      split
      · exact h
      · exact ⟨h.overlap, h.readings, Visit.finish_rel h.copyings k h.session.duplicate,
          h.disposals⟩
    | dispose =>
      refine ⟨h.overlap.mark, h.readings, h.copyings, ?_⟩
      simp only [SharedSession.step, h.disposals, h.session.disposed]
    | wipe k =>
      simp only [SharedSession.step, ← hholder, ← h.disposals]
      split
      · exact h
      · split
        · exact ⟨h.overlap.wipe, h.readings, h.copyings, rfl⟩
        · exact h

end SharedSession.Alike

end Appliance

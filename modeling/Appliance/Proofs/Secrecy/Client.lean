import Appliance.Client
import Appliance.Proofs.Secrecy.Listener

/-!
# Clients do not tell secrets apart

Two clients that do the same, up to secrets that are alike, and whose token services answer
alike, show the same: all diagnostic texts, all failures, all states of their listeners. What
may differ is what a client is meant to give away: the octets that it exposes on demand, the
password in the request for a token, and the header that presents the token.

* `Op.Alike`, `Sight.Alike` : what may differ, in what is done and in what is seen
* `Client.Alike`            : what the clients then have in common
* `see_alike`               : what is seen of them
* **`step_alike`**, **`run_alike`** : one operation, and many
-/

namespace Appliance.Client

open TokenService (Exchange Failure Platform Reply Request)

/-! ## What may differ -/

/-- The same operation, up to secrets that are alike and answers that are alike. -/
inductive Op.Alike (platform : Platform) : Op → Op → Prop where
  | same (op : Op) : Alike platform op op
  | certificate {data data' password password' : Secret} :
    ClientCertificate.Alike platform ⟨data, password⟩ ⟨data', password'⟩ →
      Alike platform (.certificate data password) (.certificate data' password')
  | certificateFile (path : String) {content content' : Except Files.ReadFault Octets}
      {password password' : Secret} :
    ExceptAlike (fun d d' => ClientCertificate.Alike platform ⟨⟨d⟩, password⟩ ⟨⟨d'⟩, password'⟩)
        content content' →
      Alike platform (.certificateFile path content password)
        (.certificateFile path content' password')
  | password (username : String) {secret secret' : Secret} :
    secret.Alike secret' → Alike platform (.password username secret) (.password username secret')
  | answered (s k : Nat) {replies replies' : List Reply} :
    List.Forall₂ Reply.Alike replies replies' →
      Alike platform (.answered s k replies) (.answered s k replies')

/-- The same sight, up to what a client is meant to give away. -/
inductive Sight.Alike : Sight → Sight → Prop where
  | same (x : Sight) : Alike x x
  | did (l : Nat) {e e' : Listener.Effect} : e.Alike e' → Alike (.did l e) (.did l e')
  | sent (s : Nat) {r r' : Request} : r.Alike r' → Alike (.sent s r) (.sent s r')
  | presented (l : Nat) (header header' : String) :
    Alike (.presented l (.ok header)) (.presented l (.ok header'))
  | exposed (octets octets' : Octets) : Alike (.exposed octets) (.exposed octets')

/-- Sessions that are alike, with providers that are asked in the same way. -/
inductive Account.Alike (platform : Platform) : Account → Account → Prop where
  | mk (appliance : Address) (options : TokenService.Options) {w w' : SharedSession} :
    w.Alike platform w' → Alike platform ⟨appliance, options, w⟩ ⟨appliance, options, w'⟩

end Client

/-- Credentials and sessions that are alike, and the same listeners. -/
inductive Client.Alike (platform : TokenService.Platform) : Client → Client → Prop where
  | mk {cs cs' : List Credential} {as as' : List Client.Account} (watches : List Client.Watch) :
    List.Forall₂ (Credential.Alike platform) cs cs' →
      List.Forall₂ (Client.Account.Alike platform) as as' →
        Alike platform ⟨cs, as, watches⟩ ⟨cs', as', watches⟩

namespace Client

open TokenService (Exchange Failure Platform Reply Request)

/-- Clients that are alike, with alike sights. -/
structure Move.Alike (platform : Platform) (m m' : Move) : Prop where
  client : m.1.Alike platform m'.1
  sights : List.Forall₂ Sight.Alike m.2 m'.2

variable {platform : Platform} {c c' : Client}

theorem sights_refl (sights : List Sight) : List.Forall₂ Sight.Alike sights sights :=
  List.forall₂_same.2 fun x _ => .same x

theorem sights_of_eq {sights sights' : List Sight} (h : sights = sights') :
    List.Forall₂ Sight.Alike sights sights' :=
  h ▸ sights_refl sights

/-- Nothing happens and nothing is seen. -/
theorem Alike.still (h : c.Alike platform c') : Move.Alike platform (c, []) (c', []) := ⟨h, .nil⟩

theorem modify_rel {α β : Type} {R : α → β → Prop} {l : List α} {l' : List β}
    (h : List.Forall₂ R l l') (k : Nat) {f : α → α} {g : β → β}
    (hfg : ∀ a b, R a b → R (f a) (g b)) : List.Forall₂ R (l.modify k f) (l'.modify k g) := by
  induction h generalizing k with
  | nil => cases k <;> exact .nil
  | cons hhead htail ih =>
    cases k with
    | zero => exact .cons (hfg _ _ hhead) htail
    | succ k => exact .cons hhead (ih k)

namespace Alike

theorem credentials (h : c.Alike platform c') :
    List.Forall₂ (Credential.Alike platform) c.credentials c'.credentials := by
  obtain ⟨watches, hcs, has⟩ := h
  exact hcs

theorem accounts (h : c.Alike platform c') :
    List.Forall₂ (Account.Alike platform) c.accounts c'.accounts := by
  obtain ⟨watches, hcs, has⟩ := h
  exact has

theorem watches (h : c.Alike platform c') : c.watches = c'.watches := by
  cases h
  rfl

theorem withAccounts (h : c.Alike platform c') {as as' : List Account}
    (has : List.Forall₂ (Account.Alike platform) as as') :
    Client.Alike platform { c with accounts := as } { c' with accounts := as' } := by
  obtain ⟨watches, hcs, -⟩ := h
  exact .mk watches hcs has

theorem withWatches (h : c.Alike platform c') {ws ws' : List Watch} (hws : ws = ws') :
    Client.Alike platform { c with watches := ws } { c' with watches := ws' } := by
  obtain ⟨watches, hcs, has⟩ := h
  exact hws ▸ .mk ws hcs has

end Alike

/-! ## Credentials -/

theorem made_alike (h : c.Alike platform c') {x x' : Except InputFault Credential}
    (hx : ExceptAlike (Credential.Alike platform) x x') :
    Move.Alike platform (c.made x) (c'.made x') := by
  obtain ⟨watches, hcs, has⟩ := h
  cases hx with
  | error f => exact ⟨.mk watches hcs has, sights_refl _⟩
  | ok hx => exact ⟨.mk watches (snoc_rel hcs hx) has, sights_refl _⟩

theorem made_same (h : c.Alike platform c') (x : Except InputFault Credential) :
    Move.Alike platform (c.made x) (c'.made x) :=
  made_alike h (.refl Credential.Alike.refl x)

/-! ## Sessions -/

namespace Account.Alike

variable {a a' : Account}

theorem shared (h : a.Alike platform a') : a.shared.Alike platform a'.shared := by
  obtain ⟨appliance, options, hw⟩ := h
  exact hw

theorem call (h : a.Alike platform a') {e e' : SharedSession.Event} (he : e.Alike e') :
    (a.call e).Alike platform (a'.call e') := by
  obtain ⟨appliance, options, hw⟩ := h
  exact .mk appliance options (hw.step he)

theorem glance (h : a.Alike platform a') (now : Instant) : (a.glance now).Alike (a'.glance now) :=
  ⟨h.shared.session.secondsLeft now, h.shared.session.accessToken⟩

theorem converse (h : a.Alike platform a') {α : Type} {R : α → α → Prop} {d d' : Exchange α}
    (hd : TokenService.Conversation.Alike (ExceptAlike R) d d') {replies replies' : List Reply}
    (hreplies : List.Forall₂ Reply.Alike replies replies')
    {step : Except Failure α → Overlap.Event}
    (hstep : ∀ x y, ExceptAlike R x y → (step x).Alike (step y)) :
    (a.converse d replies step).1.Alike platform (a'.converse d' replies' step).1 ∧
      List.Forall₂ Request.Alike (a.converse d replies step).2
        (a'.converse d' replies' step).2 := by
  refine ⟨?_, hd.asks hreplies⟩
  have hresult := hd.result? hreplies
  simp only [Account.converse]
  generalize d.result? replies = x at hresult ⊢
  generalize d'.result? replies' = y at hresult ⊢
  cases hresult with
  | none => exact h
  | some hxy => exact h.call (.refresh (hstep _ _ hxy))

theorem answered (h : a.Alike platform a') (k : Nat) {replies replies' : List Reply}
    (hreplies : List.Forall₂ Reply.Alike replies replies') :
    (a.answered platform k replies).1.Alike platform (a'.answered platform k replies').1 ∧
      List.Forall₂ Request.Alike (a.answered platform k replies).2
        (a'.answered platform k replies').2 := by
  have hsame := h
  obtain @⟨appliance, options, w, w', hw⟩ := h
  simp only [Account.answered]
  rcases getElem?_cases hw.overlap.flights k with ⟨hk, hk'⟩ | ⟨f, f', hk, hk', hf⟩ <;>
    rw [hk, hk']
  · exact ⟨hsame, .nil⟩
  · cases hf with
    | going hr => exact ⟨hsame, .nil⟩
    | storing ht => exact ⟨hsame, .nil⟩
    | awaiting hr =>
      cases hr with
      | admitted => exact ⟨hsame, .nil⟩
      | finished result => exact ⟨hsame, .nil⟩
      | resolving hc =>
        refine hsame.converse (TokenService.resolveScope_alike hc appliance) hreplies ?_
        intro x y hxy
        rw [hxy.eq]
        exact .same _
      | issuing scope hc =>
        exact hsame.converse (TokenService.exchange_alike hc appliance options scope) hreplies
          fun x y hxy => .issued k hxy

theorem ended? (h : a.Alike platform a') (k : Nat) : a.ended? k = a'.ended? k := by
  simp only [Account.ended?]
  rcases getElem?_cases h.shared.overlap.flights k with ⟨hk, hk'⟩ | ⟨f, f', hk, hk', hf⟩ <;>
    rw [hk, hk']
  cases hf with
  | going hr => cases hr <;> rfl
  | awaiting hr => rfl
  | storing ht => rfl

theorem read? (h : a.Alike platform a') (k : Nat) :
    Option.Rel Token.Alike (a.read? k) (a'.read? k) := by
  simp only [Account.read?]
  rcases getElem?_cases h.shared.readings k with ⟨hk, hk'⟩ | ⟨v, v', hk, hk', hv⟩ <;>
    rw [hk, hk']
  · exact .none
  · cases hv with
    | admitted => exact .none
    | «over» ht => exact ht

end Account.Alike

theorem adopted_alike (h : c.Alike platform c') {a a' : Account} (ha : a.Alike platform a')
    {v v' : Option (Visit (Except Fault Session))}
    (hv : Option.Rel (Visit.Alike (ExceptAlike (Session.Alike platform))) v v') :
    Move.Alike platform (c.adopted a v) (c'.adopted a' v') := by
  cases hv with
  | none => exact h.still
  | some hv =>
    cases hv with
    | admitted => exact h.still
    | «over» hs =>
      cases hs with
      | error f => exact ⟨h, sights_refl _⟩
      | ok hs =>
        obtain ⟨appliance, options, -⟩ := ha
        exact ⟨h.withAccounts (snoc_rel h.accounts (.mk appliance options (.ofSession hs))),
          sights_refl _⟩

/-! ## Listeners -/

/-- Both texts give a header, or neither does and the fault is the same. -/
theorem bearer_alike {text text' : String} (h : TextAlike text text') :
    ExceptAlike (fun _ _ => True) (Hub.bearer text) (Hub.bearer text') := by
  simp only [TextAlike, Hub.bearer] at h ⊢
  by_cases ht : text.toList.all Hub.isHeaderChar = true <;>
    by_cases ht' : text'.toList.all Hub.isHeaderChar = true
  · rw [if_pos ht, if_pos ht']
    exact .ok trivial
  · rw [if_pos ht, if_neg ht'] at h
    cases h
  · rw [if_neg ht, if_pos ht'] at h
    cases h
  · rw [if_neg ht, if_neg ht']
    exact .error _

/-- An opening begins in the same way with texts that are alike. -/
theorem begin_eq {text text' : String} (h : TextAlike text text') :
    Hub.Opening.begin text = Hub.Opening.begin text' := by
  have hbearer := bearer_alike h
  simp only [Hub.Opening.begin]
  generalize Hub.bearer text = x at hbearer ⊢
  generalize Hub.bearer text' = y at hbearer ⊢
  cases hbearer with
  | error f => rfl
  | ok _ => rfl

theorem presented_alike (l : Nat) {text text' : String} (h : TextAlike text text') :
    Sight.Alike (.presented l (Hub.bearer text)) (.presented l (Hub.bearer text')) := by
  have hbearer := bearer_alike h
  generalize Hub.bearer text = x at hbearer ⊢
  generalize Hub.bearer text' = y at hbearer ⊢
  cases hbearer with
  | error f => exact .same _
  | ok _ => exact .presented l _ _

theorem act_alike (h : c.Alike platform c') (l s : Nat) {e e' : Listener.Effect}
    (he : e.Alike e') : Move.Alike platform (act l s c e) (act l s c' e') := by
  cases he with
  | attempt first hg => exact ⟨h, .cons (.did l (.attempt first hg)) .nil⟩
  | openChannel ht =>
    refine ⟨h.withWatches ?_, .cons (.did l (.openChannel ht)) (.cons ?_ .nil)⟩
    · rw [h.watches, begin_eq ht.text]
    · exact presented_alike l ht.text
  | same e =>
    have hcall : ∀ e : SharedSession.Event,
        List.Forall₂ (Account.Alike platform) (c.accounts.modify s (·.call e))
          (c'.accounts.modify s (·.call e)) :=
      fun e => modify_rel h.accounts s fun a b hab => hab.call (.same e)
    cases e with
    | refresh => exact ⟨h.withAccounts (hcall (.refresh .begin)), sights_refl _⟩
    | disposeSession => exact ⟨h.withAccounts (hcall .dispose), sights_refl _⟩
    | openChannel token => exact ⟨h.withWatches (by rw [h.watches]), sights_refl _⟩
    | _ => exact ⟨h, sights_refl _⟩

theorem acts_alike (h : c.Alike platform c') (l s : Nat) {es es' : List Listener.Effect}
    (hes : List.Forall₂ Listener.Effect.Alike es es') :
    Move.Alike platform (acts l s c es) (acts l s c' es') := by
  induction hes generalizing c c' with
  | nil => exact h.still
  | cons he _ ih =>
    have hact := act_alike h l s he
    have hrest := ih hact.client
    exact ⟨hrest.client, List.rel_append hact.sights hrest.sights⟩

theorem tell_alike (h : c.Alike platform c') (l : Nat) (now : Instant) (input : Listener.Input) :
    Move.Alike platform (c.tell l now input) (c'.tell l now input) := by
  simp only [tell, ← h.watches]
  cases c.watches[l]? with
  | none => exact h.still
  | some w =>
    dsimp only
    rcases getElem?_cases h.accounts w.session with ⟨ha, ha'⟩ | ⟨a, a', ha, ha', haccount⟩ <;>
      rw [ha, ha']
    · exact h.still
    · have hstep := w.listener.step_alike (haccount.glance now) input
      have hlisteners := congrArg (fun listener => c.watches.set l { w with listener }) hstep.state
      exact acts_alike (h.withWatches hlisteners) l w.session hstep.effects

theorem openingEnded_alike (h : c.Alike platform c') (l : Nat) (now : Instant) :
    Move.Alike platform (c.openingEnded l now) (c'.openingEnded l now) := by
  simp only [openingEnded, ← h.watches]
  cases c.watches[l]? with
  | none => exact h.still
  | some w =>
    dsimp only
    cases w.answer? with
    | none => exact h.still
    | some input => exact tell_alike (h.withWatches rfl) l now input

/-- What a listener's session is, and how its refreshes have ended. -/
theorem ended?_eq (h : c.Alike platform c') (s k : Nat) :
    (c.accounts[s]?.bind fun a => a.ended? k) = c'.accounts[s]?.bind fun a => a.ended? k := by
  rcases getElem?_cases h.accounts s with ⟨ha, ha'⟩ | ⟨a, a', ha, ha', haccount⟩ <;>
    rw [ha, ha']
  exact haccount.ended? k

theorem refreshEnded_alike (h : c.Alike platform c') (l : Nat) (now : Instant) (k : Nat) :
    Move.Alike platform (c.refreshEnded l now k) (c'.refreshEnded l now k) := by
  have hended : ((c.watches[l]?.bind fun w => c.accounts[w.session]?).bind fun a => a.ended? k) =
      (c'.watches[l]?.bind fun w => c'.accounts[w.session]?).bind fun a => a.ended? k := by
    rw [← h.watches]
    cases c.watches[l]? with
    | none => rfl
    | some w => exact ended?_eq h w.session k
  simp only [refreshEnded, ← hended]
  split
  · exact tell_alike h l now _
  · exact h.still

/-! ## Looks -/

theorem texts_eq {α β : Type} {R : α → β → Prop} {x : Option α} {y : Option β}
    (h : Option.Rel R x y) {f : α → String} {g : β → String} (hfg : ∀ a b, R a b → f a = g b) :
    texts x f = texts y g := by
  cases h with
  | none => rfl
  | some hab => simp only [texts, Option.map_some, hfg _ _ hab]

/-- What is seen of the parts of things that are there or not. -/
theorem parts_rel {α β γ δ : Type} {R : α → β → Prop} {S : γ → δ → Prop} {x : Option α}
    {y : Option β} (h : Option.Rel R x y) {f : α → List γ} {g : β → List δ}
    (hfg : ∀ a b, R a b → List.Forall₂ S (f a) (g b)) :
    List.Forall₂ S (x.toList.flatMap f) (y.toList.flatMap g) := by
  cases h with
  | none => exact .nil
  | some hab =>
    simp only [Option.toList_some, List.flatMap_singleton]
    exact hfg _ _ hab

/-- Credentials that are alike hold equally many secrets. -/
theorem secretsOf_rel {a b : Credential} (h : a.Alike platform b) :
    List.Forall₂ (fun _ _ => True) (secretsOf a) (secretsOf b) := by
  obtain ⟨identity, provider⟩ := a
  obtain ⟨identity', provider'⟩ := b
  cases h.identity with
  | thumbprint t => exact .nil
  | certificate hc => exact .cons trivial (.cons trivial .nil)
  | password username hs => exact .cons trivial .nil

theorem presentedText_eq {x y : Except AuthFault (Option ClientCertificate)}
    (h : ExceptAlike (Option.Rel (ClientCertificate.Alike platform)) x y) :
    presentedText x = presentedText y := by
  cases h with
  | error f => rfl
  | ok hc => exact texts_eq hc fun a b hab => hab.debug

theorem grantText_eq {x y : Except Fault TokenService.Grant}
    (h : ExceptAlike TokenService.Grant.Alike x y) : grantText x = grantText y := by
  cases h with
  | error f => rfl
  | ok hg => exact congrArg (fun s => [Sight.text s]) hg.debug

theorem read?_rel (h : c.Alike platform c') (s k : Nat) :
    Option.Rel Token.Alike (c.accounts[s]?.bind (·.read? k))
      (c'.accounts[s]?.bind (·.read? k)) := by
  rcases getElem?_cases h.accounts s with ⟨ha, ha'⟩ | ⟨a, a', ha, ha', haccount⟩ <;>
    rw [ha, ha']
  · exact .none
  · exact haccount.read? k

/-- **What is seen of clients that are alike** is alike. -/
theorem see_alike (h : c.Alike platform c') (x : Look) :
    List.Forall₂ Sight.Alike (see platform c x) (see platform c' x) := by
  cases x with
  | credential i =>
    exact sights_of_eq (texts_eq (getElem?_rel h.credentials i) fun a b hab => hab.debug)
  | secrets i =>
    have hsecrets := parts_rel (getElem?_rel h.credentials i) fun a b hab => secretsOf_rel hab
    exact List.rel_map (fun _ _ _ => .same _) hsecrets
  | certificate i store =>
    refine parts_rel (getElem?_rel h.credentials i) fun a b hab => sights_of_eq ?_
    exact presentedText_eq (hab.presented store)
  | grant i appliance options scope =>
    refine parts_rel (getElem?_rel h.credentials i) fun a b hab => sights_of_eq ?_
    exact grantText_eq (TokenService.grantOf_alike hab appliance options scope)
  | exposeSecrets i =>
    have hsecrets := parts_rel (getElem?_rel h.credentials i) fun a b hab => secretsOf_rel hab
    exact List.rel_map (fun _ _ _ => .exposed _ _) hsecrets
  | session s =>
    refine sights_of_eq (texts_eq (getElem?_rel h.accounts s) fun a b hab => ?_)
    obtain ⟨appliance, options, hw⟩ := hab
    exact hw.session.debug appliance
  | secondsLeft s now =>
    simp only [see]
    rcases getElem?_cases h.accounts s with ⟨ha, ha'⟩ | ⟨a, a', ha, ha', haccount⟩ <;>
      rw [ha, ha']
    · exact .nil
    · have hseconds := haccount.shared.session.secondsLeft now
      exact sights_of_eq (congrArg (fun n => [Sight.seconds n]) hseconds)
  | refresh s k =>
    refine sights_of_eq ?_
    simp only [see, ended?_eq h s k]
  | token s k now => exact sights_of_eq (texts_eq (read?_rel h s k) fun t u htu => htu.debug now)
  | exposeToken s k =>
    have ht := read?_rel h s k
    simp only [see]
    generalize c.accounts[s]?.bind (·.read? k) = x at ht ⊢
    generalize c'.accounts[s]?.bind (·.read? k) = y at ht ⊢
    cases ht with
    | none => exact .nil
    | some _ => exact .cons (.exposed _ _) .nil
  | listener l subscriptions =>
    simp only [see, ← h.watches]
    cases c.watches[l]? with
    | none => exact .nil
    | some w =>
      simp only [Option.bind_some]
      rcases getElem?_cases h.accounts w.session with ⟨ha, ha'⟩ | ⟨a, a', ha, ha', haccount⟩ <;>
        rw [ha, ha']
      · exact .nil
      · obtain ⟨appliance, options, hw⟩ := haccount
        exact sights_refl _

/-! ## Operations -/

/-- The session that is made with a credential. -/
theorem entered_rel (h : c.Alike platform c') (i : Nat) (appliance : Address)
    (options : TokenService.Options) :
    List.Forall₂ (Account.Alike platform)
      (c.credentials[i]?.toList.map fun x => ⟨appliance, options, .ofSession (.ofCredential x)⟩)
      (c'.credentials[i]?.toList.map fun x =>
        ⟨appliance, options, .ofSession (.ofCredential x)⟩) := by
  rcases getElem?_cases h.credentials i with ⟨hx, hx'⟩ | ⟨x, x', hx, hx', hcredential⟩ <;>
    rw [hx, hx']
  · exact .nil
  · have hsession := Session.Alike.mk none false (.some hcredential) .none
    exact .cons (.mk appliance options (.ofSession hsession)) .nil

theorem answered_alike (h : c.Alike platform c') (s k : Nat) {replies replies' : List Reply}
    (hreplies : List.Forall₂ Reply.Alike replies replies') :
    Move.Alike platform (c.step platform (.answered s k replies))
      (c'.step platform (.answered s k replies')) := by
  simp only [step]
  rcases getElem?_cases h.accounts s with ⟨ha, ha'⟩ | ⟨a, a', ha, ha', haccount⟩ <;>
    rw [ha, ha']
  · exact h.still
  · obtain ⟨hanswered, hrequests⟩ := haccount.answered k hreplies
    exact ⟨h.withAccounts (set_rel h.accounts s hanswered),
      List.rel_map (fun _ _ hr => .sent s hr) hrequests⟩

theorem replies_refl (replies : List Reply) : List.Forall₂ Reply.Alike replies replies :=
  List.forall₂_same.2 fun r _ => ⟨rfl, .refl TokenService.Response.Alike.same r.outcome⟩

/-- **An operation that is alike keeps clients alike**, and what is seen of it is alike. -/
theorem step_alike (h : c.Alike platform c') {op op' : Op} (hop : op.Alike platform op') :
    Move.Alike platform (c.step platform op) (c'.step platform op') := by
  cases hop with
  | certificate hc => exact made_alike h (Credential.certificate_alike hc)
  | certificateFile path hc => exact made_alike h (Credential.certificateFile_alike path hc)
  | password username hs => exact made_alike h (Credential.password_alike username hs)
  | answered s k hreplies => exact answered_alike h s k hreplies
  | same op =>
    cases op with
    | thumbprint s => exact made_same h (Credential.thumbprint s)
    | certificate data password => exact made_same h (Credential.certificate data password)
    | certificateFile path content password =>
      exact made_same h (Credential.certificateFile path content password)
    | password username password => exact made_same h (Credential.password username password)
    | withProvider i name =>
      obtain ⟨watches, hcs, has⟩ := h
      have hcs' := modify_rel hcs i fun a b hab => hab.withProvider name
      exact (Alike.mk watches hcs' has).still
    | enter i appliance options =>
      have hnew := entered_rel h i appliance options
      exact (h.withAccounts (List.rel_append h.accounts hnew)).still
    | call s e =>
      simp only [step]
      split
      · exact h.still
      · exact (h.withAccounts (modify_rel h.accounts s fun a b hab => hab.call (.same e))).still
    | answered s k replies => exact answered_alike h s k (replies_refl replies)
    | adopt s k =>
      simp only [step]
      rcases getElem?_cases h.accounts s with ⟨ha, ha'⟩ | ⟨a, a', ha, ha', haccount⟩ <;>
        rw [ha, ha']
      · exact h.still
      · exact adopted_alike h haccount (getElem?_rel haccount.shared.copyings k)
    | listen s options ownsSession => exact (h.withWatches (by rw [h.watches])).still
    | tell l now input =>
      simp only [step]
      split
      · exact h.still
      · exact tell_alike h l now input
    | refreshed l now k => exact refreshEnded_alike h l now k
    | greeted l input => exact (h.withWatches (by rw [h.watches])).still
    | opened l now => exact openingEnded_alike h l now
    | look x => exact ⟨h, see_alike h x⟩

/-- **What is seen of clients that do the same is alike.** -/
theorem run_alike (h : c.Alike platform c') {ops ops' : List Op}
    (hops : List.Forall₂ (Op.Alike platform) ops ops') :
    Move.Alike platform (c.run platform ops) (c'.run platform ops') := by
  induction hops generalizing c c' with
  | nil => exact h.still
  | cons hop _ ih =>
    have hstep := step_alike h hop
    have hrest := ih hstep.client
    exact ⟨hrest.client, List.rel_append hstep.sights hrest.sights⟩

end Client

end Appliance

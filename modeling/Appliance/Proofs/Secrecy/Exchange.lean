import Appliance.Proofs.Secrecy.Alike

/-!
# Exchanges with the token service do not tell secrets apart

Credentials that are alike ask alike things of the token service, and when it answers alike
things, they get alike tokens or the same failure. Two answers that issue tokens are read in
the same way: a member that states an access token is no part of what a list of providers or
a lifetime is read from.

* `grantOf_alike`                 : what alike credentials ask with
* `providersOf_eq`, `tokenOf_alike` : what alike replies give
* `Conversation.Alike.andThen`    : one dialogue after another
* **`resolveScope_alike`**, **`exchange_alike`** : whole exchanges
-/

namespace Appliance

/-! ## The same failure, or results that are alike -/

namespace ExceptAlike

variable {ε α β : Type} {R : α → β → Prop}

theorem refl {R : α → α → Prop} (h : ∀ a, R a a) (x : Except ε α) : ExceptAlike R x x := by
  cases x with
  | error e => exact .error e
  | ok a => exact .ok (h a)

theorem of_eq {x y : Except ε α} (h : x = y) : ExceptAlike (· = ·) x y :=
  h ▸ refl (fun _ => rfl) x

theorem eq {x y : Except ε α} (h : ExceptAlike (· = ·) x y) : x = y := by
  cases h with
  | error e => rfl
  | ok h => rw [h]

/-- The failures may be put in other words. -/
theorem mapError {ε' : Type} {x : Except ε α} {y : Except ε β} (h : ExceptAlike R x y)
    (f : ε → ε') : ExceptAlike R (x.mapError f) (y.mapError f) := by
  cases h with
  | error e => exact .error (f e)
  | ok h => exact .ok h

end ExceptAlike

/-! ## Credentials -/

/-- The texts of secrets that are alike. -/
theorem Secret.Alike.texts {a b : Secret} (h : a.Alike b) :
    a.text? = none ∧ b.text? = none ∨ ∃ p q, a.text? = some p ∧ b.text? = some q := by
  have hsome : a.text?.isSome = b.text?.isSome := h
  cases ha : a.text? with
  | none =>
    have hb : b.text? = none := by simpa [ha] using hsome.symm
    exact .inl ⟨rfl, hb⟩
  | some p =>
    have hb : b.text?.isSome = true := by rw [← hsome, ha]; rfl
    obtain ⟨q, hq⟩ := Option.isSome_iff_exists.1 hb
    exact .inr ⟨p, q, rfl, hq⟩

theorem ClientCertificate.Alike.refl {platform : TokenService.Platform} (c : ClientCertificate) :
    c.Alike platform c :=
  ⟨rfl, rfl, fun p q hp hq => by rw [Option.some.inj (hp.symm.trans hq)]⟩

/-- The diagnostic text of a certificate shows its size alone. -/
theorem ClientCertificate.Alike.debug {platform : TokenService.Platform} {a b : ClientCertificate}
    (h : a.Alike platform b) : a.debug = b.debug := by
  rw [ClientCertificate.debug, ClientCertificate.debug, h.size]

namespace Credential.Alike

variable {platform : TokenService.Platform} {a b : Credential}

theorem isCertificate (h : a.Alike platform b) : a.isCertificate = b.isCertificate := by
  obtain ⟨identity, provider⟩ := a
  obtain ⟨identity', provider'⟩ := b
  cases h.identity <;> rfl

theorem kind (h : a.Alike platform b) : a.kind = b.kind := by
  obtain ⟨identity, provider⟩ := a
  obtain ⟨identity', provider'⟩ := b
  cases h.identity <;> rfl

theorem defaultScope (h : a.Alike platform b) : a.defaultScope = b.defaultScope := by
  rw [Credential.defaultScope, Credential.defaultScope, h.isCertificate]

/-- The diagnostic text of a credential shows no secret. -/
theorem debug (h : a.Alike platform b) : a.debug = b.debug := by
  obtain ⟨identity, provider⟩ := a
  obtain ⟨identity', provider'⟩ := b
  obtain rfl : provider = provider' := h.provider
  cases h.identity <;> rfl

theorem withProvider (h : a.Alike platform b) (name : String) :
    (a.withProvider name).Alike platform (b.withProvider name) :=
  ⟨h.identity, rfl⟩

/-- The certificates that alike credentials present are alike. -/
theorem presented (h : a.Alike platform b) (store : Option Certificate.Store) :
    ExceptAlike (Option.Rel (ClientCertificate.Alike platform)) (Certificate.presented store a)
      (Certificate.presented store b) := by
  obtain ⟨identity, provider⟩ := a
  obtain ⟨identity', provider'⟩ := b
  cases h.identity with
  | thumbprint t =>
    refine ExceptAlike.refl (fun c => ?_) _
    cases c with
    | none => exact .none
    | some c => exact .some (.refl c)
  | certificate hc => exact .ok (.some hc)
  | password username _ => exact .ok .none

end Credential.Alike

/-! ### Making credentials -/

namespace Credential

variable {platform : TokenService.Platform}

theorem Alike.refl (x : Credential) : x.Alike platform x := by
  refine ⟨?_, rfl⟩
  cases x.identity with
  | thumbprint t => exact .thumbprint t
  | password username secret => exact .password username rfl
  | certificate data password => exact .certificate (.refl ⟨data, password⟩)

theorem certificate_alike {data data' password password' : Secret}
    (h : ClientCertificate.Alike platform ⟨data, password⟩ ⟨data', password'⟩) :
    ExceptAlike (Credential.Alike platform) (Credential.certificate data password)
      (Credential.certificate data' password') := by
  have hempty : data.isEmpty = data'.isEmpty := by
    have hsize : data.octets.length = data'.octets.length := h.size
    rw [Bool.eq_iff_iff, Secret.isEmpty, Secret.isEmpty, List.isEmpty_iff_length_eq_zero,
      List.isEmpty_iff_length_eq_zero, hsize]
  rw [Credential.certificate, Credential.certificate, ← hempty]
  split
  · exact .error _
  · exact .ok ⟨.certificate h, rfl⟩

theorem password_alike (username : String) {secret secret' : Secret} (h : secret.Alike secret') :
    ExceptAlike (Credential.Alike platform) (Credential.password username secret)
      (Credential.password username secret') := by
  rw [Credential.password, Credential.password]
  split
  · exact .error _
  · exact .ok ⟨.password username h, rfl⟩

theorem certificateFile_alike (path : String) {content content' : Except Files.ReadFault Octets}
    {password password' : Secret}
    (h : ExceptAlike
      (fun d d' => ClientCertificate.Alike platform ⟨⟨d⟩, password⟩ ⟨⟨d'⟩, password'⟩)
      content content') :
    ExceptAlike (Credential.Alike platform) (Credential.certificateFile path content password)
      (Credential.certificateFile path content' password') := by
  cases h with
  | error f => exact .error _
  | ok h => exact certificate_alike h

end Credential

namespace TokenService

open Appliance.Json

/-- A certificate gets ready for the connection like one that is alike. -/
theorem attach_eq {platform : Platform} {a b : ClientCertificate} (h : a.Alike platform b)
    (appliance : Address) : attach platform appliance a = attach platform appliance b := by
  simp only [attach]
  rcases h.password.texts with ⟨ha, hb⟩ | ⟨p, q, ha, hb⟩
  · rw [ha, hb]
  · rw [ha, hb]
    dsimp only
    rw [h.opens p q ha hb]

/-! ## Grants -/

/-- The diagnostic text of a grant does not show the password. -/
theorem Grant.Alike.debug {g h : Grant} (hgh : g.Alike h) : g.debug = h.debug := by
  cases hgh <;> rfl

/-- What a certificate asks with, once it is ready. -/
theorem grantOf_of_isCertificate (platform : Platform) (appliance : Address) (options : Options)
    {c : Credential} (h : c.isCertificate = true) (scope : Scope) :
    grantOf platform appliance options c scope =
      match Certificate.presented options.store c with
      | .error f => .error (.auth f)
      | .ok none => .ok (.certificate scope.text)
      | .ok (some certificate) =>
        match attach platform appliance certificate with
        | .error f => .error (.auth f)
        | .ok _ => .ok (.certificate scope.text) := by
  obtain ⟨identity, provider⟩ := c
  cases identity with
  | password username secret => cases h
  | _ => rfl

/-- **Credentials that are alike ask with alike grants**, or fail in the same way. -/
theorem grantOf_alike {platform : Platform} {a b : Credential} (h : a.Alike platform b)
    (appliance : Address) (options : Options) (scope : Scope) :
    ExceptAlike Grant.Alike (grantOf platform appliance options a scope)
      (grantOf platform appliance options b scope) := by
  by_cases ha : a.isCertificate = true
  · have hb : b.isCertificate = true := h.isCertificate ▸ ha
    rw [grantOf_of_isCertificate platform appliance options ha,
      grantOf_of_isCertificate platform appliance options hb]
    have hpresented := h.presented options.store
    generalize Certificate.presented options.store a = x at hpresented ⊢
    generalize Certificate.presented options.store b = y at hpresented ⊢
    cases hpresented with
    | error f => exact .error _
    | ok hc =>
      cases hc with
      | none => exact .ok (.certificate _)
      | some hc =>
        dsimp only
        rw [attach_eq hc]
        cases attach platform appliance _ with
        | error f => exact .error _
        | ok u => exact .ok (.certificate _)
  · obtain ⟨identity, provider⟩ := a
    obtain ⟨identity', provider'⟩ := b
    cases h.identity with
    | thumbprint t => exact absurd rfl ha
    | certificate hc => exact absurd rfl ha
    | password username hsecret =>
      simp only [grantOf]
      rcases hsecret.texts with ⟨ha, hb⟩ | ⟨p, q, ha, hb⟩
      · rw [ha, hb]
        exact .error _
      · rw [ha, hb]
        exact .ok (.password ..)

/-! ## Answers that issue a token -/

/-- Two keys are the same with the same values, or both name the access token. -/
def KeyedAlike (m n : String × Tree) : Prop :=
  m = n ∨ m.1 = "access_token" ∧ n.1 = "access_token"

theorem keyed?_alike {ms ms' : List (List Piece × Tree)} (h : List.Forall₂ MemberAlike ms ms') :
    Option.Rel (List.Forall₂ KeyedAlike) (Record.keyed? ms) (Record.keyed? ms') := by
  induction h with
  | nil => exact .some .nil
  | @cons m m' rest rest' hm _ ih =>
    obtain ⟨key, t⟩ := m
    obtain ⟨key', t'⟩ := m'
    have hkey : key' = key := by cases hm <;> rfl
    subst hkey
    simp only [Record.keyed?]
    cases hdecoded : decodePieces key' with
    | none => exact .none
    | some k =>
      have hhead : KeyedAlike (String.ofList k, t) (String.ofList k, t') := by
        cases hm with
        | same => exact .inl rfl
        | token htoken =>
          have hk : String.ofList k = "access_token" := by simpa [tokenKey, hdecoded] using htoken
          exact .inr ⟨hk, hk⟩
      generalize Record.keyed? rest = x at ih ⊢
      generalize Record.keyed? rest' = y at ih ⊢
      cases ih with
      | none => exact .none
      | some hrest => exact .some (.cons hhead hrest)

/-- An access token is no part of what is given for any other field. -/
theorem given?_eq {ks ks' : List (String × Tree)} (h : List.Forall₂ KeyedAlike ks ks')
    {field : Record.Field} (hfield : "access_token" ∉ field) :
    Record.given? ks field = Record.given? ks' field := by
  have hfilter : (ks.filter fun m => field.contains m.1) =
      ks'.filter fun m => field.contains m.1 := by
    induction h with
    | nil => rfl
    | cons hm _ ih =>
      rcases hm with rfl | ⟨hk, hk'⟩
      · rw [List.filter_cons, List.filter_cons, ih]
      · have hnot : field.contains "access_token" = false := by simpa using hfield
        rw [List.filter_cons_of_neg (by rw [hk, hnot]; simp),
          List.filter_cons_of_neg (by rw [hk', hnot]; simp), ih]
  rw [Record.given?, Record.given?, hfilter]

theorem fields?_eq {ms ms' : List (List Piece × Tree)} (h : List.Forall₂ MemberAlike ms ms')
    {field : Record.Field} (hfield : "access_token" ∉ field) :
    Record.fields? [field] (.object ms) = Record.fields? [field] (.object ms') := by
  have hkeyed := keyed?_alike h
  simp only [Record.fields?]
  generalize Record.keyed? ms = x at hkeyed ⊢
  generalize Record.keyed? ms' = y at hkeyed ⊢
  cases hkeyed with
  | none => rfl
  | some hks =>
    simp only [Option.bind_some, Record.ofMembers?, List.mapM_cons, List.mapM_nil,
      given?_eq hks hfield]

/-- Providers are not read from an array that begins with a text. -/
theorem listOfTree?_array (text : List Piece) (rest : List Tree) :
    ProviderEntry.listOfTree? (.array (.text text :: rest)) = none := by
  cases rest <;> rfl

/-- An access token is no part of a list of providers. -/
theorem listOfTree?_eq {t t' : Tree} (h : TreeAlike t t') :
    ProviderEntry.listOfTree? t = ProviderEntry.listOfTree? t' := by
  cases h with
  | object hms =>
    have hother : "access_token" ∉ ["Providers"] := by decide
    have hfields := fields?_eq hms hother
    rw [ProviderEntry.listOfTree?, ProviderEntry.listOfTree?, hfields]
  | array text text' rest => rw [listOfTree?_array, listOfTree?_array]

/-- What the lifetime of a token is read from. -/
theorem expiry_of_ofTree? {t : Tree} {b : IssuedBody} (h : IssuedBody.ofTree? t = some b) :
    ∃ token given, Record.fields? [["access_token"], ["expires_in"]] t = some [token, given] ∧
      Record.optional? (Tree.natBelow? 0x10000000000000000) given = some b.expiresIn := by
  simp only [IssuedBody.ofTree?, Option.bind_eq_bind] at h
  obtain ⟨parts, hparts, h⟩ := Option.bind_eq_some_iff.1 h
  split at h
  · next token given =>
    obtain ⟨text, -, h⟩ := Option.bind_eq_some_iff.1 h
    obtain ⟨seconds, hseconds, h⟩ := Option.bind_eq_some_iff.1 h
    cases h
    exact ⟨token, given, hparts, hseconds⟩
  · cases h

theorem given_of_fields? {ks : List (String × Tree)} {token given : Option Tree}
    (h : Record.ofMembers? [["access_token"], ["expires_in"]] ks = some [token, given]) :
    Record.given? ks ["expires_in"] = some given := by
  simp only [Record.ofMembers?, List.mapM_cons, List.mapM_nil, Option.bind_eq_bind,
    Option.pure_def, Option.bind_some, Option.bind_eq_some_iff] at h
  obtain ⟨first, -, rest, ⟨second, hsecond, hrest⟩, hparts⟩ := h
  cases hrest
  cases hparts
  exact hsecond

/-- Trees that are alike give the same for the lifetime of a token. -/
theorem given_eq {t t' : Tree} (h : TreeAlike t t') {token token' given given' : Option Tree}
    (ht : Record.fields? [["access_token"], ["expires_in"]] t = some [token, given])
    (ht' : Record.fields? [["access_token"], ["expires_in"]] t' = some [token', given']) :
    given = given' := by
  cases h with
  | object hms =>
    obtain ⟨ks, hks, hgiven⟩ := Option.bind_eq_some_iff.1 ht
    obtain ⟨ks', hks', hgiven'⟩ := Option.bind_eq_some_iff.1 ht'
    have hkeyed := keyed?_alike hms
    rw [hks, hks'] at hkeyed
    cases hkeyed with
    | some hkeyed =>
      have hother : "access_token" ∉ ["expires_in"] := by decide
      have hsame := given?_eq hkeyed hother
      rw [given_of_fields? hgiven, given_of_fields? hgiven'] at hsame
      exact Option.some.inj hsame
  | array text text' rest =>
    obtain ⟨parts, hparts, heq⟩ := Option.map_eq_some_iff.1 ht
    obtain ⟨parts', hparts', heq'⟩ := Option.map_eq_some_iff.1 ht'
    rw [hparts] at hparts'
    cases hparts'
    cases heq
    cases heq'
    rfl

/-- Tokens that alike answers issue live for the same time. -/
theorem seconds_eq {r r' : Response} {t t' : Tree} {text text' : String}
    {seconds seconds' : Option Nat} (hr : r.Issues text seconds) (hr' : r'.Issues text' seconds')
    (htree : Tree.ofText? (Text.Utf8.lossy r.body) = some t)
    (htree' : Tree.ofText? (Text.Utf8.lossy r'.body) = some t') (h : TreeAlike t t') :
    seconds = seconds' := by
  have hbody : IssuedBody.ofTree? t = some ⟨some text, seconds⟩ := by
    simpa [IssuedBody.ofText?, htree] using hr.body
  have hbody' : IssuedBody.ofTree? t' = some ⟨some text', seconds'⟩ := by
    simpa [IssuedBody.ofText?, htree'] using hr'.body
  obtain ⟨token, given, hgiven, hseconds⟩ := expiry_of_ofTree? hbody
  obtain ⟨token', given', hgiven', hseconds'⟩ := expiry_of_ofTree? hbody'
  rw [given_eq h hgiven hgiven'] at hseconds
  exact Option.some.inj (hseconds.symm.trans hseconds')

/-! ## Replies -/

/-- Replies that are alike list the same providers. -/
theorem providersOf_eq {r r' : Reply} (h : r.Alike r') : providersOf r = providersOf r' := by
  obtain ⟨time, outcome⟩ := r
  obtain ⟨time', outcome'⟩ := r'
  cases h.outcome with
  | error f => rfl
  | ok hresponse =>
    cases hresponse with
    | same => rfl
    | issue hstatus htree htree' hms hissue hissue' _ =>
      simp only [providersOf, bodyOf, accept, hissue.success, hissue'.success, if_true, Except.bind,
        ProviderEntry.listOfText?, htree, htree', Option.bind_some, listOfTree?_eq hms]

/-- Replies that are alike issue alike tokens, or none for the same reason. -/
theorem tokenOf_alike (options : Options) {r r' : Reply} (h : r.Alike r') :
    ExceptAlike Token.Alike (tokenOf options r) (tokenOf options r') := by
  obtain ⟨time, outcome⟩ := r
  obtain ⟨time', outcome'⟩ := r'
  obtain rfl : time = time' := h.time
  cases h.outcome with
  | error f => exact .error _
  | ok hresponse =>
    cases hresponse with
    | same => exact ExceptAlike.refl (fun t => ⟨rfl, rfl⟩) _
    | issue hstatus htree htree' hms hissue hissue' htext =>
      obtain rfl := seconds_eq hissue hissue' htree htree' hms
      rw [tokenOf_of_issues options rfl hissue, tokenOf_of_issues options rfl hissue']
      dsimp only
      split
      · exact .ok ⟨rfl, htext⟩
      · exact .error _

/-! ## Dialogues -/

namespace Conversation.Alike

variable {α β γ δ : Type} {R : α → β → Prop} {S : γ → δ → Prop}
  {d : Dialogue Request Reply α} {d' : Dialogue Request Reply β}

/-- One dialogue after another. -/
theorem andThen (h : Conversation.Alike R d d') {f : α → Dialogue Request Reply γ}
    {g : β → Dialogue Request Reply δ} (hfg : ∀ a b, R a b → Conversation.Alike S (f a) (g b)) :
    Conversation.Alike S (d.andThen f) (d'.andThen g) := by
  induction h with
  | done hab => exact hfg _ _ hab
  | ask hq _ ih => exact .ask hq ih

theorem map (h : Conversation.Alike R d d') {f : α → γ} {g : β → δ}
    (hfg : ∀ a b, R a b → S (f a) (g b)) : Conversation.Alike S (d.map f) (d'.map g) :=
  h.andThen fun a b hab => .done (hfg a b hab)

/-- What is asked is alike. -/
theorem asks (h : Conversation.Alike R d d') {rs rs' : List Reply}
    (hrs : List.Forall₂ Reply.Alike rs rs') :
    List.Forall₂ Request.Alike (d.asks rs) (d'.asks rs') := by
  induction h generalizing rs rs' with
  | done _ => exact .nil
  | ask hq _ ih =>
    cases hrs with
    | nil => exact .cons hq .nil
    | cons hr hrs => exact .cons hq (ih _ _ hr hrs)

/-- The results are related, once there are enough answers. -/
theorem result? (h : Conversation.Alike R d d') {rs rs' : List Reply}
    (hrs : List.Forall₂ Reply.Alike rs rs') : Option.Rel R (d.result? rs) (d'.result? rs') := by
  induction h generalizing rs rs' with
  | done hab => exact .some hab
  | ask _ _ ih =>
    cases hrs with
    | nil => exact .none
    | cons hr hrs => exact ih _ _ hr hrs

end Conversation.Alike

/-- **Credentials that are alike have the same scope**, found by the same requests. -/
theorem resolveScope_alike {platform : Platform} {a b : Credential} (h : a.Alike platform b)
    (appliance : Address) :
    Conversation.Alike (ExceptAlike (· = ·)) (resolveScope appliance a)
      (resolveScope appliance b) := by
  have hid : builtInId a = builtInId b := by rw [builtInId, builtInId, h.isCertificate]
  have hscope := ExceptAlike.of_eq (congrArg (Except.ok (ε := Failure)) h.defaultScope)
  simp only [resolveScope, ← h.provider, ← hid]
  cases a.provider with
  | none => exact .done hscope
  | some name =>
    dsimp only
    split
    · exact .done hscope
    · refine Conversation.Alike.map (R := (· = ·)) (.ask (.same _) fun r r' hr => .done ?_)
        fun x y hxy => ExceptAlike.of_eq (congrArg (scopeOf name) hxy)
      rw [providersOf_eq hr]

/-- **Credentials that are alike get alike tokens** from alike answers to alike requests, or
fail in the same way. -/
theorem exchange_alike {platform : Platform} {a b : Credential} (h : a.Alike platform b)
    (appliance : Address) (options : Options) (scope : Scope) :
    Conversation.Alike (ExceptAlike Token.Alike) (exchange platform appliance options a scope)
      (exchange platform appliance options b scope) := by
  have hgrant := grantOf_alike h appliance options scope
  simp only [exchange]
  generalize grantOf platform appliance options a scope = x at hgrant ⊢
  generalize grantOf platform appliance options b scope = y at hgrant ⊢
  cases hgrant with
  | error f => exact .done (.error _)
  | ok hg => exact .ask (.token appliance hg) fun r r' hr => .done (tokenOf_alike options hr)

end TokenService

end Appliance

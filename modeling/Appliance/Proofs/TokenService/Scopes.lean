import Appliance.Proofs.TokenService.Answers

/-!
# Which provider vouches for a credential

A credential that names no provider, or the one that is built in for its kind, has the default
scope of its kind, and nobody is asked. One that names another provider has it looked up, once:
the first on the appliance's list that goes by the name is the one, and a name that nobody goes by
is unknown, as it is if the appliance answers with no list. Only if there is no answer at all is
that the fault. A token is asked for when the scope is known and not before, and for that scope.

* `LooksUp` — a credential names a provider that is not built in for its kind.
* `Reply.Lists`, `ProviderEntry.Matches` — a reply lists providers, one of them goes by a name.
* `Finds` — what comes of looking up a name.
* `result?_resolveScope_iff` — a look-up comes to that.
* `asks_authenticate` — who asks for a token has a scope.
* `credential_gets_its_scope` — **which scope a credential gets, and what it is used for.**
-/

namespace Appliance

namespace TokenService

/-! ## Names of providers -/

/-- A credential names a provider, and it is not the one built in for its kind, whatever the case
of its ASCII letters. -/
def LooksUp (c : Credential) (name : String) : Prop :=
  c.provider = some name ∧ Text.lower name ≠ Text.lower (builtInId c)

/-- A provider goes by a name: its id or its displayed name is the same up to the case of ASCII
letters. -/
def ProviderEntry.Matches (p : ProviderEntry) (name : String) : Prop :=
  Text.lower p.id = Text.lower name ∨
    ∃ shown, p.displayName = some shown ∧ Text.lower shown = Text.lower name

theorem ProviderEntry.goesBy_iff {p : ProviderEntry} {name : String} :
    p.goesBy name = true ↔ p.Matches name := by
  simp [goesBy, Matches, Option.any_eq_true, Text.sameLetters_iff]

/-- A reply is an answer of success with a list of providers. -/
def Reply.Lists (reply : Reply) (providers : List ProviderEntry) : Prop :=
  ∃ r, reply.outcome = .ok r ∧ r.Succeeds ∧ ProviderEntry.listOfText? r.text = some providers

/-- The fault of a name that none of some providers goes by. -/
def unknown (name : String) (providers : List ProviderEntry) : Fault :=
  .auth (.unknownProvider name (providers.map (·.id)))

/-! ## Looking up a name -/

/-- What comes of looking up a name, by what the appliance replies. -/
inductive Finds (name : String) (reply : Reply) : Except Failure Scope → Prop
  /-- The scope of the first provider on the list that goes by the name. -/
  | found {before after : List ProviderEntry} {p : ProviderEntry}
      (h : reply.Lists (before ++ p :: after)) (hp : p.Matches name)
      (hfirst : ∀ q ∈ before, ¬ q.Matches name) : Finds name reply (.ok ⟨p.id⟩)
  /-- Nobody on the list goes by the name. -/
  | unlisted {providers : List ProviderEntry} (h : reply.Lists providers)
      (hnone : ∀ p ∈ providers, ¬ p.Matches name) :
      Finds name reply (.error (.fault (unknown name providers)))
  /-- The answer is a rejection, or is malformed. -/
  | unusable {r : Response} (hr : reply.outcome = .ok r)
      (hnone : ∀ providers, ¬ reply.Lists providers) :
      Finds name reply (.error (.fault (unknown name [])))
  /-- There is no answer. -/
  | unanswered {f : TransportFault} (hf : reply.outcome = .error f) :
      Finds name reply (.error (.fault (.transport f)))

/-- Every reply comes to something. -/
theorem exists_finds (name : String) (reply : Reply) : ∃ outcome, Finds name reply outcome := by
  cases hr : reply.outcome with
  | error f => exact ⟨_, .unanswered hr⟩
  | ok r =>
    by_cases hlists : ∃ providers, reply.Lists providers
    case neg => exact ⟨_, .unusable hr fun providers h => hlists ⟨providers, h⟩⟩
    case pos =>
      obtain ⟨providers, h⟩ := hlists
      cases hfind : providers.find? fun p => p.goesBy name with
      | none =>
        have hnone := List.find?_eq_none.1 hfind
        exact ⟨_, .unlisted h fun p hp hm => hnone p hp (ProviderEntry.goesBy_iff.2 hm)⟩
      | some p =>
        obtain ⟨hp, before, after, rfl, hbefore⟩ := List.find?_eq_some_iff_append.1 hfind
        refine ⟨_, .found h (ProviderEntry.goesBy_iff.1 hp) fun q hq hm => ?_⟩
        simpa [ProviderEntry.goesBy_iff.2 hm] using hbefore q hq

/-- A reply with a list gives that list. -/
theorem providersOf_of_lists {reply : Reply} {providers : List ProviderEntry}
    (h : reply.Lists providers) : providersOf reply = .ok providers := by
  obtain ⟨r, hr, hs, hlist⟩ := h
  simp [providersOf, bodyOf_of_succeeds hr hs, Except.bind, hlist]

/-- An answer without a list gives a fault that is none of the network. -/
theorem providersOf_of_unusable {reply : Reply} {r : Response} (hr : reply.outcome = .ok r)
    (hnone : ∀ providers, ¬ reply.Lists providers) :
    ∃ f, providersOf reply = .error f ∧ ∀ g, f ≠ .transport g := by
  by_cases hs : r.Succeeds
  · have hlist : ProviderEntry.listOfText? r.text = none := by
      rw [Option.eq_none_iff_forall_ne_some]
      exact fun providers h => hnone providers ⟨r, hr, hs, h⟩
    refine ⟨malformed "provider list is not valid JSON: no provider list", ?_, by simp [malformed]⟩
    simp [providersOf, bodyOf_of_succeeds hr hs, Except.bind, hlist]
  · refine ⟨refusal r.status r.text, ?_, by simp [refusal]⟩
    simp [providersOf, bodyOf_of_refused hr hs, Except.bind]

/-- What a look-up comes to is the scope, or the fault, that is made of the reply. -/
theorem Finds.scopeOf_eq {name : String} {reply : Reply} {outcome : Except Failure Scope}
    (h : Finds name reply outcome) :
    scopeOf name ((providersOf reply).mapError .fault) = outcome := by
  cases h with
  | @found before after p h hp hfirst =>
    have hfind : (before ++ p :: after).find? (fun p => p.goesBy name) = some p := by
      refine List.find?_eq_some_iff_append.2 ⟨ProviderEntry.goesBy_iff.2 hp, before, after, rfl, ?_⟩
      intro q hq
      simpa [← ProviderEntry.goesBy_iff] using hfirst q hq
    have hchoose : choose name (before ++ p :: after) = .ok ⟨p.id⟩ := by simp only [choose, hfind]
    rw [providersOf_of_lists h]
    exact congrArg (Except.mapError Failure.fault) hchoose
  | @unlisted providers h hnone =>
    have hfind : providers.find? (fun p => p.goesBy name) = none := by
      simpa [ProviderEntry.goesBy_iff] using hnone
    have hchoose : choose name providers = .error (unknown name providers) := by
      simp only [choose, hfind, unknown]
    rw [providersOf_of_lists h]
    exact congrArg (Except.mapError Failure.fault) hchoose
  | unusable hr hnone =>
    obtain ⟨f, hf, hother⟩ := providersOf_of_unusable hr hnone
    rw [hf]
    cases f with
    | transport g => exact absurd rfl (hother g)
    | _ => rfl
  | @unanswered f hf =>
    have hsilent : providersOf reply = .error (.transport f) := by
      simp [providersOf, bodyOf, hf, Except.bind]
    rw [hsilent]
    rfl

/-! ## The scope of a credential -/

variable {c : Credential} {name : String}

/-- The default scope is there without a question. -/
theorem resolveScope_of_not_looksUp (appliance : Address) (h : ∀ name, ¬ LooksUp c name) :
    resolveScope appliance c = .done (.ok c.defaultScope) := by
  unfold resolveScope
  split
  · rfl
  · next name hname =>
    have hsame : Text.sameLetters name (builtInId c) = true := by
      rw [Text.sameLetters_iff]
      exact Decidable.byContradiction fun hne => h name ⟨hname, hne⟩
    rw [if_pos hsame]

/-- Any other scope is looked up. -/
theorem resolveScope_of_looksUp (appliance : Address) (h : LooksUp c name) :
    resolveScope appliance c = (lookUpProviders appliance).map (scopeOf name) := by
  have hother : ¬ Text.sameLetters name (builtInId c) = true := by
    rw [Text.sameLetters_iff]
    exact h.2
  simp only [resolveScope, h.1, if_neg hother]

/-- **A look-up comes to what the reply says of the name.** -/
theorem result?_resolveScope_iff (appliance : Address) (h : LooksUp c name) (reply : Reply)
    (rest : List Reply) (outcome : Except Failure Scope) :
    (resolveScope appliance c).result? (reply :: rest) = some outcome ↔
      Finds name reply outcome := by
  have hresult : (resolveScope appliance c).result? (reply :: rest) =
      some (scopeOf name ((providersOf reply).mapError .fault)) := by
    rw [resolveScope_of_looksUp appliance h]
    rfl
  rw [hresult, Option.some.injEq]
  refine ⟨fun heq => ?_, Finds.scopeOf_eq⟩
  obtain ⟨found, hfound⟩ := exists_finds name reply
  rw [← heq, hfound.scopeOf_eq]
  exact hfound

/-! ## What the scope is used for -/

variable {platform : Platform} {appliance : Address} {options : Options}

/-- A grant asks for the scope it is made for. -/
theorem scope_of_grantOf {s : Scope} {grant : Grant}
    (h : grantOf platform appliance options c s = .ok grant) :
    grant.fields.lookup "scope" = some s.text := by
  unfold grantOf at h
  split at h
  · split at h
    · cases h
      rfl
    · cases h
  · split at h
    · cases h
    · cases h
      rfl
    · split at h
      · cases h
      · cases h
        rfl

/-- With a scope, a token is asked for once if the credential is ready for it, and else not. -/
theorem asks_exchange (s : Scope) (replies : List Reply) :
    (exchange platform appliance options c s).asks replies =
      ((grantOf platform appliance options c s).toOption.map (tokenRequest appliance)).toList := by
  unfold exchange
  split
  · next f hf => simp [hf, Except.toOption, Dialogue.asks]
  · next grant hgrant =>
    cases replies <;> simp [hgrant, Except.toOption, requestToken, Dialogue.asks]

/-- **Who asks for a token has a scope.**  Without one that is given, what is asked is what the
scope takes, and after that a token if the scope is there. -/
theorem asks_authenticate (replies : List Reply) :
    ∃ grant : Option Grant, (authenticate platform appliance options c none).asks replies =
        (resolveScope appliance c).asks replies ++ (grant.map (tokenRequest appliance)).toList ∧
      ∀ g, grant = some g ↔ ∃ s, (resolveScope appliance c).result? replies = some (.ok s) ∧
        grantOf platform appliance options c s = .ok g := by
  simp only [authenticate, Dialogue.asks_andThen]
  cases hscope : (resolveScope appliance c).result? replies with
  | none => exact ⟨none, by simp, by simp⟩
  | some outcome =>
    cases outcome with
    | error failure => exact ⟨none, by simp [Dialogue.asks], by simp⟩
    | ok s =>
      refine ⟨(grantOf platform appliance options c s).toOption, by simp [asks_exchange], ?_⟩
      intro g
      cases hgrant : grantOf platform appliance options c s <;> simp [hgrant, Except.toOption]

/-- Who finds no scope asks for no token, and fails as the look-up did. -/
theorem authenticate_of_no_scope {replies : List Reply} {failure : Failure}
    (h : (resolveScope appliance c).result? replies = some (.error failure)) :
    (authenticate platform appliance options c none).result? replies = some (.error failure) := by
  simp only [authenticate, Dialogue.result?_andThen, h, Option.bind_some, Dialogue.result?]

/-- **Which scope a credential gets, and what it is used for.**  If a credential names no provider,
or the one that is built in for its kind, its default scope is there without a request. If it names
another one, there is one request for the list of providers, and the scope is that of the first
provider listed which goes by the name; a fault of the network is passed on if there is no answer,
and only then; and otherwise the name is unknown, with the ids that are listed in order, or none if
the answer is a rejection or malformed. Whoever asks for a token without giving a scope asks for
the scope first, and for a token only if that was found, once, by a grant for exactly that scope;
if it was not found, that is the failure. -/
theorem credential_gets_its_scope (platform : Platform) (appliance : Address) (options : Options)
    (c : Credential) :
    ((∀ name, ¬ LooksUp c name) → ∀ replies, (resolveScope appliance c).asks replies = [] ∧
      (resolveScope appliance c).result? replies = some (.ok c.defaultScope)) ∧
    (∀ name, LooksUp c name →
      (∀ replies, (resolveScope appliance c).asks replies = [lookupRequest appliance]) ∧
      ∀ reply rest outcome, (resolveScope appliance c).result? (reply :: rest) = some outcome ↔
        Finds name reply outcome) ∧
    (∀ replies, ∃ grant : Option Grant,
      (authenticate platform appliance options c none).asks replies =
        (resolveScope appliance c).asks replies ++ (grant.map (tokenRequest appliance)).toList ∧
      ∀ g, grant = some g ↔ ∃ s, (resolveScope appliance c).result? replies = some (.ok s) ∧
        grantOf platform appliance options c s = .ok g) ∧
    (∀ s g, grantOf platform appliance options c s = .ok g →
      g.fields.lookup "scope" = some s.text) ∧
    (∀ replies failure, (resolveScope appliance c).result? replies = some (.error failure) →
      (authenticate platform appliance options c none).result? replies =
        some (.error failure)) := by
  refine ⟨fun hdefault replies => ?_, fun name hname => ⟨fun replies => ?_, fun reply rest outcome =>
    result?_resolveScope_iff appliance hname reply rest outcome⟩, fun replies =>
    asks_authenticate replies, fun s g => scope_of_grantOf, fun replies failure =>
    authenticate_of_no_scope⟩
  · rw [resolveScope_of_not_looksUp appliance hdefault]
    exact ⟨rfl, rfl⟩
  · rw [resolveScope_of_looksUp appliance hname]
    cases replies <;> rfl

/-- A user of a directory is vouched for by the first provider with its name, though that is a
displayed one in other letters, and a token is asked for the scope of that provider. -/
theorem directory_user_gets_its_scope :
    let c : Credential := ⟨.password "user" Secret.empty, some "LDAP"⟩
    let reply : Reply := ⟨0, .ok ⟨200, Octets.ofText ("\x7b\"Providers\":[\x7b\"Id\":\"local\"\x7d," ++
      "\x7b\"Id\":\"ad-7\",\"DisplayName\":\"Ldap\"\x7d,\x7b\"Id\":\"ldap\"\x7d]\x7d")⟩⟩
    LooksUp c "LDAP" ∧ (resolveScope loopback c).result? [reply] = some (.ok ⟨"ad-7"⟩) ∧
      ∃ g, (authenticate .bare loopback .standard c none).asks [reply] =
          [lookupRequest loopback, tokenRequest loopback g] ∧
        g.fields.lookup "scope" = some (Scope.mk "ad-7").text := by
  intro c reply
  have hname : LooksUp c "LDAP" := ⟨rfl, by decide⟩
  obtain ⟨-, hlooks, htoken, hscope, -⟩ := credential_gets_its_scope .bare loopback .standard c
  have hlists : reply.Lists ([⟨"local", none⟩] ++ ⟨"ad-7", some "Ldap"⟩ :: [⟨"ldap", none⟩]) :=
    ⟨_, rfl, Response.succeeds_iff.2 rfl, by decide +kernel⟩
  have hfound : (resolveScope loopback c).result? [reply] = some (.ok ⟨"ad-7"⟩) := by
    refine ((hlooks "LDAP" hname).2 reply [] _).2 (.found hlists (.inr ⟨_, rfl, by decide⟩) ?_)
    rintro q hq
    obtain rfl := List.mem_singleton.1 hq
    rw [← ProviderEntry.goesBy_iff]
    decide
  have hempty : Secret.empty.text? = some "" := by decide
  have hgrant : grantOf .bare loopback .standard c ⟨"ad-7"⟩ =
      .ok (.password "user" "" (Scope.mk "ad-7").text) := by
    simp only [grantOf, c, hempty]
  obtain ⟨grant, hasks, hgrants⟩ := htoken [reply]
  obtain rfl := (hgrants _).2 ⟨_, hfound, hgrant⟩
  refine ⟨hname, hfound, _, ?_, hscope _ _ hgrant⟩
  rw [hasks, (hlooks "LDAP" hname).1]
  rfl

end TokenService

end Appliance

import Appliance.TokenService.Provider

/-!
# Answers that issue a token, and its expiry

The token service states the lifetime of a token in seconds, as any number of 64 bits.
The expiry is the instant of the answer plus the lifetime, and an instant at or beyond the
horizon cannot be told: an exchange that has to tell it breaks off, with neither a token nor
a fault. Everything else that an answer may say ends in a token or in a fault.

* `Response.Issues`  : an answer issues a token
* `lifespan`         : how long its token lives
* `tokenOf_of_issues`, `tokenOf_of_silent` : the result of one answer, by what it says
* **`token_exchange_breaks_off_iff`** : an exchange breaks off exactly on an answer that
  issues a token whose expiry lies at or beyond the horizon
-/

namespace Appliance

namespace TokenService

open Appliance.Json

/-! ## Answers that issue a token -/

/-- The answer is one of success, and its body states a token, with a lifetime in seconds
or without one. -/
structure Response.Issues (r : Response) (text : String) (seconds : Option Nat) : Prop where
  success : isSuccess r.status = true
  body : IssuedBody.ofText? (Text.Utf8.lossy r.body) = some ⟨some text, seconds⟩
  nonempty : text ≠ ""

/-- An answer issues one token at most. -/
theorem Response.Issues.unique {r : Response} {text text' : String} {seconds seconds' : Option Nat}
    (h : r.Issues text seconds) (h' : r.Issues text' seconds') :
    text' = text ∧ seconds' = seconds := by
  have hb := Option.some.inj (h.body.symm.trans h'.body)
  simp only [IssuedBody.mk.injEq, Option.some.injEq] at hb
  exact ⟨hb.1.symm, hb.2.symm⟩

/-- The nanoseconds that a token lives whose answer states that many seconds, or none. -/
def lifespan (options : Options) : Option Nat → Nat
  | some seconds => seconds * Duration.nanosPerSecond
  | none => options.defaultLifetime.nanos

theorem lt_of_natBelow? {bound n : Nat} {t : Tree} (h : t.natBelow? bound = some n) :
    n < bound := by
  simp only [Tree.natBelow?] at h
  split at h
  · split at h
    · next hlt => exact Option.some.inj h ▸ hlt
    · cases h
  · cases h

theorem natBelow?_of_optional? {bound n : Nat} {t : Option Tree}
    (h : Record.optional? (Tree.natBelow? bound) t = some (some n)) : n < bound := by
  simp only [Record.optional?] at h
  split at h
  · cases h
  · cases h
  · next t =>
    obtain ⟨m, hm, hn⟩ := Option.map_eq_some_iff.1 h
    exact Option.some.inj hn ▸ lt_of_natBelow? hm

/-- A lifetime that is read has 64 bits. -/
theorem IssuedBody.expiresIn_lt {s : String} {b : IssuedBody} {n : Nat}
    (h : ofText? s = some b) (hn : b.expiresIn = some n) : n < 0x10000000000000000 := by
  obtain ⟨t, -, ht⟩ := Option.bind_eq_some_iff.1 h
  simp only [ofTree?, Option.bind_eq_bind] at ht
  obtain ⟨given, -, ht⟩ := Option.bind_eq_some_iff.1 ht
  split at ht
  · obtain ⟨token, -, ht⟩ := Option.bind_eq_some_iff.1 ht
    obtain ⟨lifetime, hlifetime, ht⟩ := Option.bind_eq_some_iff.1 ht
    cases ht
    subst hn
    exact natBelow?_of_optional? hlifetime
  · cases ht

/-- Seconds of 64 bits fit a duration. -/
theorem nanos_ofSeconds {n : Nat} (h : n < 0x10000000000000000) :
    (Duration.ofSeconds n).nanos = n * Duration.nanosPerSecond := by
  refine Duration.nanos_ofNanos ?_
  simp only [Duration.limit, Duration.nanosPerSecond]
  omega

/-- The lifetime that a body states is kept in full. -/
theorem nanos_issued (options : Options) {s : String} {b : IssuedBody}
    (h : IssuedBody.ofText? s = some b) :
    ((b.expiresIn.map Duration.ofSeconds).getD options.defaultLifetime).nanos =
      lifespan options b.expiresIn := by
  cases hn : b.expiresIn with
  | none => rfl
  | some n => exact nanos_ofSeconds (IssuedBody.expiresIn_lt h hn)

/-! ## One answer -/

/-- An answer that issues a token gives it, unless its expiry cannot be told. -/
theorem tokenOf_of_issues (options : Options) {reply : Reply} {r : Response} {text : String}
    {seconds : Option Nat} (hr : reply.outcome = .ok r) (h : r.Issues text seconds) :
    tokenOf options reply =
      if reply.time + lifespan options seconds < Instant.horizon then
        .ok ⟨text, reply.time + lifespan options seconds⟩
      else .error .beyondClock := by
  have hnanos := nanos_issued options h.body
  have hissued : (bodyOf reply).bind (issued options.defaultLifetime) =
      .ok (text, (seconds.map Duration.ofSeconds).getD options.defaultLifetime) := by
    simp [bodyOf, hr, accept, h.success, Except.bind, issued, h.body, h.nonempty]
  simp only [tokenOf, hissued, Token.issue?, hnanos]
  by_cases hlt : reply.time + lifespan options seconds < Instant.horizon
  · rw [if_pos hlt, if_pos hlt]
  · rw [if_neg hlt, if_neg hlt]

/-- What a body gives that no fault is made of. -/
theorem body_of_issued {lifetime : Duration} {s text : String} {d : Duration}
    (h : issued lifetime s = .ok (text, d)) :
    text ≠ "" ∧ ∃ seconds, IssuedBody.ofText? s = some ⟨some text, seconds⟩ := by
  simp only [issued] at h
  split at h
  · cases h
  · next b hb =>
    obtain ⟨_ | token, seconds⟩ := b
    · cases h
    · dsimp only at h
      split at h
      · cases h
      · next hne =>
        cases h
        exact ⟨hne, seconds, hb⟩

/-- An answer that issues no token ends in a fault, as does a request that is not answered. -/
theorem tokenOf_of_silent (options : Options) {reply : Reply}
    (h : ∀ r text seconds, reply.outcome = .ok r → ¬r.Issues text seconds) :
    ∃ f, tokenOf options reply = .error (.fault f) := by
  cases hbody : (bodyOf reply).bind (issued options.defaultLifetime) with
  | error f => exact ⟨f, by simp only [tokenOf, hbody]⟩
  | ok given =>
    obtain ⟨text, d⟩ := given
    cases hr : reply.outcome with
    | error f => simp [bodyOf, hr, Except.bind] at hbody
    | ok r =>
      cases hs : isSuccess r.status with
      | false => simp [bodyOf, hr, accept, hs, Except.bind] at hbody
      | true =>
        have hissued : issued options.defaultLifetime (Text.Utf8.lossy r.body) = .ok (text, d) := by
          simpa [bodyOf, hr, accept, hs, Except.bind] using hbody
        obtain ⟨hne, seconds, hb⟩ := body_of_issued hissued
        exact absurd ⟨hs, hb, hne⟩ (h r text seconds hr)

/-! ## An exchange -/

/-- **What an exchange for a token comes to.** Whatever the answer and the instant it comes
at, an exchange breaks off exactly if the answer issues a token whose expiry lies at or
beyond the horizon; it gives a token exactly if the answer issues that one and its expiry
can be told; and it ends in a fault exactly if the answer issues none. -/
theorem token_exchange_breaks_off_iff (appliance : Address) (options : Options) (grant : Grant)
    (reply : Reply) :
    ((requestToken appliance options grant).result? [reply] = some (.error .beyondClock) ↔
      ∃ r text seconds, reply.outcome = .ok r ∧ r.Issues text seconds ∧
        Instant.horizon ≤ reply.time + lifespan options seconds) ∧
    (∀ token, (requestToken appliance options grant).result? [reply] = some (.ok token) ↔
      ∃ r text seconds, reply.outcome = .ok r ∧ r.Issues text seconds ∧
        token = ⟨text, reply.time + lifespan options seconds⟩ ∧
        token.expiry < Instant.horizon) ∧
    ((∃ f, (requestToken appliance options grant).result? [reply] = some (.error (.fault f))) ↔
      ∀ r text seconds, reply.outcome = .ok r → ¬r.Issues text seconds) := by
  have hresult : (requestToken appliance options grant).result? [reply] =
      some (tokenOf options reply) := rfl
  rw [hresult]
  by_cases hissues : ∃ r text seconds, reply.outcome = .ok r ∧ r.Issues text seconds
  · obtain ⟨r, text, seconds, hr, h⟩ := hissues
    have honly : ∀ r' text' seconds', reply.outcome = .ok r' → r'.Issues text' seconds' →
        text' = text ∧ seconds' = seconds := by
      intro r' text' seconds' hr' h'
      cases hr.symm.trans hr'
      exact h.unique h'
    rw [tokenOf_of_issues options hr h]
    by_cases hlt : reply.time + lifespan options seconds < Instant.horizon
    · rw [if_pos hlt]
      refine ⟨⟨fun hx => (nomatch hx), ?_⟩, fun token => ⟨fun hx => ?_, ?_⟩,
        ⟨fun ⟨f, hx⟩ => (nomatch hx), fun hx => absurd h (hx r text seconds hr)⟩⟩
      · rintro ⟨r', text', seconds', hr', h', hle⟩
        obtain ⟨-, rfl⟩ := honly r' text' seconds' hr' h'
        exact absurd hlt (Nat.not_lt.2 hle)
      · cases hx
        exact ⟨r, text, seconds, hr, h, rfl, hlt⟩
      · rintro ⟨r', text', seconds', hr', h', rfl, -⟩
        obtain ⟨rfl, rfl⟩ := honly r' text' seconds' hr' h'
        rfl
    · rw [if_neg hlt]
      refine ⟨⟨fun _ => ⟨r, text, seconds, hr, h, Nat.not_lt.1 hlt⟩, fun _ => rfl⟩,
        fun token => ⟨fun hx => (nomatch hx), ?_⟩,
        ⟨fun ⟨f, hx⟩ => (nomatch hx), fun hx => absurd h (hx r text seconds hr)⟩⟩
      rintro ⟨r', text', seconds', hr', h', rfl, htold⟩
      obtain ⟨-, rfl⟩ := honly r' text' seconds' hr' h'
      exact absurd htold hlt
  · have hsilent : ∀ r text seconds, reply.outcome = .ok r → ¬r.Issues text seconds :=
      fun r text seconds hr h => hissues ⟨r, text, seconds, hr, h⟩
    obtain ⟨f, hf⟩ := tokenOf_of_silent options hsilent
    rw [hf]
    refine ⟨⟨fun hx => (nomatch hx), ?_⟩, fun token => ⟨fun hx => (nomatch hx), ?_⟩,
      ⟨fun _ => hsilent, fun _ => ⟨f, rfl⟩⟩⟩
    · rintro ⟨r, text, seconds, hr, h, -⟩
      exact absurd h (hsilent r text seconds hr)
    · rintro ⟨r, text, seconds, hr, h, -⟩
      exact absurd h (hsilent r text seconds hr)

/-- The appliance on this machine. -/
def loopback : Address where
  web := ⟨true, Url.User.none, ⟨.ipv6 [0, 0, 0, 0, 0, 0, 0, 1], by decide +kernel⟩, none, [[]]⟩
  admissible := rfl

/-- An answer that states the longest lifetime there is. -/
def endless : Reply where
  time := 0
  outcome := .ok ⟨200,
    Octets.ofText "\x7b\"access_token\":\"t\",\"expires_in\":18446744073709551615\x7d"⟩

/-- With the options that hold unless others are chosen, the answer with the longest lifetime
breaks an exchange off that starts with the clock. -/
theorem endless_token_breaks_off :
    (requestToken loopback Options.standard (.certificate Scope.certificateId)).result? [endless] =
      some (.error .beyondClock) := by
  refine (token_exchange_breaks_off_iff loopback Options.standard _ endless).1.2
    ⟨_, "t", some 18446744073709551615, rfl, ⟨rfl, ?_, ?_⟩, ?_⟩
  · decide +kernel
  · decide
  · decide

end TokenService

end Appliance

import Appliance.Proofs.Json.Record
import Appliance.Proofs.TokenService.Lifetime

/-!
# What an answer of the token service comes to

A final answer has a status and a body. A status of success and a body that issues a token give
that token; a status of success with any other body is a malformed response; and every other
status is a rejection, whatever the body says. The body of a rejection may give it a code and a
wording, but neither decides whether the exchange is worth another attempt: that is a matter of
the status alone.

* `IssuedBody.Reads`, `RefusalBody.Reads` — what a text says as a token response or a refusal.
* `IssuedBody.ofText?_eq_some_iff`, `RefusalBody.ofText?_eq_some_iff` — the readers read that.
* `tokenOf_of_misstated`, `tokenOf_of_refused` — answers without a token.
* `refusal_eq_iff` — what a rejection tells.
* `token_answer_is_classified` — **status and body decide what an exchange comes to, and the
  status alone whether a fault passes.**
-/

namespace Appliance

namespace TokenService

open Appliance.Json

/-! ## What a body says -/

/-- A text is JSON that states an access token and a lifetime in seconds of 64 bits, each of
which may be missing or null. -/
def IssuedBody.Reads (s : String) (b : IssuedBody) : Prop :=
  ∃ t token lifetime, Tree.ofText? s = some t ∧
    Record.fields? [["access_token"], ["expires_in"]] t = some [token, lifetime] ∧
    Record.Says Tree.text? token b.accessToken ∧
    Record.Says (Tree.natBelow? 0x10000000000000000) lifetime b.expiresIn

theorem IssuedBody.ofText?_eq_some_iff {s : String} {b : IssuedBody} :
    ofText? s = some b ↔ Reads s b := by
  constructor
  · intro h
    obtain ⟨t, ht, h⟩ := Option.bind_eq_some_iff.1 h
    simp only [ofTree?, Option.bind_eq_bind] at h
    obtain ⟨given, hgiven, h⟩ := Option.bind_eq_some_iff.1 h
    split at h
    · obtain ⟨token, htoken, h⟩ := Option.bind_eq_some_iff.1 h
      obtain ⟨lifetime, hlifetime, h⟩ := Option.bind_eq_some_iff.1 h
      cases h
      exact ⟨t, _, _, ht, hgiven, Record.optional?_eq_some_iff.1 htoken,
        Record.optional?_eq_some_iff.1 hlifetime⟩
    · cases h
  · rintro ⟨t, token, lifetime, ht, hgiven, htoken, hlifetime⟩
    simp [ofText?, ht, ofTree?, hgiven, Record.optional?_eq_some_iff.2 htoken,
      Record.optional?_eq_some_iff.2 hlifetime]

/-- A text is JSON that states a code of 64 bits, a message, an error and its description, each
of which may be missing or null; code and message go by two names. -/
def RefusalBody.Reads (s : String) (b : RefusalBody) : Prop :=
  ∃ t code message error description, Tree.ofText? s = some t ∧
    Record.fields? [["code", "Code"], ["message", "Message"], ["error"], ["error_description"]] t =
      some [code, message, error, description] ∧
    Record.Says Tree.int64? code b.code ∧ Record.Says Tree.text? message b.message ∧
    Record.Says Tree.text? error b.error ∧ Record.Says Tree.text? description b.description

theorem RefusalBody.ofText?_eq_some_iff {s : String} {b : RefusalBody} :
    ofText? s = some b ↔ Reads s b := by
  constructor
  · intro h
    obtain ⟨t, ht, h⟩ := Option.bind_eq_some_iff.1 h
    simp only [ofTree?, Option.bind_eq_bind] at h
    obtain ⟨given, hgiven, h⟩ := Option.bind_eq_some_iff.1 h
    split at h
    · obtain ⟨code, hcode, h⟩ := Option.bind_eq_some_iff.1 h
      obtain ⟨message, hmessage, h⟩ := Option.bind_eq_some_iff.1 h
      obtain ⟨error, herror, h⟩ := Option.bind_eq_some_iff.1 h
      obtain ⟨description, hdescription, h⟩ := Option.bind_eq_some_iff.1 h
      cases h
      exact ⟨t, _, _, _, _, ht, hgiven, Record.optional?_eq_some_iff.1 hcode,
        Record.optional?_eq_some_iff.1 hmessage, Record.optional?_eq_some_iff.1 herror,
        Record.optional?_eq_some_iff.1 hdescription⟩
    · cases h
  · rintro ⟨t, code, message, error, description, ht, hgiven, hcode, hmessage, herror, hdesc⟩
    simp [ofText?, ht, ofTree?, hgiven, Record.optional?_eq_some_iff.2 hcode,
      Record.optional?_eq_some_iff.2 hmessage, Record.optional?_eq_some_iff.2 herror,
      Record.optional?_eq_some_iff.2 hdesc]

/-- The wording is the message, or else the description, or else the error. -/
theorem RefusalBody.wording_eq_findSome? (b : RefusalBody) :
    b.wording = [b.message, b.description, b.error].findSome? id := by
  obtain ⟨code, message, error, description⟩ := b
  cases message <;> cases description <;> cases error <;> rfl

/-! ## One answer -/

/-- The text of an answer's body. -/
def Response.text (r : Response) : String := Text.Utf8.lossy r.body

/-- The status of an answer is one of success. -/
def Response.Succeeds (r : Response) : Prop := 200 ≤ r.status ∧ r.status < 300

/-- The body of an answer states a token that is not empty, and its lifetime if that is given. -/
def Response.States (r : Response) (text : String) (seconds : Option Nat) : Prop :=
  text ≠ "" ∧ IssuedBody.Reads r.text ⟨some text, seconds⟩

variable {r : Response} {text : String} {seconds : Option Nat}

theorem Response.succeeds_iff : r.Succeeds ↔ isSuccess r.status = true := by
  simp [Succeeds, isSuccess]

/-- An answer issues a token if its status and its body do. -/
theorem Response.issues_iff : r.Issues text seconds ↔ r.Succeeds ∧ r.States text seconds :=
  ⟨fun h => ⟨succeeds_iff.2 h.success, h.nonempty, IssuedBody.ofText?_eq_some_iff.1 h.body⟩,
    fun ⟨hs, hne, hb⟩ => ⟨succeeds_iff.1 hs, IssuedBody.ofText?_eq_some_iff.2 hb, hne⟩⟩

/-- The body of an answer of success is passed on. -/
theorem bodyOf_of_succeeds {reply : Reply} (hr : reply.outcome = .ok r) (hs : r.Succeeds) :
    bodyOf reply = .ok r.text := by
  simp [bodyOf, hr, accept, Response.succeeds_iff.1 hs, Response.text]

/-- An answer of any other status is a refusal. -/
theorem bodyOf_of_refused {reply : Reply} (hr : reply.outcome = .ok r) (hs : ¬ r.Succeeds) :
    bodyOf reply = .error (refusal r.status r.text) := by
  have hstatus : isSuccess r.status = false := by simpa [Response.succeeds_iff] using hs
  simp [bodyOf, hr, accept, hstatus, Response.text]

/-- A body of success that states no token is malformed. -/
theorem issued_of_misstated (lifetime : Duration)
    (h : ∀ text seconds, ¬ r.States text seconds) :
    ∃ detail, issued lifetime r.text = .error (malformed detail) := by
  unfold issued
  split
  · exact ⟨_, rfl⟩
  · next b hb =>
    obtain ⟨_ | text, seconds⟩ := b
    · exact ⟨_, rfl⟩
    · have hempty : text = "" := Decidable.byContradiction fun hne =>
        h text seconds ⟨hne, IssuedBody.ofText?_eq_some_iff.1 hb⟩
      exact ⟨_, if_pos hempty⟩

/-- An answer of success whose body states no token ends in a malformed response. -/
theorem tokenOf_of_misstated (options : Options) (now : Instant) (hs : r.Succeeds)
    (h : ∀ text seconds, ¬ r.States text seconds) :
    ∃ detail, tokenOf options ⟨now, .ok r⟩ = .error (.fault (malformed detail)) := by
  obtain ⟨detail, hdetail⟩ := issued_of_misstated options.defaultLifetime h
  have hissued : (bodyOf ⟨now, .ok r⟩).bind (issued options.defaultLifetime) =
      .error (malformed detail) := by
    rw [bodyOf_of_succeeds rfl hs]
    exact hdetail
  exact ⟨detail, by simp only [tokenOf, hissued]⟩

/-- An answer of any other status ends in its refusal. -/
theorem tokenOf_of_refused (options : Options) (now : Instant) (hs : ¬ r.Succeeds) :
    tokenOf options ⟨now, .ok r⟩ = .error (.fault (refusal r.status r.text)) := by
  rw [tokenOf, bodyOf_of_refused rfl hs]
  rfl

/-- **What a rejection tells**: the status in any case, and the code and the wording of the body
if that reads as a refusal. -/
theorem refusal_eq_iff {status status' : Nat} {s : String} {code : Option Int}
    {detail : Option String} : refusal status s = .auth (.rejected status' code detail) ↔
      status' = status ∧
      ((∃ b, RefusalBody.Reads s b ∧ code = b.code ∧
          detail = [b.message, b.description, b.error].findSome? id) ∨
        (∀ b, ¬ RefusalBody.Reads s b) ∧ code = none ∧ detail = none) := by
  simp only [refusal, ← RefusalBody.ofText?_eq_some_iff, ← RefusalBody.wording_eq_findSome?]
  cases RefusalBody.ofText? s with
  | none => simp [RefusalBody.silent, RefusalBody.wording, eq_comm]
  | some b => simp [eq_comm]

/-- A rejection passes if its status does. -/
theorem isTransient_refusal (status : Nat) (s : String) :
    (refusal status s).isTransient = true ↔ status = 408 ∨ status = 429 ∨ 500 ≤ status := by
  simp [refusal, Fault.isTransient, Fault.statusPasses, or_assoc]

/-! ## Every answer -/

/-- **What a final answer comes to.**  Let the expiry of the token be one that the clock can tell,
if the answer issues one. The exchange gives a token exactly if the status is one of success and
the body states a token that is not empty, and it is that token, living from the answer on for the
seconds that the body states or for the default lifetime. It ends in a malformed response exactly
if the status is one of success and the body states no such token. It ends in a rejection exactly
if the status is another one; the rejection carries the status, and the code and the wording of
the body if that reads as a refusal and nothing otherwise. There is no other end, and a fault
passes exactly if the status is one of success, 408, 429 or at least 500. -/
theorem token_answer_is_classified (appliance : Address) (options : Options) (grant : Grant)
    (now : Instant) (r : Response)
    (htold : ∀ text seconds, r.Issues text seconds →
      now + lifespan options seconds < Instant.horizon) :
    let result := (requestToken appliance options grant).result? [⟨now, .ok r⟩]
    (∀ token, result = some (.ok token) ↔ r.Succeeds ∧ ∃ seconds, r.States token.text seconds ∧
      token.expiry = now + lifespan options seconds) ∧
    ((∃ detail, result = some (.error (.fault (.protocol (.malformedResponse detail))))) ↔
      r.Succeeds ∧ ∀ text seconds, ¬ r.States text seconds) ∧
    (∀ status code detail,
      result = some (.error (.fault (.auth (.rejected status code detail)))) ↔
        ¬ r.Succeeds ∧ status = r.status ∧
        ((∃ b, RefusalBody.Reads r.text b ∧ code = b.code ∧
            detail = [b.message, b.description, b.error].findSome? id) ∨
          (∀ b, ¬ RefusalBody.Reads r.text b) ∧ code = none ∧ detail = none)) ∧
    (∀ failure, result = some (.error failure) → ∃ f, failure = .fault f ∧
      ((∃ detail, f = .protocol (.malformedResponse detail)) ∨
        ∃ status code detail, f = .auth (.rejected status code detail)) ∧
      (f.isTransient = true ↔
        r.Succeeds ∨ r.status = 408 ∨ r.status = 429 ∨ 500 ≤ r.status)) := by
  intro result
  by_cases hs : r.Succeeds
  · by_cases hstates : ∃ text seconds, r.States text seconds
    case pos =>
      obtain ⟨text, seconds, h⟩ := hstates
      have hissues := Response.issues_iff.2 ⟨hs, h⟩
      have hresult : result = some (.ok ⟨text, now + lifespan options seconds⟩) := by
        refine congrArg some ?_
        rw [tokenOf_of_issues options rfl hissues, if_pos (htold text seconds hissues)]
      rw [hresult]
      refine ⟨fun token => ⟨?_, ?_⟩, iff_of_false (by simp) fun hno => hno.2 text seconds h,
        fun status code detail => iff_of_false (by simp) fun hno => hno.1 hs, by simp⟩
      · rintro ⟨⟩
        exact ⟨hs, seconds, h, rfl⟩
      · rintro ⟨-, seconds', h', hexpiry⟩
        obtain ⟨htext, rfl⟩ := hissues.unique (Response.issues_iff.2 ⟨hs, h'⟩)
        rw [← htext, ← hexpiry]
    case neg =>
      have hnone : ∀ text seconds, ¬ r.States text seconds :=
        fun text seconds h => hstates ⟨text, seconds, h⟩
      obtain ⟨detail, hdetail⟩ := tokenOf_of_misstated options now hs hnone
      have hresult : result = some (.error (.fault (malformed detail))) := congrArg some hdetail
      rw [hresult]
      refine ⟨fun token => iff_of_false (by simp) ?_, iff_of_true ⟨detail, rfl⟩ ⟨hs, hnone⟩,
        fun status code detail => iff_of_false (by simp [malformed]) fun hno => hno.1 hs, ?_⟩
      · rintro ⟨-, seconds, h, -⟩
        exact hnone _ _ h
      · rintro failure ⟨⟩
        exact ⟨_, rfl, .inl ⟨detail, rfl⟩, iff_of_true rfl (.inl hs)⟩
  · have hresult : result = some (.error (.fault (refusal r.status r.text))) :=
      congrArg some (tokenOf_of_refused options now hs)
    rw [hresult]
    refine ⟨fun token => iff_of_false (by simp) fun h => hs h.1,
      iff_of_false (by simp [refusal]) fun h => hs h.1, fun status code detail => ?_, ?_⟩
    · rw [and_iff_right hs, ← refusal_eq_iff]
      simp
    · rintro failure ⟨⟩
      refine ⟨_, rfl, .inr ⟨_, _, _, rfl⟩, ?_⟩
      rw [isTransient_refusal]
      exact (or_iff_right hs).symm

/-- A body that states a lifetime of null gives a token that lives for the default lifetime. -/
theorem token_without_lifetime_is_given :
    let r : Response := ⟨200, Octets.ofText "\x7b\"expires_in\":null,\"access_token\":\"t\"\x7d"⟩
    (∀ text seconds, r.Issues text seconds →
      0 + lifespan Options.standard seconds < Instant.horizon) ∧
    (requestToken loopback Options.standard (.certificate Scope.certificateId)).result?
      [⟨0, .ok r⟩] = some (.ok ⟨"t", 3600 * Duration.nanosPerSecond⟩) := by
  intro r
  have hs : r.Succeeds := Response.succeeds_iff.2 rfl
  have hstates : r.States "t" none :=
    ⟨by decide, IssuedBody.ofText?_eq_some_iff.1 (by decide +kernel)⟩
  have htold : ∀ text seconds, r.Issues text seconds →
      0 + lifespan Options.standard seconds < Instant.horizon := by
    intro text seconds h
    obtain ⟨-, rfl⟩ := (Response.issues_iff.2 ⟨hs, hstates⟩).unique h
    decide
  exact ⟨htold, (token_answer_is_classified loopback Options.standard _ 0 r htold).1 _ |>.2
    ⟨hs, none, hstates, rfl⟩⟩

end TokenService

end Appliance

import Appliance.Hub.Opening

/-!
# How an opening fails

Whatever the server and the hub do, an opening that fails may be tried again; and a new
token is needed first exactly when the server has refused the old one in time.

* `Opening.answer?` — the server's answer, if it comes in time.
* `isTransient_of_greet` — a hub that answers the handshake in no good way may do better.
* `isTransient_of_failed`, `tokenRefused_iff` — **an opening fails only by faults that may
  pass, and by one that asks for a new token exactly after an answer that refuses the old
  one.**
-/

namespace Appliance.Hub

theorem isTransient_of_greet {r : Except WebSocket.Flaw WebSocket.Message} {f : Fault}
    (h : greet r = .failed f) : f.isTransient = true ∧ f.isTokenRefused = false := by
  unfold greet at h
  split at h
  · cases h
    exact ⟨rfl, rfl⟩
  · split at h
    · simp at h
    · split at h
      · simp at h
      · cases h
        exact ⟨rfl, rfl⟩
  · cases h
    exact ⟨rfl, rfl⟩
  · simp at h

/-- An answer asks for a new token exactly if its status refuses the old one. -/
theorem isTokenRefused_of_upgradeFault? {a : WebSocket.Answer} {f : Fault}
    (h : upgradeFault? a = some f) :
    f.isTokenRefused = true ↔ a = .refused 401 ∨ a = .refused 403 := by
  cases a with
  | refused status =>
    simp only [upgradeFault?] at h
    split at h
    · rename_i hstatus
      cases h
      simpa [Fault.isTokenRefused] using hstatus
    · rename_i hstatus
      cases h
      simpa [Fault.isTokenRefused] using hstatus
  | upgraded => simp [upgradeFault?] at h
  | _ =>
    cases h
    simp [Fault.isTokenRefused]

namespace Opening

variable {options : Listener.Options}

/-- The server's answer to the request for a websocket, if it comes before the connection
fails and before the handshake timeout is over. -/
def answer? : List Input → Option WebSocket.Answer
  | .answered a :: _ => some a
  | .received _ :: rest => answer? rest
  | _ => none

@[simp] theorem run_nil (o : Opening) : o.run options [] = o := rfl

@[simp] theorem run_cons (o : Opening) (i : Input) (rest : List Input) :
    o.run options (i :: rest) = (o.step options i).run options rest := rfl

/-- An opening that has failed stays failed. -/
@[simp] theorem run_failed (f : Fault) (inputs : List Input) :
    run options (.failed f) inputs = .failed f := by
  induction inputs with
  | nil => rfl
  | cons i rest ih => rw [run_cons, step, ih] <;> simp

@[simp] theorem run_opened (pending : List String) (inputs : List Input) :
    run options (.opened pending) inputs = .opened pending := by
  induction inputs with
  | nil => rfl
  | cons i rest ih => rw [run_cons, step, ih] <;> simp

/-- Once the websocket is open, an opening fails only by faults that may pass, and none of
them asks for a new token. -/
theorem failed_of_greeting {inputs : List Input} {f : Fault}
    (h : run options .greeting inputs = .failed f) :
    f.isTransient = true ∧ f.isTokenRefused = false := by
  induction inputs with
  | nil => simp at h
  | cons i rest ih =>
    rw [run_cons] at h
    cases i with
    | answered a => exact ih h
    | received r =>
      simp only [step] at h
      split at h
      · exact ih h
      · simp at h
      · rename_i f' hgreet
        rw [run_failed] at h
        cases h
        exact isTransient_of_greet hgreet
    | broke f' =>
      simp only [step, run_failed] at h
      cases h
      exact ⟨rfl, rfl⟩
    | late =>
      simp only [step, run_failed] at h
      cases h
      exact ⟨rfl, rfl⟩

/-- **An opening fails only by faults that may pass**, and by one that asks for a new token
exactly after an answer that refuses the old one. -/
theorem failed_of_upgrading {inputs : List Input} {f : Fault}
    (h : run options .upgrading inputs = .failed f) :
    f.isTransient = true ∧ (f.isTokenRefused = true ↔
      answer? inputs = some (.refused 401) ∨ answer? inputs = some (.refused 403)) := by
  induction inputs with
  | nil => simp at h
  | cons i rest ih =>
    rw [run_cons] at h
    cases i with
    | answered a =>
      simp only [step] at h
      split at h
      · rename_i f' hf'
        rw [run_failed] at h
        cases h
        refine ⟨isTransient_of_upgradeFault? hf', ?_⟩
        rw [isTokenRefused_of_upgradeFault? hf']
        simp [answer?]
      · rename_i hnone
        obtain ⟨ht, hr⟩ := failed_of_greeting h
        have hup : a = .upgraded := by
          cases a with
          | upgraded => rfl
          | refused status =>
            simp only [upgradeFault?] at hnone
            split at hnone <;> simp at hnone
          | _ => simp [upgradeFault?] at hnone
        exact ⟨ht, by simp [hr, hup, answer?]⟩
    | received r => exact ih h
    | broke f' =>
      simp only [step, run_failed] at h
      cases h
      exact ⟨rfl, by simp [Fault.isTokenRefused, answer?]⟩
    | late =>
      simp only [step, run_failed] at h
      cases h
      exact ⟨rfl, by simp [openingTimeout, Fault.isTokenRefused, answer?]⟩

/-- An answer in time that refuses the token ends the opening. -/
theorem run_upgrading_of_refused {inputs : List Input} {status : Nat}
    (h : answer? inputs = some (.refused status)) (hs : status = 401 ∨ status = 403) :
    run options .upgrading inputs = .failed (.auth (.tokenRefused status)) := by
  induction inputs with
  | nil => simp [answer?] at h
  | cons i rest ih =>
    rw [run_cons]
    cases i with
    | answered a =>
      simp only [answer?, Option.some.injEq] at h
      simp [step, h, upgradeFault?, hs]
    | received r => exact ih h
    | broke f => simp [answer?] at h
    | late => simp [answer?] at h

/-- Every fault of an opening may pass by itself. -/
theorem isTransient_of_failed {token : String} {inputs : List Input} {f : Fault}
    (h : run options (begin token) inputs = .failed f) : f.isTransient = true := by
  unfold begin at h
  split at h
  · exact (failed_of_upgrading h).1
  · rename_i f' hb
    rw [run_failed] at h
    cases h
    unfold bearer at hb
    split at hb
    · simp at hb
    · cases hb
      rfl

/-- **An opening asks for a new token exactly when the old one was presented, and the server
has refused it in time.** -/
theorem tokenRefused_iff {token : String} {inputs : List Input} :
    (∃ f, run options (begin token) inputs = .failed f ∧ f.isTokenRefused = true) ↔
      (∃ header, bearer token = .ok header) ∧
        (answer? inputs = some (.refused 401) ∨ answer? inputs = some (.refused 403)) := by
  unfold begin
  cases hb : bearer token with
  | ok header =>
    constructor
    · rintro ⟨f, hf, hr⟩
      exact ⟨⟨header, rfl⟩, (failed_of_upgrading hf).2.1 hr⟩
    · rintro ⟨-, h | h⟩
      · exact ⟨_, run_upgrading_of_refused h (Or.inl rfl), rfl⟩
      · exact ⟨_, run_upgrading_of_refused h (Or.inr rfl), rfl⟩
  | error f =>
    have hf : f.isTokenRefused = false := by
      unfold bearer at hb
      split at hb
      · simp at hb
      · cases hb
        rfl
    simp [hf]

end Opening

end Appliance.Hub

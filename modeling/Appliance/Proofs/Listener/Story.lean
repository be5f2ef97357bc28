import Appliance.Listener.Course

/-!
# What scripts lead one to expect

A story is put together from the signs of verdicts, so each of its signs stands among those
of one verdict, and what came before says how many retries the outage has had so far.

* `foldl_count_zero` — a listener, which counts up to a largest number, counts the retries
  that its signs show.
* `split_story`      — a sign that no attempt begins with stands among those of a verdict.
* `schedule_story`   — **the retries of a story keep to the schedule.**
* `count_story`      — what a story shows, counted.
* `story_ends`       — nothing is shown after the end.
-/

namespace Appliance.Listener

/-! ## The signs of a verdict -/

namespace Verdict

theorem retries_iff {v : Verdict} : v.retries = true ↔ v ≠ .connected ∧ v.isFinal = false := by
  simp [retries]

/-- What a verdict leads to: a channel, the end, or a retry. -/
theorem kinds (v : Verdict) :
    v = .connected ∨ (v ≠ .connected ∧ v.isFinal = true) ∨ v.retries = true := by
  by_cases hne : v = .connected
  · exact .inl hne
  · cases hf : v.isFinal with
    | true => exact .inr (.inl ⟨hne, rfl⟩)
    | false => exact .inr (.inr (retries_iff.mpr ⟨hne, hf⟩))

variable (b : Backoff) (before : Nat)

@[simp] theorem signs_connected : Verdict.connected.signs b before = [.shows .connected] := rfl

@[simp] theorem count_connected : Verdict.connected.count before = 0 := rfl

theorem signs_of_isFinal {v : Verdict} (hne : v ≠ .connected) (hf : v.isFinal = true) :
    v.signs b before = [.shows .permanentlyFailed] := by
  simp [Verdict.signs, hne, hf]

theorem count_of_isFinal {v : Verdict} (hne : v ≠ .connected) (hf : v.isFinal = true) :
    v.count before = before := by
  simp [Verdict.count, hne, hf]

theorem signs_of_retries {v : Verdict} (h : v.retries = true) :
    v.signs b before =
      .shows .retryScheduled :: .waits (b.delay (Backoff.nextAttempt before)) :: attempting := by
  obtain ⟨hne, hf⟩ := retries_iff.mp h
  simp [Verdict.signs, hne, hf]

theorem count_of_retries {v : Verdict} (h : v.retries = true) :
    v.count before = Backoff.nextAttempt before := by
  obtain ⟨hne, hf⟩ := retries_iff.mp h
  simp [Verdict.count, hne, hf]

/-- Where the signs of a verdict show a retry, they begin with it. -/
theorem signs_eq_retryScheduled {v : Verdict} {pre post : List Sign}
    (h : v.signs b before = pre ++ .shows .retryScheduled :: post) :
    pre = [] ∧ post = .waits (b.delay (Backoff.nextAttempt before)) :: attempting := by
  rcases v.kinds with rfl | ⟨hne, hf⟩ | hr
  · simp [List.singleton_eq_append_iff] at h
  · simp [signs_of_isFinal b before hne hf, List.singleton_eq_append_iff] at h
  · rw [signs_of_retries b before hr] at h
    cases pre with
    | nil => simpa using h.symm
    | cons s pre => simp [attempting, List.cons_eq_append_iff] at h

/-- Where the signs of a verdict hold a wait, it comes after the retry. -/
theorem signs_eq_waits {v : Verdict} {pre post : List Sign} {d : Duration}
    (h : v.signs b before = pre ++ .waits d :: post) :
    pre = [.shows .retryScheduled] ∧ d = b.delay (Backoff.nextAttempt before) ∧
      post = attempting := by
  rcases v.kinds with rfl | ⟨hne, hf⟩ | hr
  · simp [List.singleton_eq_append_iff] at h
  · simp [signs_of_isFinal b before hne hf, List.singleton_eq_append_iff] at h
  · rw [signs_of_retries b before hr] at h
    match pre with
    | [] => simp at h
    | [s] => simpa [eq_comm] using h
    | s :: s' :: pre => simp [attempting, List.cons_eq_append_iff] at h

end Verdict

/-! ## Counting retries -/

@[simp] theorem tally_shows_connected (t : Nat) : Sign.tally t (.shows .connected) = 0 := rfl

@[simp] theorem tally_shows_retryScheduled (t : Nat) :
    Sign.tally t (.shows .retryScheduled) = t + 1 := rfl

/-- Only a channel that is opened makes the count smaller. -/
theorem le_foldl_tally {signs : List Sign} (h : .shows .connected ∉ signs) (t : Nat) :
    t ≤ signs.foldl Sign.tally t := by
  induction signs generalizing t with
  | nil => exact Nat.le_refl t
  | cons sign rest ih =>
    obtain ⟨hne, hrest⟩ : Sign.shows .connected ≠ sign ∧ .shows .connected ∉ rest := by
      simpa using h
    have hsign : t ≤ Sign.tally t sign := by
      unfold Sign.tally
      split
      · exact absurd rfl hne
      · exact Nat.le_succ t
      · exact Nat.le_refl t
    exact Nat.le_trans hsign (ih hrest _)

/-- Without retries a count that begins at none stays there. -/
theorem foldl_tally_zero {signs : List Sign} (h : .shows .retryScheduled ∉ signs) :
    signs.foldl Sign.tally 0 = 0 := by
  induction signs with
  | nil => rfl
  | cons sign rest ih =>
    obtain ⟨hne, hrest⟩ : Sign.shows .retryScheduled ≠ sign ∧ .shows .retryScheduled ∉ rest := by
      simpa using h
    have hsign : Sign.tally 0 sign = 0 := by
      unfold Sign.tally
      split
      · rfl
      · exact absurd rfl hne
      · rfl
    rw [List.foldl_cons, hsign, ih hrest]

@[simp] theorem retriesSince_attempting : retriesSince attempting = 0 := rfl

/-- The counts of a listener stop at the largest one. -/
theorem nextAttempt_min (t : Nat) :
    Backoff.nextAttempt (min t Backoff.attemptLimit) = min (t + 1) Backoff.attemptLimit := by
  unfold Backoff.nextAttempt
  omega

/-- A verdict counts as its signs do. -/
theorem Verdict.count_min (v : Verdict) (b : Backoff) (before t : Nat) :
    v.count (min t Backoff.attemptLimit) =
      min ((v.signs b before).foldl Sign.tally t) Backoff.attemptLimit := by
  rcases v.kinds with rfl | ⟨hne, hf⟩ | hr
  · simp
  · simp [Verdict.count_of_isFinal _ hne hf, Verdict.signs_of_isFinal _ _ hne hf, Sign.tally]
  · rw [Verdict.count_of_retries _ hr, Verdict.signs_of_retries _ _ hr, nextAttempt_min]
    rfl

/-- A script counts as its signs do. -/
theorem foldl_count_min (b : Backoff) (script : List Verdict) (before t : Nat) :
    script.foldl Verdict.count (min t Backoff.attemptLimit) =
      min ((expected b before script).foldl Sign.tally t) Backoff.attemptLimit := by
  induction script generalizing before t with
  | nil => rfl
  | cons v rest ih =>
    rw [expected, List.foldl_cons, List.foldl_append, v.count_min b before, ih]

/-- The number of retries after a script, as a listener counts them. -/
theorem foldl_count_zero (b : Backoff) (script : List Verdict) :
    script.foldl Verdict.count 0 = min (retriesSince (story b script)) Backoff.attemptLimit := by
  have h := foldl_count_min b script 0 0
  rwa [Nat.zero_min] at h

/-! ## Where a sign stands -/

theorem expected_singleton (b : Backoff) (count : Nat) (v : Verdict) :
    expected b count [v] = v.signs b count := by
  simp [expected]

theorem expected_append (b : Backoff) (count : Nat) (script script' : List Verdict) :
    expected b count (script ++ script') =
      expected b count script ++ expected b (script.foldl Verdict.count count) script' := by
  induction script generalizing count with
  | nil => rfl
  | cons v rest ih => simp [expected, ih]

/-- A sign in a story stands among those of the first attempt or of a verdict. -/
theorem split_expected {b : Backoff} {count : Nat} {script : List Verdict}
    {before after : List Sign} {sign : Sign}
    (h : expected b count script = before ++ sign :: after) :
    ∃ earlier v later pre post, script = earlier ++ v :: later ∧
      before = expected b count earlier ++ pre ∧
      v.signs b (earlier.foldl Verdict.count count) = pre ++ sign :: post ∧
      after = post ++ expected b ((earlier ++ [v]).foldl Verdict.count count) later := by
  induction script generalizing count before with
  | nil => simp [expected] at h
  | cons v rest ih =>
    rw [expected, List.append_eq_append_iff] at h
    rcases h with ⟨mid, hbefore, hrest⟩ | ⟨mid, hsigns, hrest⟩
    · -- the sign comes after those of the first verdict
      obtain ⟨earlier, v', later, pre, post, rfl, hmid, hv', hafter⟩ := ih hrest
      refine ⟨v :: earlier, v', later, pre, post, rfl, ?_, hv', hafter⟩
      rw [hbefore, hmid, expected, List.append_assoc]
    · cases mid with
      | nil =>
        have hfirst : expected b (v.count count) rest = [] ++ sign :: after := hrest.symm
        obtain ⟨earlier, v', later, pre, post, rfl, hmid, hv', hafter⟩ := ih hfirst
        refine ⟨v :: earlier, v', later, pre, post, rfl, ?_, hv', hafter⟩
        rw [expected, List.append_assoc, ← hmid, hsigns, List.append_nil, List.append_nil]
      | cons first post =>
        obtain ⟨rfl, hafter⟩ : sign = first ∧ after = post ++ expected b (v.count count) rest := by
          simpa using hrest
        exact ⟨[], v, rest, before, post, rfl, rfl, hsigns, hafter⟩

/-- A sign that no attempt begins with stands among those of a verdict. -/
theorem split_story {b : Backoff} {script : List Verdict} {before after : List Sign} {sign : Sign}
    (hsign : sign ∉ attempting) (h : story b script = before ++ sign :: after) :
    ∃ earlier v later pre post, script = earlier ++ v :: later ∧
      before = story b earlier ++ pre ∧
      v.signs b (earlier.foldl Verdict.count 0) = pre ++ sign :: post ∧
      after = post ++ expected b ((earlier ++ [v]).foldl Verdict.count 0) later := by
  rw [story, List.append_eq_append_iff] at h
  rcases h with ⟨mid, hbefore, hrest⟩ | ⟨mid, hattempting, hrest⟩
  · obtain ⟨earlier, v, later, pre, post, hscript, hmid, hv, hafter⟩ := split_expected hrest
    refine ⟨earlier, v, later, pre, post, hscript, ?_, hv, hafter⟩
    rw [hbefore, hmid, story, List.append_assoc]
  · cases mid with
    | nil =>
      have hfirst : expected b 0 script = [] ++ sign :: after := hrest.symm
      obtain ⟨earlier, v, later, pre, post, hscript, hmid, hv, hafter⟩ := split_expected hfirst
      refine ⟨earlier, v, later, pre, post, hscript, ?_, hv, hafter⟩
      rw [story, List.append_assoc, ← hmid, hattempting, List.append_nil, List.append_nil]
    | cons first mid =>
      obtain ⟨rfl, -⟩ : sign = first ∧ after = mid ++ expected b 0 script := by simpa using hrest
      exact absurd (by simp [hattempting]) hsign

/-- What comes first after the attempts of a script. -/
theorem head?_expected (b : Backoff) (count : Nat) (script : List Verdict) :
    ∀ sign ∈ (expected b count script).head?, sign = .shows .connected ∨
      sign = .shows .retryScheduled ∨ sign = .shows .permanentlyFailed := by
  cases script with
  | nil => simp [expected]
  | cons v rest =>
    intro sign hsign
    rcases v.kinds with rfl | ⟨hne, hf⟩ | hr
    · simp_all [expected]
    · simp_all [expected, Verdict.signs_of_isFinal _ _ hne hf]
    · simp_all [expected, Verdict.signs_of_retries _ _ hr]

/-! ## The schedule -/

section Schedule

variable {b : Backoff} {script : List Verdict}

/-- The retries of a story, with what follows each of them. -/
theorem story_retry {before after : List Sign}
    (h : story b script = before ++ .shows .retryScheduled :: after) :
    ∃ rest, after = .waits (b.delay (min (retriesSince before + 1) Backoff.attemptLimit)) ::
        .shows .connecting :: .attempts :: rest ∧
      ∀ sign ∈ rest.head?, sign = .shows .connected ∨ sign = .shows .retryScheduled ∨
        sign = .shows .permanentlyFailed := by
  obtain ⟨earlier, v, later, pre, post, -, hbefore, hv, hafter⟩ :=
    split_story (by simp [attempting]) h
  obtain ⟨rfl, rfl⟩ := Verdict.signs_eq_retryScheduled b _ hv
  rw [List.append_nil] at hbefore
  refine ⟨expected b ((earlier ++ [v]).foldl Verdict.count 0) later, ?_, head?_expected b _ later⟩
  rw [hafter, foldl_count_zero b, nextAttempt_min, hbefore]
  rfl

/-- The waits of a story, each of which comes after a retry. -/
theorem story_wait {before after : List Sign} {d : Duration}
    (h : story b script = before ++ .waits d :: after) :
    d = b.delay (min (retriesSince before) Backoff.attemptLimit) ∧
      ∃ earlier, before = earlier ++ [.shows .retryScheduled] := by
  obtain ⟨earlier, v, later, pre, post, -, hbefore, hv, -⟩ := split_story (by simp [attempting]) h
  obtain ⟨rfl, rfl, -⟩ := Verdict.signs_eq_waits b _ hv
  refine ⟨?_, story b earlier, hbefore⟩
  have hcount : retriesSince before = retriesSince (story b earlier) + 1 := by
    rw [hbefore, retriesSince, List.foldl_append]
    rfl
  rw [hcount, foldl_count_zero b, nextAttempt_min]

/-- **The retries of a story keep to the schedule.** -/
theorem schedule_story (b : Backoff) (script : List Verdict) : Schedule b (story b script) where
  retry _ _ h := story_retry h
  wait _ _ _ h := (story_wait h).2
  rising before d between d' after h hbetween := by
    have hearlier : story b script = before ++ .waits d :: (between ++ .waits d' :: after) := by
      simpa using h
    have hd := (story_wait hearlier).1
    have hd' := (story_wait h).1
    have hgrows : retriesSince before ≤ retriesSince (before ++ .waits d :: between) := by
      rw [retriesSince, retriesSince, List.foldl_append]
      exact le_foldl_tally (by simpa using hbetween) _
    rw [hd, hd']
    refine b.delay_mono ?_
    omega
  capped initial max hb d h := by
    obtain ⟨before, after, h⟩ := List.append_of_mem h
    rw [(story_wait h).1, hb]
    exact Backoff.delay_le_max initial max _
  restart before between d after h hbetween := by
    obtain ⟨rest, hafter, -⟩ := story_retry h
    have hnone : retriesSince (before ++ .shows .connected :: between) = 0 := by
      rw [retriesSince, List.foldl_append, List.foldl_cons, tally_shows_connected]
      exact foldl_tally_zero hbetween
    rw [hnone] at hafter
    obtain ⟨hd, -⟩ := List.cons.inj hafter
    exact Sign.waits.inj hd

end Schedule

/-! ## How often -/

/-- The signs of a verdict, counted. -/
theorem Verdict.count_signs (v : Verdict) (b : Backoff) (before : Nat) :
    (v.signs b before).count (.shows .connected) = [v].count .connected ∧
      (v.signs b before).count (.shows .permanentlyFailed) = [v].countP Verdict.isFinal ∧
      (v.signs b before).count (.shows .retryScheduled) = [v].countP Verdict.retries ∧
      (v.signs b before).count (.shows .connecting) = [v].countP Verdict.retries ∧
      (v.signs b before).count .attempts = [v].countP Verdict.retries := by
  rcases v.kinds with rfl | ⟨hne, hf⟩ | hr
  · simp [Verdict.isFinal, Verdict.retries]
  · simp [Verdict.signs_of_isFinal _ _ hne hf, hne, hf, Verdict.retries]
  · obtain ⟨hne, hf⟩ := Verdict.retries_iff.mp hr
    simp [Verdict.signs_of_retries _ _ hr, hne, hf, hr, attempting]

/-- The signs that a script leads one to expect, counted. -/
theorem count_expected (b : Backoff) (before : Nat) (script : List Verdict) :
    (expected b before script).count (.shows .connected) = script.count .connected ∧
      (expected b before script).count (.shows .permanentlyFailed) =
        script.countP Verdict.isFinal ∧
      (expected b before script).count (.shows .retryScheduled) =
        script.countP Verdict.retries ∧
      (expected b before script).count (.shows .connecting) = script.countP Verdict.retries ∧
      (expected b before script).count .attempts = script.countP Verdict.retries := by
  induction script generalizing before with
  | nil => simp [expected]
  | cons v rest ih =>
    obtain ⟨hconnected, hfailed, hretry, hconnecting, hattempts⟩ := ih (v.count before)
    obtain ⟨hconnected', hfailed', hretry', hconnecting', hattempts'⟩ := v.count_signs b before
    have hsplit : v :: rest = [v] ++ rest := rfl
    simp only [expected, List.count_append, List.countP_append, *, and_self]

/-- **What a story shows, counted.** Every opened channel is shown once, every retry is shown
once and makes one attempt after the first, and the end is shown if there is one. -/
theorem count_story (b : Backoff) (script : List Verdict) :
    (story b script).count (.shows .connected) = script.count .connected ∧
      (story b script).count (.shows .permanentlyFailed) = script.countP Verdict.isFinal ∧
      (story b script).count (.shows .retryScheduled) = script.countP Verdict.retries ∧
      (story b script).count (.shows .connecting) = script.countP Verdict.retries + 1 ∧
      (story b script).count .attempts = script.countP Verdict.retries + 1 := by
  obtain ⟨hconnected, hfailed, hretry, hconnecting, hattempts⟩ := count_expected b 0 script
  simp [story, attempting, *]

/-! ## The end -/

/-- Nothing comes after a final verdict. -/
theorem isScript_final {holding : Bool} {script earlier later : List Verdict} {v : Verdict}
    (h : isScript holding script = true) (hsplit : script = earlier ++ v :: later)
    (hv : v.isFinal = true) : later = [] := by
  subst hsplit
  induction earlier generalizing holding with
  | nil =>
    cases v with
    | connected => cases hv
    | failed f => cases holding <;> simp_all [isScript, Verdict.isFinal]
    | lost reason => cases holding <;> simp_all [isScript, Verdict.isFinal]
  | cons first earlier ih =>
    cases first with
    | connected => cases holding <;> simp_all [isScript]
    | failed f =>
      cases holding with
      | true => simp [isScript] at h
      | false =>
        by_cases hf : f.isFatal = true
        · simp [isScript, hf] at h
        · exact ih (by simpa [isScript, hf] using h)
    | lost reason =>
      cases holding with
      | false => simp [isScript] at h
      | true =>
        by_cases hr : reason.isPermanent = true
        · simp [isScript, hr] at h
        · exact ih (by simpa [isScript, hr] using h)

/-- **Nothing is shown after the end.** -/
theorem story_ends {b : Backoff} {script : List Verdict} {before after : List Sign}
    (h : isScript false script = true)
    (hsplit : story b script = before ++ .shows .permanentlyFailed :: after) : after = [] := by
  obtain ⟨earlier, v, later, pre, post, hscript, -, hv, hafter⟩ :=
    split_story (by simp [attempting]) hsplit
  rcases v.kinds with rfl | ⟨hne, hf⟩ | hr
  · simp [List.singleton_eq_append_iff] at hv
  · rw [Verdict.signs_of_isFinal _ _ hne hf, List.singleton_eq_append_iff] at hv
    have hpost : post = [] := by simp_all
    rw [hafter, hpost, isScript_final h hscript hf]
    rfl
  · have hmem : Sign.shows .permanentlyFailed ∈ v.signs b (earlier.foldl Verdict.count 0) := by
      simp [hv]
    simp [Verdict.signs_of_retries _ _ hr, attempting] at hmem

end Appliance.Listener

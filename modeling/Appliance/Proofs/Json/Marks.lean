import Appliance.Proofs.Json.Lexer

/-!
# A text comes apart at its marks

Brackets, commas and colons are marks: each is one character of the text, read as it stands.
So where the tokens of a text are cut at a mark, the text is cut at that character, and what
stands before and after it is read on its own.

* `Token.mark?` — the character of a mark.
* `step_mark`, `step_cases` — one step of the automaton meets a mark, or adds none.
* **`tokens?_mark`** — a text is read with a mark in it exactly if it comes apart there.
* `tokens?_eq_nil_iff` — what is read as nothing is blank.
-/

namespace Appliance.Json

/-- The character of a mark. A word, a number and a string are no marks. -/
def Token.mark? : Token → Option Char
  | .openBrace => some '\x7b'
  | .closeBrace => some '\x7d'
  | .openBracket => some '['
  | .closeBracket => some ']'
  | .comma => some ','
  | .colon => some ':'
  | .word _ | .number _ | .text _ => none

namespace Lexer

variable {t : Token} {c : Char} {s s' : State} {mode : Mode}

/-! ## One step -/

/-- The marks are six characters. -/
theorem exists_mark?_iff : (∃ t : Token, t.mark? = some c) ↔
    c ∈ ['\x7b', '\x7d', '[', ']', ',', ':'] := by
  constructor
  · rintro ⟨t, ht⟩
    cases t <;> cases ht <;> decide
  · simp only [List.mem_cons, List.not_mem_nil, or_false]
    rintro (rfl | rfl | rfl | rfl | rfl | rfl)
    exacts [⟨.openBrace, rfl⟩, ⟨.closeBrace, rfl⟩, ⟨.openBracket, rfl⟩, ⟨.closeBracket, rfl⟩,
      ⟨.comma, rfl⟩, ⟨.colon, rfl⟩]

theorem fresh_mark (done : List Token) (h : t.mark? = some c) :
    fresh done c = some ⟨.idle, t :: done⟩ := by
  cases t <;> cases h <;> rfl

/-- A numeral does not go on with a mark. -/
theorem extend?_of_mark? (h : t.mark? = some c) (d : Draft) :
    d.extend? c = none ∧ c.isDigit = false := by
  have hdigit : c.isDigit = false := by cases t <;> cases h <;> rfl
  have hother : c ≠ '0' ∧ c ≠ '.' ∧ c ≠ 'e' ∧ c ≠ 'E' ∧ c ≠ '+' ∧ c ≠ '-' := by
    cases t <;> cases h <;> decide
  obtain ⟨hzero, hpoint, he, hE, hplus, hminus⟩ := hother
  refine ⟨?_, hdigit⟩
  unfold Draft.extend?
  split <;> simp [hdigit, hzero, hpoint, he, hE, hplus, hminus]

/-- Where the text may end, a mark may stand. -/
theorem step_mark {before : List Token} (h : t.mark? = some c) (hs : finish s = some before) :
    step s c = some ⟨.idle, t :: before.reverse⟩ := by
  obtain ⟨mode, done⟩ := s
  cases mode with
  | idle =>
    cases hs
    simpa [step] using fresh_mark done h
  | number d =>
    obtain ⟨hextend, hdigit⟩ := extend?_of_mark? h d
    simp only [finish] at hs
    split at hs
    · next hcomplete =>
      cases hs
      simp [step, hextend, hcomplete, hdigit, fresh_mark _ h]
    · cases hs
  | word w rest => cases hs
  | text rev => cases hs
  | escape rev => cases hs
  | unit rev count value => cases hs

/-- Between tokens, a character is a mark or adds no token at once. -/
theorem fresh_cases {done : List Token} (h : fresh done c = some s') :
    (∃ t, t.mark? = some c ∧ s' = ⟨.idle, t :: done⟩) ∨ s'.done = done := by
  by_cases hmark : ∃ t : Token, t.mark? = some c
  · obtain ⟨t, ht⟩ := hmark
    rw [fresh_mark done ht] at h
    exact .inl ⟨t, ht, (Option.some.inj h).symm⟩
  · right
    rw [exists_mark?_iff] at hmark
    simp only [List.mem_cons, List.not_mem_nil, or_false, not_or] at hmark
    simp only [fresh, hmark, if_false] at h
    repeat' split at h
    case isFalse =>
      obtain ⟨d, -, rfl⟩ := Option.map_eq_some_iff.1 h
      rfl
    all_goals
      cases h
      rfl

/-- **One step meets a mark where the text may end, or adds no mark.** -/
theorem step_cases (h : step s c = some s') :
    (∃ t before, t.mark? = some c ∧ finish s = some before ∧ s' = ⟨.idle, t :: before.reverse⟩) ∨
    ∃ new, s'.done = new ++ s.done ∧ ∀ t ∈ new, t.mark? = none := by
  obtain ⟨mode, done⟩ := s
  cases mode with
  | idle =>
    rcases fresh_cases h with ⟨t, ht, rfl⟩ | hdone
    · exact .inl ⟨t, done.reverse, ht, rfl, by simp⟩
    · exact .inr ⟨[], hdone, by simp⟩
  | word w rest =>
    right
    rcases rest with _ | ⟨x, _ | ⟨y, rest⟩⟩
    · cases h
    · simp only [step] at h
      split at h
      · cases h
        exact ⟨[.word w], rfl, by simp [Token.mark?]⟩
      · cases h
    · simp only [step] at h
      split at h
      · cases h
        exact ⟨[], rfl, by simp⟩
      · cases h
  | number d =>
    simp only [step] at h
    split at h
    · cases h
      exact .inr ⟨[], rfl, by simp⟩
    · split at h
      · next hends =>
        have hcomplete : d.complete = true := (Bool.and_eq_true_iff.1 hends).1
        rcases fresh_cases h with ⟨t, ht, rfl⟩ | hdone
        · exact .inl ⟨t, (.number d.numeral :: done).reverse, ht, by simp [finish, hcomplete],
            by rw [List.reverse_reverse]⟩
        · exact .inr ⟨[.number d.numeral], hdone, by simp [Token.mark?]⟩
      · cases h
  | text rev =>
    right
    simp only [step] at h
    split at h
    · cases h
      exact ⟨[.text rev.reverse], rfl, by simp [Token.mark?]⟩
    · repeat' split at h
      all_goals
        cases h
        try exact ⟨[], rfl, by simp⟩
  | escape rev =>
    right
    simp only [step] at h
    split at h
    · cases h
      exact ⟨[], rfl, by simp⟩
    · obtain ⟨x, -, rfl⟩ := Option.map_eq_some_iff.1 h
      exact ⟨[], rfl, by simp⟩
  | unit rev count value =>
    right
    simp only [step] at h
    repeat' split at h
    all_goals
      cases h
      try exact ⟨[], rfl, by simp⟩

/-! ## A whole text -/

/-- The tokens of the rest of a text, read in the middle of one. -/
def readFrom (mode : Mode) (cs : List Char) : Option (List Token) :=
  (run ⟨mode, []⟩ cs).bind finish

theorem tokens?_eq_readFrom (cs : List Char) : tokens? cs = readFrom .idle cs := rfl

theorem finish_after (base : List Token) (s : State) :
    finish (s.after base) = (finish s).map (base.reverse ++ ·) := by
  obtain ⟨mode, done⟩ := s
  cases mode with
  | idle => simp [finish, State.after]
  | number d =>
    cases hd : d.complete <;> simp [finish, State.after, hd]
  | word w rest => rfl
  | text rev => rfl
  | escape rev => rfl
  | unit rev count value => rfl

/-- What has been read before comes first. -/
theorem bind_finish_run (s : State) (cs : List Char) :
    (run s cs).bind finish = (readFrom s.mode cs).map (s.done.reverse ++ ·) := by
  have hdone := run_done s.done ⟨s.mode, []⟩ cs
  have hstate : State.after s.done ⟨s.mode, []⟩ = s := rfl
  rw [hstate] at hdone
  rw [hdone, readFrom]
  cases run ⟨s.mode, []⟩ cs with
  | none => rfl
  | some s' => exact finish_after s.done s'

theorem readFrom_cons_eq_some {ts : List Token} {cs : List Char} :
    readFrom mode (c :: cs) = some ts ↔ ∃ s rest, step ⟨mode, []⟩ c = some s ∧
      readFrom s.mode cs = some rest ∧ ts = s.done.reverse ++ rest := by
  rw [readFrom, run]
  constructor
  · intro h
    obtain ⟨s', hrun, hfinish⟩ := Option.bind_eq_some_iff.1 h
    obtain ⟨s, hs, hrun⟩ := Option.bind_eq_some_iff.1 hrun
    have hread : (run s cs).bind finish = some ts := by rw [hrun, Option.bind_some, hfinish]
    rw [bind_finish_run] at hread
    obtain ⟨rest, hrest, rfl⟩ := Option.map_eq_some_iff.1 hread
    exact ⟨s, rest, hs, hrest, rfl⟩
  · rintro ⟨s, rest, hs, hrest, rfl⟩
    rw [hs, Option.bind_some, bind_finish_run, hrest, Option.map_some]

/-- Where a list with `x` in it goes on after a part without `x`, that part comes first. -/
theorem exists_of_append_eq {α : Type} {as bs cs ds : List α} {x : α} (hx : x ∉ as)
    (h : cs ++ x :: ds = as ++ bs) : ∃ es, cs = as ++ es ∧ bs = es ++ x :: ds := by
  rcases List.append_eq_append_iff.1 h with ⟨es, has, hrest⟩ | ⟨es, hcs, hrest⟩
  · cases es with
    | nil => exact ⟨[], by simpa using has.symm, by simpa using hrest.symm⟩
    | cons e es =>
      obtain ⟨rfl, -⟩ := List.cons.inj hrest
      exact absurd (has ▸ List.mem_append_right _ (List.mem_cons_self ..)) hx
  · exact ⟨es, hcs, hrest⟩

/-- No mark is left to be read at the end of a text. -/
theorem mark?_of_mem_finish {ts : List Token} (h : finish ⟨mode, []⟩ = some ts) :
    ∀ t ∈ ts, t.mark? = none := by
  cases mode with
  | idle =>
    cases h
    simp
  | number d =>
    simp only [finish] at h
    split at h
    · cases h
      simp [Token.mark?]
    · cases h
  | word w rest => cases h
  | text rev => cases h
  | escape rev => cases h
  | unit rev count value => cases h

theorem notMem_of_mark? (ht : t.mark? = some c) {ts : List Token}
    (h : ∀ u ∈ ts, u.mark? = none) : t ∉ ts := fun hmem => by
  simpa [ht] using h t hmem

/-- What is read with a mark in it comes apart at that mark. -/
theorem readFrom_split {as bs : List Token} (ht : t.mark? = some c) {cs : List Char}
    (h : readFrom mode cs = some (as ++ t :: bs)) :
    ∃ ds es, cs = ds ++ c :: es ∧ readFrom mode ds = some as ∧ tokens? es = some bs := by
  induction cs generalizing mode as with
  | nil => exact absurd (by simp) (notMem_of_mark? ht (mark?_of_mem_finish h))
  | cons x cs ih =>
    obtain ⟨s, rest, hs, hrest, heq⟩ := readFrom_cons_eq_some.1 h
    rcases step_cases hs with ⟨t', before, hx, hbefore, rfl⟩ | ⟨new, hnew, hmarks⟩
    · rw [List.reverse_cons, List.reverse_reverse, List.append_assoc] at heq
      have hnot := notMem_of_mark? ht (mark?_of_mem_finish hbefore)
      obtain ⟨more, rfl, hmore⟩ := exists_of_append_eq hnot heq
      cases more with
      | nil =>
        -- This is the mark.
        obtain ⟨rfl, rfl⟩ := List.cons.inj hmore
        obtain rfl : x = c := Option.some.inj (hx.symm.trans ht)
        exact ⟨[], cs, rfl, by simpa [readFrom, run] using hbefore, hrest⟩
      | cons u more =>
        -- The mark comes later.
        obtain ⟨rfl, hafter⟩ := List.cons.inj hmore
        obtain rfl : rest = more ++ t :: bs := hafter
        obtain ⟨ds, es, rfl, hds, hes⟩ := ih hrest
        exact ⟨x :: ds, es, rfl, readFrom_cons_eq_some.2 ⟨_, more, hs, hds, by simp⟩, hes⟩
    · have hnot : t ∉ s.done.reverse := by simpa [hnew] using notMem_of_mark? ht hmarks
      obtain ⟨more, rfl, rfl⟩ := exists_of_append_eq hnot heq
      obtain ⟨ds, es, rfl, hds, hes⟩ := ih hrest
      exact ⟨x :: ds, es, rfl, readFrom_cons_eq_some.2 ⟨s, more, hs, hds, rfl⟩, hes⟩

/-- What is read before a mark and after it is read together with the mark. -/
theorem readFrom_join {as bs : List Token} (ht : t.mark? = some c) {ds es : List Char}
    (hds : readFrom mode ds = some as) (hes : tokens? es = some bs) :
    readFrom mode (ds ++ c :: es) = some (as ++ t :: bs) := by
  obtain ⟨s, hs, hfinish⟩ := Option.bind_eq_some_iff.1 hds
  rw [tokens?_eq_readFrom] at hes
  rw [readFrom, run_append, hs, Option.bind_some, run, step_mark ht hfinish, Option.bind_some,
    bind_finish_run, hes]
  simp

/-- **A text is read with a mark in it exactly if it comes apart there**, and its two sides are
read on their own. -/
theorem tokens?_mark {as bs : List Token} (ht : t.mark? = some c) {cs : List Char} :
    tokens? cs = some (as ++ t :: bs) ↔
      ∃ ds es, cs = ds ++ c :: es ∧ tokens? ds = some as ∧ tokens? es = some bs := by
  constructor
  · exact fun h => readFrom_split ht h
  · rintro ⟨ds, es, rfl, hds, hes⟩
    exact readFrom_join ht hds hes

/-! ## Blanks -/

/-- Only a blank is passed over without a trace. -/
theorem step_eq_idle (h : step ⟨mode, []⟩ c = some ⟨.idle, []⟩) :
    mode = .idle ∧ isGap c = true := by
  cases mode with
  | idle =>
    refine ⟨rfl, Decidable.byContradiction fun hgap => ?_⟩
    have hmark : ¬ ∃ t : Token, t.mark? = some c := by
      rintro ⟨t, ht⟩
      cases (fresh_mark [] ht).symm.trans h
    rw [exists_mark?_iff] at hmark
    simp only [List.mem_cons, List.not_mem_nil, or_false, not_or] at hmark
    simp only [step, fresh, hgap, hmark, Bool.false_eq_true, if_false] at h
    repeat' split at h
    all_goals simp at h
  | word w rest =>
    rcases rest with _ | ⟨x, _ | ⟨y, rest⟩⟩
    · cases h
    · simp only [step] at h
      split at h <;> simp at h
    · simp only [step] at h
      split at h <;> simp at h
  | number d =>
    simp only [step] at h
    split at h
    · simp at h
    · split at h
      · rcases fresh_cases h with ⟨t, -, hs⟩ | hdone
        · simp at hs
        · simp at hdone
      · cases h
  | text rev =>
    simp only [step] at h
    repeat' split at h
    all_goals simp at h
  | escape rev =>
    simp only [step] at h
    split at h <;> simp at h
  | unit rev count value =>
    simp only [step] at h
    repeat' split at h
    all_goals simp at h

/-- What is read as nothing is blank, and in the middle of nothing. -/
theorem readFrom_eq_nil {cs : List Char} (h : readFrom mode cs = some []) :
    mode = .idle ∧ ∀ c ∈ cs, isGap c = true := by
  induction cs generalizing mode with
  | nil =>
    cases mode with
    | idle => exact ⟨rfl, by simp⟩
    | number d =>
      simp only [readFrom, run, Option.bind_some, finish] at h
      split at h <;> simp at h
    | word w rest => cases h
    | text rev => cases h
    | escape rev => cases h
    | unit rev count value => cases h
  | cons x cs ih =>
    obtain ⟨⟨mode', done⟩, rest, hs, hrest, heq⟩ := readFrom_cons_eq_some.1 h
    obtain ⟨hdone, rfl⟩ := List.append_eq_nil_iff.1 heq.symm
    obtain rfl : done = [] := by simpa using hdone
    obtain ⟨rfl, hcs⟩ := ih hrest
    obtain ⟨rfl, hx⟩ := step_eq_idle hs
    exact ⟨rfl, List.forall_mem_cons.2 ⟨hx, hcs⟩⟩

/-- **A text without tokens is blank.** -/
theorem tokens?_eq_nil_iff {cs : List Char} :
    tokens? cs = some [] ↔ ∀ c ∈ cs, isGap c = true := by
  constructor
  · exact fun h => (readFrom_eq_nil h).2
  · intro h
    induction cs with
    | nil => rfl
    | cons c cs ih =>
      obtain ⟨hc, hcs⟩ := List.forall_mem_cons.1 h
      have hstep : step ⟨.idle, []⟩ c = some ⟨.idle, []⟩ := by simp [step, fresh, hc]
      exact readFrom_cons_eq_some.2 ⟨_, [], hstep, ih hcs, rfl⟩

end Lexer

end Appliance.Json

import Mathlib.Data.List.Induction

/-!
# Histories

A history is a list of what was done or seen, in order of time. This file is about the place
of one thing in it, when one more is added at its end.

* `split_snoc` — a place in a longer history is its end, or a place in the history before.
* `Regular` — each thing may be there after those before it.
* `exists_first_of_not_regular` — in a history that is not regular there is a first thing amiss.
* `Latest` — the latest thing that matters.
* **`latest_snoc`** — one more thing is the latest if it matters.
-/

namespace Appliance

variable {α : Type}

/-- A place in a longer history is its end, or a place in the history before. -/
theorem split_snoc {history before after : List α} {last x : α}
    (h : history ++ [last] = before ++ x :: after) :
    history = before ∧ last = x ∧ after = [] ∨
      ∃ after', after = after' ++ [last] ∧ history = before ++ x :: after' := by
  rcases List.eq_nil_or_concat after with rfl | ⟨after', y, rfl⟩
  · obtain ⟨hbefore, hlast⟩ := List.append_inj' h rfl
    exact .inl ⟨hbefore, List.singleton_inj.1 hlast, rfl⟩
  · have heq : history ++ [last] = (before ++ x :: after') ++ [y] := by simpa using h
    obtain ⟨hbefore, hlast⟩ := List.append_inj' heq rfl
    obtain rfl := List.singleton_inj.1 hlast
    exact .inr ⟨after', List.concat_eq_append, hbefore⟩

/-- `Regular allowed history`: each thing in the history may be there after those before it. -/
def Regular (allowed : List α → α → Prop) (history : List α) : Prop :=
  ∀ before x after, history = before ++ x :: after → allowed before x

section Regular

variable {allowed : List α → α → Prop} {history : List α}

theorem regular_nil : Regular allowed [] := by
  intro before x after h
  simp at h

/-- What comes before is regular by itself. -/
theorem Regular.left {later : List α} (h : Regular allowed (history ++ later)) :
    Regular allowed history := by
  rintro before x after rfl
  exact h before x (after ++ later) (by simp)

/-- One more thing keeps a history regular if it may be there. -/
theorem Regular.snoc (h : Regular allowed history) {last : α} (hlast : allowed history last) :
    Regular allowed (history ++ [last]) := by
  intro before x after hsplit
  rcases split_snoc hsplit with ⟨rfl, rfl, -⟩ | ⟨after', -, hhistory⟩
  · exact hlast
  · exact h before x after' hhistory

/-- What comes later may be there after what came before. -/
theorem Regular.later (h : Regular allowed history) {before after : List α} {x y : α}
    (hsplit : history = before ++ x :: after) (hy : y ∈ after) :
    ∃ before', x ∈ before' ∧ before <+: before' ∧ allowed before' y := by
  obtain ⟨between, rest, rfl⟩ := List.append_of_mem hy
  refine ⟨before ++ x :: between, by simp, List.prefix_append _ _, h _ y rest ?_⟩
  simp [hsplit]

/-- A history that is not regular is regular up to something that may not be there. -/
theorem exists_first_of_not_regular (h : ¬Regular allowed history) :
    ∃ before x after, history = before ++ x :: after ∧ Regular allowed before ∧
      ¬allowed before x := by
  induction history using List.reverseRecOn with
  | nil => exact absurd regular_nil h
  | append_singleton history last ih =>
    by_cases hregular : Regular allowed history
    · refine ⟨history, last, [], rfl, hregular, fun hlast => h (hregular.snoc hlast)⟩
    · obtain ⟨before, x, after, hsplit, hbefore, hx⟩ := ih hregular
      exact ⟨before, x, after ++ [last], by simp [hsplit], hbefore, hx⟩

end Regular

/-- `Latest p past x`: of the past things that matter, `x` is the latest. -/
def Latest (p : α → Prop) (past : List α) (x : α) : Prop :=
  ∃ earlier later, past = earlier ++ x :: later ∧ p x ∧ ∀ y ∈ later, ¬p y

variable {p : α → Prop}

/-- Nothing is the latest where nothing was done. -/
theorem not_latest_nil {x : α} : ¬Latest p [] x := by
  rintro ⟨earlier, later, h, -⟩
  simp at h

/-- **One more thing is the latest if it matters**, and changes nothing if it does not. -/
theorem latest_snoc {past : List α} {last x : α} :
    Latest p (past ++ [last]) x ↔ p last ∧ x = last ∨ ¬p last ∧ Latest p past x := by
  constructor
  · rintro ⟨earlier, later, h, hp, hlater⟩
    rcases split_snoc h with ⟨-, rfl, -⟩ | ⟨later', rfl, hpast⟩
    · exact .inl ⟨hp, rfl⟩
    · have hlast : ¬p last := hlater last (by simp)
      exact .inr ⟨hlast, earlier, later', hpast, hp, fun y hy => hlater y (by simp [hy])⟩
  · rintro (⟨hp, rfl⟩ | ⟨hp, earlier, later, rfl, hp', hlater⟩)
    · exact ⟨past, [], rfl, hp, by simp⟩
    · refine ⟨earlier, later ++ [last], by simp, hp', fun y hy => ?_⟩
      rcases List.mem_append.1 hy with hy | hy
      · exact hlater y hy
      · rw [List.mem_singleton.1 hy]
        exact hp

end Appliance

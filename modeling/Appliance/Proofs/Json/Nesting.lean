import Appliance.Json.Tree
import Mathlib.Tactic.Common

/-!
# Trees are read back from their tokens

The tokens of a tree determine it: what is read from them, whatever comes after, is that
tree, and exactly what comes after is left.

* `Tree.induction`      — induction over a tree, with a hypothesis for each item and member.
* `Tree.tokens`         — the tokens of a tree.
* `Tree.readsBack`      — a tree is read from its tokens, and what comes after is left.
* **`Tree.ofTokens?_tokens`** — the tokens of a tree are the tokens of nothing else.
* **`Tree.ofTokens?_eq_some_iff`** — nothing but its tokens is read as a tree.
-/

namespace Appliance.Json.Tree

/-! ## Induction -/

/-- What holds of words, numbers and strings, and of an array and an object if it holds of
their items and members, holds of every tree. -/
@[elab_as_elim]
theorem induction {motive : Tree → Prop} (word : ∀ w, motive (.word w))
    (number : ∀ n, motive (.number n)) (text : ∀ ps, motive (.text ps))
    (array : ∀ xs, (∀ x ∈ xs, motive x) → motive (.array xs))
    (object : ∀ ms, (∀ m ∈ ms, motive m.2) → motive (.object ms)) (t : Tree) : motive t := by
  refine Tree.rec (motive_1 := motive) (motive_2 := fun xs => ∀ x ∈ xs, motive x)
    (motive_3 := fun ms => ∀ m ∈ ms, motive m.2) (motive_4 := fun m => motive m.2)
    word number text array object ?_ ?_ ?_ ?_ ?_ t
  · intro x hx
    cases hx
  · intro x xs hx hxs
    exact List.forall_mem_cons.2 ⟨hx, hxs⟩
  · intro m hm
    cases hm
  · intro m ms hm hms
    exact List.forall_mem_cons.2 ⟨hm, hms⟩
  · intro key t ht
    exact ht

/-! ## Tokens -/

mutual

/-- The tokens of a tree. -/
def tokens : Tree → List Token
  | .word w => [.word w]
  | .number n => [.number n]
  | .text ps => [.text ps]
  | .array xs => .openBracket :: itemTokens xs ++ [.closeBracket]
  | .object ms => .openBrace :: memberTokens ms ++ [.closeBrace]

/-- The tokens of items, with commas between them. -/
def itemTokens : List Tree → List Token
  | [] => []
  | [x] => tokens x
  | x :: xs => tokens x ++ .comma :: itemTokens xs

/-- The tokens of members, with commas between them. -/
def memberTokens : List (List Piece × Tree) → List Token
  | [] => []
  | [(key, x)] => .text key :: .colon :: tokens x
  | (key, x) :: ms => .text key :: .colon :: tokens x ++ .comma :: memberTokens ms

end

theorem itemTokens_cons (x y : Tree) (xs : List Tree) :
    itemTokens (x :: y :: xs) = x.tokens ++ .comma :: itemTokens (y :: xs) := by
  rw [itemTokens]
  simp

theorem memberTokens_cons (key : List Piece) (x : Tree) (m : List Piece × Tree)
    (ms : List (List Piece × Tree)) : memberTokens ((key, x) :: m :: ms) =
      .text key :: .colon :: x.tokens ++ .comma :: memberTokens (m :: ms) := by
  rw [memberTokens]
  simp

/-- The tokens of a tree do not begin with the end of an array. -/
theorem tokens_head (t : Tree) :
    ∃ first rest, t.tokens = first :: rest ∧ first ≠ .closeBracket := by
  cases t <;> exact ⟨_, _, rfl, by simp⟩

/-! ## Reading -/

/-- The tree `t` is read from its tokens wherever they stand, if there are as many steps. -/
def ReadsBack (t : Tree) : Prop :=
  ∀ fuel rest, t.tokens.length ≤ fuel → value fuel (t.tokens ++ rest) = some (t, rest)

/-- Items that are read back are read back in an array. -/
theorem items_tokens {x : Tree} {xs : List Tree} (h : ∀ y ∈ x :: xs, y.ReadsBack) (fuel : Nat)
    (hfuel : (itemTokens (x :: xs)).length < fuel) (read : List Tree) (rest : List Token) :
    items fuel read (itemTokens (x :: xs) ++ .closeBracket :: rest) =
      some (.array (read.reverse ++ x :: xs), rest) := by
  induction xs generalizing x read fuel with
  | nil =>
    cases fuel with
    | zero => cases hfuel
    | succ fuel =>
      have hx := h x (List.mem_cons_self ..) fuel (.closeBracket :: rest) (Nat.le_of_lt_succ hfuel)
      simp only [items, itemTokens, hx, List.reverse_cons]
  | cons y xs ih =>
    cases fuel with
    | zero => cases hfuel
    | succ fuel =>
      simp only [itemTokens_cons, List.length_append, List.length_cons] at hfuel
      have hx := h x (List.mem_cons_self ..) fuel
        (.comma :: (itemTokens (y :: xs) ++ .closeBracket :: rest)) (by omega)
      have hxs := ih (fun z hz => h z (List.mem_cons_of_mem _ hz)) fuel (by omega)
        (x :: read)
      simp only [items, itemTokens_cons, List.append_assoc, List.cons_append, hx, hxs,
        List.reverse_cons, List.nil_append]

/-- Members that are read back are read back in an object. -/
theorem members_tokens {m : List Piece × Tree} {ms : List (List Piece × Tree)}
    (h : ∀ y ∈ m :: ms, y.2.ReadsBack) (fuel : Nat)
    (hfuel : (memberTokens (m :: ms)).length < fuel) (read : List (List Piece × Tree))
    (rest : List Token) : members fuel read (memberTokens (m :: ms) ++ .closeBrace :: rest) =
      some (.object (read.reverse ++ m :: ms), rest) := by
  induction ms generalizing m read fuel with
  | nil =>
    obtain ⟨key, x⟩ := m
    cases fuel with
    | zero => cases hfuel
    | succ fuel =>
      simp only [memberTokens, List.length_cons] at hfuel
      have hread : x.ReadsBack := h (key, x) (List.mem_cons_self ..)
      have hx := hread fuel (.closeBrace :: rest) (by omega)
      simp only [members, memberTokens, List.cons_append, hx, List.reverse_cons]
  | cons y ms ih =>
    obtain ⟨key, x⟩ := m
    cases fuel with
    | zero => cases hfuel
    | succ fuel =>
      simp only [memberTokens_cons, List.length_append, List.length_cons] at hfuel
      have hread : x.ReadsBack := h (key, x) (List.mem_cons_self ..)
      have hx := hread fuel (.comma :: (memberTokens (y :: ms) ++ .closeBrace :: rest)) (by omega)
      have hms := ih (fun z hz => h z (List.mem_cons_of_mem _ hz)) fuel (by omega)
        ((key, x) :: read)
      simp only [members, memberTokens_cons, List.append_assoc, List.cons_append, hx, hms,
        List.reverse_cons, List.nil_append]

/-- An array with items is read by its items. -/
theorem value_openBracket {first : Token} (hfirst : first ≠ .closeBracket) (fuel : Nat)
    (rest : List Token) :
    value (fuel + 1) (.openBracket :: first :: rest) = items fuel [] (first :: rest) := by
  rw [value]
  intro rest' heq
  exact hfirst (List.cons.inj heq).1

/-- An object with members is read by its members. -/
theorem value_openBrace {first : Token} (hfirst : first ≠ .closeBrace) (fuel : Nat)
    (rest : List Token) :
    value (fuel + 1) (.openBrace :: first :: rest) = members fuel [] (first :: rest) := by
  rw [value]
  intro rest' heq
  exact hfirst (List.cons.inj heq).1

theorem readsBack_array {xs : List Tree} (h : ∀ x ∈ xs, x.ReadsBack) : ReadsBack (.array xs) := by
  intro fuel rest hfuel
  simp only [tokens, List.cons_append, List.length_cons, List.length_append, List.length_nil]
    at hfuel
  obtain ⟨fuel, rfl⟩ : ∃ n, fuel = n + 1 := ⟨fuel - 1, by omega⟩
  simp only [tokens, List.cons_append, List.append_assoc, List.nil_append]
  cases xs with
  | nil => rfl
  | cons x xs =>
    have hitems := items_tokens h fuel (by omega) [] rest
    obtain ⟨first, more, htokens, hfirst⟩ : ∃ first more,
        itemTokens (x :: xs) = first :: more ∧ first ≠ .closeBracket := by
      obtain ⟨first, more, htokens, hfirst⟩ := x.tokens_head
      cases xs with
      | nil => exact ⟨first, more, by rw [itemTokens, htokens], hfirst⟩
      | cons y ys => exact ⟨first, _, by rw [itemTokens_cons, htokens, List.cons_append], hfirst⟩
    rw [htokens, List.cons_append] at hitems ⊢
    rw [value_openBracket hfirst, hitems]
    rfl

theorem readsBack_object {ms : List (List Piece × Tree)} (h : ∀ m ∈ ms, m.2.ReadsBack) :
    ReadsBack (.object ms) := by
  intro fuel rest hfuel
  simp only [tokens, List.cons_append, List.length_cons, List.length_append, List.length_nil]
    at hfuel
  obtain ⟨fuel, rfl⟩ : ∃ n, fuel = n + 1 := ⟨fuel - 1, by omega⟩
  simp only [tokens, List.cons_append, List.append_assoc, List.nil_append]
  cases ms with
  | nil => rfl
  | cons m ms =>
    have hmembers := members_tokens h fuel (by omega) [] rest
    obtain ⟨more, htokens⟩ : ∃ more, memberTokens (m :: ms) = .text m.1 :: more := by
      cases ms with
      | nil => exact ⟨_, rfl⟩
      | cons m' ms => exact ⟨_, memberTokens_cons m.1 m.2 m' ms⟩
    rw [htokens, List.cons_append] at hmembers ⊢
    rw [value_openBrace (by simp), hmembers]
    rfl

/-- **Every tree is read from its tokens**, and what comes after them is left. -/
theorem readsBack (t : Tree) : t.ReadsBack := by
  induction t using induction with
  | array xs ih => exact readsBack_array ih
  | object ms ih => exact readsBack_object ih
  | word w | number n | text ps =>
    intro fuel rest hfuel
    obtain ⟨fuel, rfl⟩ : ∃ n, fuel = n + 1 := ⟨fuel - 1, (Nat.sub_add_cancel hfuel).symm⟩
    rfl

/-- **The tokens of a tree are read as that tree.** -/
theorem ofTokens?_tokens (t : Tree) : ofTokens? t.tokens = some t := by
  have hvalue := t.readsBack (2 * t.tokens.length + 2) [] (by omega)
  rw [List.append_nil] at hvalue
  simp only [ofTokens?, hvalue]

/-! ## Nothing else is read -/

/-- With so many steps, what is read as a tree is the tokens of that tree. -/
def ReadsOnly (fuel : Nat) : Prop :=
  ∀ ts t rest, value fuel ts = some (t, rest) → ts = t.tokens ++ rest

/-- Where nothing but its tokens is read as an item, nothing else is read as items. -/
theorem items_eq_some {fuel : Nat} (h : ∀ n < fuel, ReadsOnly n) {read : List Tree}
    {ts rest : List Token} {t : Tree} (hitems : items fuel read ts = some (t, rest)) :
    ∃ x xs, t = .array (read.reverse ++ x :: xs) ∧
      ts = itemTokens (x :: xs) ++ .closeBracket :: rest := by
  induction fuel generalizing read ts with
  | zero => cases hitems
  | succ fuel ih =>
    rw [items] at hitems
    split at hitems
    · next x more hx =>
      obtain ⟨y, ys, rfl, rfl⟩ := ih (fun n hn => h n (Nat.lt_succ_of_lt hn)) hitems
      refine ⟨x, y :: ys, by simp, ?_⟩
      rw [h fuel (Nat.lt_succ_self fuel) _ _ _ hx, itemTokens_cons]
      simp
    · next x more hx =>
      cases hitems
      refine ⟨x, [], by simp, ?_⟩
      rw [h fuel (Nat.lt_succ_self fuel) _ _ _ hx, itemTokens]
    · cases hitems

/-- Where nothing but its tokens is read as a value, nothing else is read as members. -/
theorem members_eq_some {fuel : Nat} (h : ∀ n < fuel, ReadsOnly n)
    {read : List (List Piece × Tree)} {ts rest : List Token} {t : Tree}
    (hmembers : members fuel read ts = some (t, rest)) :
    ∃ m ms, t = .object (read.reverse ++ m :: ms) ∧
      ts = memberTokens (m :: ms) ++ .closeBrace :: rest := by
  induction fuel generalizing read ts with
  | zero => cases hmembers
  | succ fuel ih =>
    unfold members at hmembers
    split at hmembers
    · cases hmembers
    · next n key tokens hn =>
      cases hn
      split at hmembers
      · next x more hx =>
        obtain ⟨m, ms, rfl, rfl⟩ := ih (fun n hn => h n (Nat.lt_succ_of_lt hn)) hmembers
        refine ⟨(key, x), m :: ms, by simp, ?_⟩
        rw [h fuel (Nat.lt_succ_self fuel) _ _ _ hx, memberTokens_cons]
        simp
      · next x more hx =>
        cases hmembers
        refine ⟨(key, x), [], by simp, ?_⟩
        rw [h fuel (Nat.lt_succ_self fuel) _ _ _ hx, memberTokens]
        simp
      · cases hmembers
    · cases hmembers

/-- **What is read as a tree begins with the tokens of that tree.** -/
theorem readsOnly (fuel : Nat) : ReadsOnly fuel := by
  induction fuel using Nat.strongRecOn with
  | ind fuel ih =>
    intro ts t rest hvalue
    cases fuel with
    | zero => cases hvalue
    | succ fuel =>
      have hless : ∀ n < fuel, ReadsOnly n := fun n hn => ih n (Nat.lt_succ_of_lt hn)
      unfold value at hvalue
      split at hvalue
      case h_6 hn =>
        cases hn
        obtain ⟨x, xs, rfl, rfl⟩ := items_eq_some hless hvalue
        simp [tokens]
      case h_8 hn =>
        cases hn
        obtain ⟨m, ms, rfl, rfl⟩ := members_eq_some hless hvalue
        simp [tokens]
      -- A word, a number, a string or empty brackets.
      all_goals cases hvalue <;> rfl

/-- **Nothing but its tokens is read as a tree.** -/
theorem ofTokens?_eq_some_iff {ts : List Token} {t : Tree} :
    ofTokens? ts = some t ↔ ts = t.tokens := by
  constructor
  · intro h
    rw [ofTokens?] at h
    split at h
    · next t' hvalue =>
      cases h
      simpa using readsOnly _ _ _ _ hvalue
    · cases h
  · rintro rfl
    exact ofTokens?_tokens t

end Appliance.Json.Tree

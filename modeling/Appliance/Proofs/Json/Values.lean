import Appliance.Proofs.Json.Lexer
import Appliance.Proofs.Json.Nesting
import Appliance.Proofs.Subscriptions.Entries
import Appliance.Proofs.Text.Digits

/-!
# Values are read back from their texts

The text of a value is read as the value again. Strings come back by their escapes, objects
because their keys are written in the order in which they are kept, and integers by their
digits. Only for doubles it has to be assumed that the digits written for one are read as that
one: reading takes the digits into a significand of 64 bits and scales it, each step rounded.

* `Value.induction`, `Value.Holds` — induction over a value; the numbers in it.
* `Value.tree`, `Tree.ofText?_text` — the tree of a value's text.
* `Number.readsBack_integer` — integers of 64 bits are read back.
* `Value.Orderly`, `Value.orderly_of_ofTree` — what has been read is orderly.
* **`Value.ofText?_text`** — an orderly value is read back from its text.
-/

namespace Appliance.Json

open Lexer

/-! ## Numbers -/

namespace Number

variable {n : Number}

/-- The number is read back from its written form. -/
def ReadsBack (n : Number) : Prop := Value.ofText? (String.ofList n.text) = some (.number n)

/-- The numeral that a number is written as. -/
def numeral (n : Number) : Numeral :=
  match tokens? n.text with
  | some [.number m] => m
  | _ => ⟨false, [], [], none⟩

end Number

namespace Tree

theorem items_ne_number {fuel : Nat} {read : List Tree} {tokens : List Token} {n : Numeral}
    {rest : List Token} : items fuel read tokens ≠ some (.number n, rest) := by
  induction fuel generalizing read tokens with
  | zero => simp [items]
  | succ fuel ih =>
    rw [items]
    split
    · exact ih
    · simp
    · simp

theorem members_ne_number {fuel : Nat} {read : List (List Piece × Tree)} {tokens : List Token}
    {n : Numeral} {rest : List Token} : members fuel read tokens ≠ some (.number n, rest) := by
  induction fuel generalizing read tokens with
  | zero => simp [members]
  | succ fuel ih =>
    rw [members.eq_def]
    split
    · next heq => cases heq
    · next heq =>
      cases heq
      split
      · exact ih
      · simp
      · simp
    · simp

/-- A number is one token. -/
theorem eq_of_ofTokens?_number {tokens : List Token} {n : Numeral}
    (h : ofTokens? tokens = some (.number n)) : tokens = [.number n] := by
  unfold ofTokens? at h
  split at h
  · next t hvalue =>
    obtain rfl : t = .number n := Option.some.inj h
    rw [value.eq_def] at hvalue
    split at hvalue
    · cases hvalue
    · cases hvalue
    · cases hvalue
      rfl
    · cases hvalue
    · cases hvalue
    · exact absurd hvalue items_ne_number
    · cases hvalue
    · exact absurd hvalue members_ne_number
    · cases hvalue
  · cases h

end Tree

namespace Number

theorem readsBack_iff {n : Number} :
    n.ReadsBack ↔ tokens? n.text = some [.number n.numeral] ∧ ofNumeral? n.numeral = some n := by
  constructor
  · intro h
    obtain ⟨t, ht, hread⟩ := Option.bind_eq_some_iff.1 h
    obtain ⟨tokens, htokens, hnest⟩ := Option.bind_eq_some_iff.1 ht
    rw [String.toList_ofList] at htokens
    obtain ⟨m, rfl, hm⟩ : ∃ m, t = .number m ∧ ofNumeral? m = some n := by
      cases t with
      | word w => cases w <;> simp [Value.ofTree] at hread
      | number m =>
        obtain ⟨k, hk, heq⟩ := Option.map_eq_some_iff.1 hread
        cases heq
        exact ⟨m, rfl, hk⟩
      | text ps => simp [Value.ofTree] at hread
      | array xs => simp [Value.depthLimit, Value.ofTree] at hread
      | object ms => simp [Value.depthLimit, Value.ofTree] at hread
    obtain rfl := Tree.eq_of_ofTokens?_number hnest
    have hnumeral : n.numeral = m := by simp only [numeral, htokens]
    rw [hnumeral]
    exact ⟨htokens, hm⟩
  · rintro ⟨htokens, hm⟩
    have htree := Tree.ofTokens?_tokens (.number n.numeral)
    have htext : Tree.ofText? (String.ofList n.text) = some (.number n.numeral) := by
      rw [Tree.ofText?, String.toList_ofList, htokens]
      exact htree
    simp [ReadsBack, Value.ofText?, htext, Value.ofTree, hm]

/-- The digits of a number denote it. -/
theorem readDigits_natText (n : Nat) : Tree.readDigits (natText n) = n := by
  refine Text.foldl_toDigits (fun m d hd _ => ?_) (Nat.le_refl n)
  rw [Text.value_digitChar d hd]

/-- A number is an integer of 64 bits, with sign or without, or a double. -/
def Fits : Number → Prop
  | .integer n => -0x8000000000000000 ≤ n ∧ n ≤ 0xffffffffffffffff
  | .double _ => True

/-- What is read as a number fits. -/
theorem fits_of_ofNumeral? {m : Numeral} {n : Number} (h : ofNumeral? m = some n) : n.Fits := by
  unfold ofNumeral? at h
  simp only at h
  split at h
  · next hfits =>
    cases h
    have hle := of_decide_eq_true (Bool.and_eq_true_iff.1 hfits).2
    simp only [significandLimit] at hle
    simp only [Fits]
    omega
  · split at h
    · next hfits =>
      cases h
      simp only [Bool.and_eq_true, decide_eq_true_eq] at hfits
      simp only [Fits]
      omega
    · obtain ⟨x, -, rfl⟩ := Option.map_eq_some_iff.1 h
      trivial

/-- **An integer of 64 bits is read back from its digits.** -/
theorem readsBack_integer {n : Int} (h : (Number.integer n).Fits) :
    (Number.integer n).ReadsBack := by
  have htokens : tokens? (Number.text (.integer n)) = some [.number (integerNumeral n)] :=
    tokens?_intText n
  have hnumeral : (Number.integer n).numeral = integerNumeral n := by
    simp only [numeral, htokens]
  refine readsBack_iff.2 ⟨hnumeral ▸ htokens, ?_⟩
  obtain ⟨hlow, hhigh⟩ := h
  rw [hnumeral, ofNumeral?]
  simp only [integerNumeral, Numeral.isInteger, readDigits_natText, significandLimit]
  rcases Int.lt_or_le n 0 with hneg | hpos
  · have hsmall : 0 < n.natAbs ∧ n.natAbs ≤ 0x8000000000000000 := by omega
    have habs : -(n.natAbs : Int) = n := by omega
    rw [if_neg (by simp [hneg]), if_pos (by simp [hneg, hsmall]), habs]
  · have hsmall : n.natAbs ≤ 0xffffffffffffffff := by omega
    have habs : (n.natAbs : Int) = n := by omega
    rw [if_pos (by simp [Int.not_lt.2 hpos, hsmall]), habs]

end Number

/-! ## Values and their trees -/

namespace Value

/-- What holds of null, truth values, numbers and strings, and of an array and an object if it
holds of their items and members, holds of every value. -/
@[elab_as_elim]
theorem induction {motive : Value → Prop} (null : motive .null) (bool : ∀ b, motive (.bool b))
    (number : ∀ n, motive (.number n)) (string : ∀ s, motive (.string s))
    (array : ∀ xs, (∀ x ∈ xs, motive x) → motive (.array xs))
    (object : ∀ ms, (∀ m ∈ ms, motive m.2) → motive (.object ms)) (v : Value) : motive v := by
  refine Value.rec (motive_1 := motive) (motive_2 := fun xs => ∀ x ∈ xs, motive x)
    (motive_3 := fun ms => ∀ m ∈ ms, motive m.2) (motive_4 := fun m => motive m.2)
    null bool number string array object ?_ ?_ ?_ ?_ ?_ v
  · intro x hx
    cases hx
  · intro x xs hx hxs
    exact List.forall_mem_cons.2 ⟨hx, hxs⟩
  · intro m hm
    cases hm
  · intro m ms hm hms
    exact List.forall_mem_cons.2 ⟨hm, hms⟩
  · intro key x hx
    exact hx

/-- `Holds v n`: the number `n` stands somewhere in the value `v`. -/
inductive Holds : Value → Number → Prop
  | number (n : Number) : Holds (.number n) n
  | item {xs : List Value} {x : Value} {n : Number} (hx : x ∈ xs) (h : Holds x n) :
      Holds (.array xs) n
  | member {ms : List (String × Value)} {m : String × Value} {n : Number} (hm : m ∈ ms)
      (h : Holds m.2 n) : Holds (.object ms) n

mutual

/-- The tree of a value's text. -/
def tree : Value → Tree
  | .null => .word .null
  | .bool true => .word .yes
  | .bool false => .word .no
  | .number n => .number n.numeral
  | .string s => .text (pieces s)
  | .array xs => .array (itemTrees xs)
  | .object ms => .object (memberTrees ms)

/-- The trees of items. -/
def itemTrees : List Value → List Tree
  | [] => []
  | x :: xs => tree x :: itemTrees xs

/-- The trees of members, with their keys. -/
def memberTrees : List (String × Value) → List (List Piece × Tree)
  | [] => []
  | (key, x) :: ms => (pieces key, tree x) :: memberTrees ms

end

theorem memberTrees_eq_map (ms : List (String × Value)) :
    memberTrees ms = ms.map fun m => (pieces m.1, m.2.tree) := by
  induction ms with
  | nil => rfl
  | cons m ms ih => rw [memberTrees, ih, List.map_cons]

/-! ## Texts are read as trees -/

/-- `Spells cs tokens`: where a value may stand, `cs` is read as these tokens. -/
def Spells (cs : List Char) (tokens : List Token) : Prop :=
  ∀ done rest, Ends rest → lex done (cs ++ rest) = lex (tokens.reverse ++ done) rest

theorem spells_items {xs : List Value} (h : ∀ x ∈ xs, Spells x.chars x.tree.tokens) :
    Spells (itemChars xs) (Tree.itemTokens (itemTrees xs)) := by
  induction xs with
  | nil => exact fun done rest hrest => rfl
  | cons x xs ih =>
    obtain ⟨hx, hxs⟩ := List.forall_mem_cons.1 h
    cases xs with
    | nil => exact hx
    | cons y xs =>
      intro done rest hrest
      have hchars : itemChars (x :: y :: xs) = x.chars ++ ',' :: itemChars (y :: xs) := by
        rw [itemChars]
        simp
      have htokens : Tree.itemTokens (itemTrees (x :: y :: xs)) =
          x.tree.tokens ++ .comma :: Tree.itemTokens (itemTrees (y :: xs)) := by
        simp only [itemTrees, Tree.itemTokens_cons]
      rw [hchars, List.append_assoc, List.cons_append, hx _ _ (ends_comma _), lex_comma,
        ih hxs _ _ hrest, htokens]
      simp

theorem spells_members {ms : List (String × Value)}
    (h : ∀ m ∈ ms, Spells m.2.chars m.2.tree.tokens) :
    Spells (memberChars ms) (Tree.memberTokens (memberTrees ms)) := by
  have hmember : ∀ (key : String) {x : Value}, Spells x.chars x.tree.tokens →
      Spells (stringText key ++ ':' :: x.chars)
        (.text (pieces key) :: .colon :: x.tree.tokens) := by
    intro key x hx done rest hrest
    rw [List.append_assoc, lex_stringText, List.cons_append, lex_colon, hx _ _ hrest]
    simp
  induction ms with
  | nil => exact fun done rest hrest => rfl
  | cons m ms ih =>
    obtain ⟨hm, hms⟩ := List.forall_mem_cons.1 h
    obtain ⟨key, x⟩ := m
    cases ms with
    | nil => exact hmember key hm
    | cons m' ms =>
      intro done rest hrest
      have hchars : memberChars ((key, x) :: m' :: ms) =
          (stringText key ++ ':' :: x.chars) ++ ',' :: memberChars (m' :: ms) := by
        rw [memberChars]
        simp
      have htokens : Tree.memberTokens (memberTrees ((key, x) :: m' :: ms)) =
          (.text (pieces key) :: .colon :: x.tree.tokens) ++
            .comma :: Tree.memberTokens (memberTrees (m' :: ms)) := by
        simp only [memberTrees, Tree.memberTokens_cons]
      rw [hchars, List.append_assoc, List.cons_append, hmember key hm _ _ (ends_comma _),
        lex_comma, ih hms _ _ hrest, htokens]
      simp

/-- **The text of a value is read as the tokens of its tree**, if its numbers are read back. -/
theorem spells_chars {v : Value} (h : ∀ n, v.Holds n → n.ReadsBack) :
    Spells v.chars v.tree.tokens := by
  induction v using induction with
  | null => exact fun done rest hrest => lex_null
  | bool b =>
    cases b with
    | true => exact fun done rest hrest => lex_true
    | false => exact fun done rest hrest => lex_false
  | number n =>
    have htokens := (Number.readsBack_iff.1 (h n (.number n))).1
    exact fun done rest hrest => lex_number htokens hrest
  | string s => exact fun done rest hrest => lex_stringText s
  | array xs ih =>
    intro done rest hrest
    have hitems := spells_items fun x hx => ih x hx fun n hn => h n (.item hx hn)
    simp only [chars, tree, Tree.tokens, List.cons_append, List.append_assoc, List.nil_append]
    rw [lex_openBracket, hitems _ _ (ends_closeBracket rest), lex_closeBracket]
    simp
  | object ms ih =>
    intro done rest hrest
    have hmembers := spells_members fun m hm => ih m hm fun n hn => h n (.member hm hn)
    simp only [chars, tree, Tree.tokens, List.cons_append, List.append_assoc, List.nil_append]
    rw [lex_openBrace, hmembers _ _ (ends_closeBrace rest), lex_closeBrace]
    simp

end Value

/-- **The text of a value is read as its tree**, if its numbers are read back. -/
theorem Tree.ofText?_text {v : Value} (h : ∀ n, v.Holds n → n.ReadsBack) :
    ofText? v.text = some v.tree := by
  have hlex := Value.spells_chars h [] [] ends_nil
  have htokens : tokens? v.chars = some v.tree.tokens := by
    rw [tokens?_eq_lex, ← List.append_nil v.chars, hlex, lex_nil]
    simp
  rw [ofText?, Value.text, String.toList_ofList, htokens]
  exact ofTokens?_tokens v.tree

/-- The literal of a string is read as its pieces. -/
theorem Tree.ofText?_stringText (s : String) :
    ofText? (String.ofList (Value.stringText s)) = some (.text (pieces s)) :=
  Tree.ofText?_text (v := .string s) fun n hn => by cases hn

/-- A string literal stands for its string. -/
theorem Tree.text?_pieces (s : String) : (Tree.text (pieces s)).text? = some s := by
  simp [text?, decodePieces_pieces]

namespace Value

/-! ## Trees are read as values -/

/-- `Orderly room v`: at most `room` containers are open inside each other in `v`, the keys of
each object are in ascending order, and the numbers fit. -/
inductive Orderly : Nat → Value → Prop
  | null {room : Nat} : Orderly room .null
  | bool {room : Nat} (b : Bool) : Orderly room (.bool b)
  | number {room : Nat} {n : Number} (h : n.Fits) : Orderly room (.number n)
  | string {room : Nat} (s : String) : Orderly room (.string s)
  | array {room : Nat} {xs : List Value} (h : ∀ x ∈ xs, Orderly room x) :
      Orderly (room + 1) (.array xs)
  | object {room : Nat} {ms : List (String × Value)}
      (hkeys : (ms.map (·.1)).Pairwise (· < ·)) (h : ∀ m ∈ ms, Orderly room m.2) :
      Orderly (room + 1) (.object ms)

variable {room : Nat} {v : Value}

theorem Orderly.mono (h : Orderly room v) {room' : Nat} (hroom : room ≤ room') :
    Orderly room' v := by
  induction h generalizing room' with
  | null => exact .null
  | bool b => exact .bool b
  | number h => exact .number h
  | string s => exact .string s
  | array _ ih =>
    obtain ⟨room', rfl⟩ := Nat.exists_eq_add_of_le' (Nat.le_trans (Nat.le_add_left ..) hroom)
    exact .array fun x hx => ih x hx (by omega)
  | object hkeys _ ih =>
    obtain ⟨room', rfl⟩ := Nat.exists_eq_add_of_le' (Nat.le_trans (Nat.le_add_left ..) hroom)
    exact .object hkeys fun m hm => ih m hm (by omega)

/-- The numbers in an orderly value fit. -/
theorem Orderly.fits (h : Orderly room v) {n : Number} (hn : v.Holds n) : n.Fits := by
  induction h with
  | null => cases hn
  | bool b => cases hn
  | string s => cases hn
  | number h =>
    cases hn
    exact h
  | array _ ih =>
    cases hn with
    | item hx hn => exact ih _ hx hn
  | object _ _ ih =>
    cases hn with
    | member hm hn => exact ih _ hm hn

/-- Members are kept as the handlers of a registry are. -/
theorem put_eq (key : String) (v : Value) (ms : List (String × Value)) :
    put key v ms = Subscriptions.put key v ms := by
  induction ms with
  | nil => rfl
  | cons m ms ih =>
    obtain ⟨k, w⟩ := m
    simp only [put, Subscriptions.put, ih]

/-- The members of an object after one more was read. -/
theorem mem_put {key : String} {v : Value} {ms : List (String × Value)} {m : String × Value}
    (h : m ∈ put key v ms) : m = (key, v) ∨ m ∈ ms := by
  induction ms with
  | nil => simpa [put] using h
  | cons m' ms ih =>
    obtain ⟨k, w⟩ := m'
    unfold put at h
    split at h
    · exact (List.mem_cons.1 h).imp_right (List.mem_cons_of_mem _)
    · split at h
      · exact List.mem_cons.1 h
      · rcases List.mem_cons.1 h with rfl | h
        · exact .inr (List.mem_cons_self ..)
        · exact (ih h).imp_right (List.mem_cons_of_mem _)

/-- A member whose key comes after all others is put at the end. -/
theorem put_eq_append {key : String} {ms : List (String × Value)}
    (h : ∀ k ∈ ms.map (·.1), k < key) (v : Value) : put key v ms = ms ++ [(key, v)] := by
  induction ms with
  | nil => rfl
  | cons m ms ih =>
    obtain ⟨k, w⟩ := m
    obtain ⟨hk, hms⟩ := List.forall_mem_cons.1 h
    have hne : key ≠ k := fun heq => String.lt_irrefl k (heq ▸ hk)
    have hnot : ¬ key < k := fun hlt => String.lt_irrefl k (String.lt_trans hk hlt)
    rw [put, if_neg hne, if_neg hnot, ih hms, List.cons_append]

theorem orderly_of_ofItems {xs : List Tree} {vs : List Value} (h : ofItems room xs = some vs)
    (hxs : ∀ x ∈ xs, ∀ v, ofTree room x = some v → Orderly room v) : ∀ v ∈ vs, Orderly room v := by
  induction xs generalizing vs with
  | nil =>
    cases h
    simp
  | cons x xs ih =>
    obtain ⟨hx, hxs⟩ := List.forall_mem_cons.1 hxs
    rw [ofItems] at h
    split at h
    · next v vs' hv hvs =>
      cases h
      exact List.forall_mem_cons.2 ⟨hx v hv, ih hvs hxs⟩
    · cases h

theorem orderly_of_ofMembers {ms : List (List Piece × Tree)} {read out : List (String × Value)}
    (h : ofMembers room read ms = some out)
    (hms : ∀ m ∈ ms, ∀ v, ofTree room m.2 = some v → Orderly room v)
    (hkeys : (read.map (·.1)).Pairwise (· < ·)) (hread : ∀ m ∈ read, Orderly room m.2) :
    (out.map (·.1)).Pairwise (· < ·) ∧ ∀ m ∈ out, Orderly room m.2 := by
  induction ms generalizing read with
  | nil =>
    cases h
    exact ⟨hkeys, hread⟩
  | cons m ms ih =>
    obtain ⟨key, x⟩ := m
    obtain ⟨hx, hms⟩ := List.forall_mem_cons.1 hms
    rw [ofMembers] at h
    split at h
    · next k v hk hv =>
      refine ih h hms ?_ fun m hm => ?_
      · rw [put_eq]
        exact Subscriptions.ascending_put _ v hkeys
      · rcases mem_put hm with rfl | hm
        · exact hx v hv
        · exact hread m hm
    · cases h

/-- **What has been read is orderly.** -/
theorem orderly_of_ofTree {t : Tree} (h : ofTree room t = some v) : Orderly room v := by
  induction t using Tree.induction generalizing room v with
  | word w => cases w <;> simp only [ofTree] at h <;> cases h <;> constructor
  | number n =>
    simp only [ofTree] at h
    obtain ⟨n, hn, rfl⟩ := Option.map_eq_some_iff.1 h
    exact .number (Number.fits_of_ofNumeral? hn)
  | text ps =>
    simp only [ofTree] at h
    obtain ⟨cs, -, rfl⟩ := Option.map_eq_some_iff.1 h
    exact .string _
  | array xs ih =>
    cases room with
    | zero => cases h
    | succ room =>
      obtain ⟨vs, hvs, rfl⟩ := Option.map_eq_some_iff.1 h
      exact .array (orderly_of_ofItems hvs fun x hx v hv => ih x hx hv)
  | object ms ih =>
    cases room with
    | zero => cases h
    | succ room =>
      obtain ⟨out, hout, rfl⟩ := Option.map_eq_some_iff.1 h
      obtain ⟨hkeys, hmembers⟩ :=
        orderly_of_ofMembers hout (fun m hm v hv => ih m hm hv) .nil (by simp)
      exact .object hkeys hmembers

theorem ofItems_itemTrees {xs : List Value} (h : ∀ x ∈ xs, ofTree room x.tree = some x) :
    ofItems room (itemTrees xs) = some xs := by
  induction xs with
  | nil => rfl
  | cons x xs ih =>
    obtain ⟨hx, hxs⟩ := List.forall_mem_cons.1 h
    simp only [itemTrees, ofItems, hx, ih hxs]

theorem ofMembers_memberTrees {ms read : List (String × Value)}
    (hkeys : ((read ++ ms).map (·.1)).Pairwise (· < ·))
    (h : ∀ m ∈ ms, ofTree room m.2.tree = some m.2) :
    ofMembers room read (memberTrees ms) = some (read ++ ms) := by
  induction ms generalizing read with
  | nil => simp [memberTrees, ofMembers]
  | cons m ms ih =>
    obtain ⟨key, x⟩ := m
    obtain ⟨hx, hms⟩ := List.forall_mem_cons.1 h
    have hlast : ∀ k ∈ read.map (·.1), k < key := by
      rw [List.map_append, List.pairwise_append] at hkeys
      exact fun k hk => hkeys.2.2 k hk key (by simp)
    have hput : put key x read = read ++ [(key, x)] := put_eq_append hlast x
    simp only [memberTrees, ofMembers, decodePieces_pieces, hx, String.ofList_toList, hput]
    rw [ih (by simpa using hkeys) hms]
    simp

/-- An orderly value is read from its tree, if its numbers are read back. -/
theorem ofTree_tree (h : Orderly room v) (hnumbers : ∀ n, v.Holds n → n.ReadsBack) :
    ofTree room v.tree = some v := by
  induction h with
  | null => simp [tree, ofTree]
  | bool b => cases b <;> simp [tree, ofTree]
  | @number room n h =>
    have hn := (Number.readsBack_iff.1 (hnumbers n (.number n))).2
    simp [tree, ofTree, hn]
  | string s => simp [tree, ofTree, decodePieces_pieces]
  | array _ ih =>
    have hitems := ofItems_itemTrees fun x hx => ih x hx fun n hn => hnumbers n (.item hx hn)
    simp only [tree, ofTree, hitems, Option.map_some]
  | @object room ms hkeys _ ih =>
    have hmembers : ofMembers room [] (memberTrees ms) = some ([] ++ ms) :=
      ofMembers_memberTrees hkeys fun m hm => ih m hm fun n hn => hnumbers n (.member hm hn)
    simp only [tree, ofTree, hmembers, Option.map_some, List.nil_append]

/-! ## Values that have been read -/

/-- Every double in the value is read back from its written form. -/
def Exact (v : Value) : Prop := ∀ x, v.Holds (.double x) → (Number.double x).ReadsBack

/-- The numbers in an orderly value are read back, if its doubles are. -/
theorem Orderly.readsBack (h : Orderly room v) (hexact : v.Exact) {n : Number}
    (hn : v.Holds n) : n.ReadsBack := by
  cases n with
  | integer n => exact Number.readsBack_integer (h.fits hn)
  | double x => exact hexact x hn

/-- What has been read from a text is orderly. -/
theorem orderly_of_ofText? {s : String} (h : ofText? s = some v) : Orderly depthLimit v := by
  obtain ⟨t, -, ht⟩ := Option.bind_eq_some_iff.1 h
  exact orderly_of_ofTree ht

/-- **An orderly value is read back from its text**, if its doubles are. -/
theorem ofText?_text (h : Orderly depthLimit v) (hexact : v.Exact) : ofText? v.text = some v := by
  have hnumbers : ∀ n, v.Holds n → n.ReadsBack := fun n hn => h.readsBack hexact hn
  rw [ofText?, Tree.ofText?_text hnumbers]
  exact ofTree_tree h hnumbers

end Value

end Appliance.Json

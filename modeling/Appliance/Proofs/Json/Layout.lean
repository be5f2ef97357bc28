import Appliance.Proofs.Json.Marks
import Appliance.Proofs.Json.Nesting
import Mathlib.Data.List.Forall2

/-!
# How arrays and objects are laid out

An array stands between brackets, an object between braces. In between are the texts of its
items or members, with commas between them, and each of these is read on its own; blanks may
stand around every part. A member is its key, a colon and its value.

* `Blank`, `Parted`, `Enclosed` — texts between brackets, with commas between them.
* `Tree.Written`, `MemberWritten` — a text is read as a tree, and as a member.
* **`Tree.written_array_iff`**, **`Tree.written_object_iff`** — arrays and objects are what is
  laid out in this way.
-/

namespace Appliance.Json

open Lexer

/-! ## Layout -/

/-- A text of blanks only. -/
def Blank (cs : List Char) : Prop := ∀ c ∈ cs, isGap c = true

/-- The text `cs` is the parts with commas between them, or blank if there are no parts. -/
def Parted : List (List Char) → List Char → Prop
  | [], cs => Blank cs
  | p :: ps, cs => cs = [','].intercalate (p :: ps)

/-- The text `cs` is the parts, with commas between them, enclosed by two characters. -/
def Enclosed (opening closing : Char) (parts : List (List Char)) (cs : List Char) : Prop :=
  ∃ before inner after, cs = before ++ opening :: (inner ++ closing :: after) ∧
    Blank before ∧ Parted parts inner ∧ Blank after

variable {cs p : List Char} {ps : List (List Char)}

theorem parted_cons_cons {q : List Char} :
    Parted (p :: q :: ps) cs ↔ ∃ ds, cs = p ++ ',' :: ds ∧ Parted (q :: ps) ds := by
  simp [Parted, List.intercalate_cons_cons]

/-- **A text is read with commas in it exactly if it is parted by them.** -/
theorem tokens?_intercalate {tss : List (List Token)} :
    tokens? cs = some ([.comma].intercalate tss) ↔
      ∃ ps, Parted ps cs ∧ List.Forall₂ (fun ts p => tokens? p = some ts) tss ps := by
  induction tss generalizing cs with
  | nil => simp [Parted, Blank, tokens?_eq_nil_iff]
  | cons ts tss ih =>
    cases tss with
    | nil => simp [Parted, List.forall₂_cons_left_iff]
    | cons us tss =>
      rw [List.intercalate_cons_cons, List.append_assoc, List.singleton_append, tokens?_mark rfl]
      constructor
      · rintro ⟨p, es, rfl, hp, hes⟩
        obtain ⟨ps, hparted, hps⟩ := ih.1 hes
        cases hps with
        | cons hq hps =>
          exact ⟨_, parted_cons_cons.2 ⟨es, rfl, hparted⟩, .cons hp (.cons hq hps)⟩
      · rintro ⟨_, hparted, _ | ⟨hp, _ | ⟨hq, hps⟩⟩⟩
        obtain ⟨ds, rfl, hds⟩ := parted_cons_cons.1 hparted
        exact ⟨_, ds, rfl, hp, ih.2 ⟨_, hds, .cons hq hps⟩⟩

/-- **A text is read as tokens between two marks exactly if it is enclosed by them.** -/
theorem tokens?_enclosed {o c : Token} {opening closing : Char} (ho : o.mark? = some opening)
    (hc : c.mark? = some closing) {tss : List (List Token)} :
    tokens? cs = some (o :: [.comma].intercalate tss ++ [c]) ↔
      ∃ ps, Enclosed opening closing ps cs ∧
        List.Forall₂ (fun ts p => tokens? p = some ts) tss ps := by
  have hmarks : tokens? cs = some (o :: [.comma].intercalate tss ++ [c]) ↔
      ∃ before inner after, cs = before ++ opening :: (inner ++ closing :: after) ∧
        Blank before ∧ tokens? inner = some ([.comma].intercalate tss) ∧ Blank after := by
    rw [List.cons_append, ← List.nil_append (o :: _), tokens?_mark ho]
    simp only [tokens?_mark hc, tokens?_eq_nil_iff]
    constructor
    · rintro ⟨before, _, rfl, hbefore, inner, after, rfl, hinner, hafter⟩
      exact ⟨before, inner, after, rfl, hbefore, hinner, hafter⟩
    · rintro ⟨before, inner, after, rfl, hbefore, hinner, hafter⟩
      exact ⟨before, _, rfl, hbefore, inner, after, rfl, hinner, hafter⟩
  rw [hmarks]
  simp only [tokens?_intercalate]
  constructor
  · rintro ⟨before, inner, after, rfl, hbefore, ⟨ps, hparted, hps⟩, hafter⟩
    exact ⟨ps, ⟨before, inner, after, rfl, hbefore, hparted, hafter⟩, hps⟩
  · rintro ⟨ps, ⟨before, inner, after, rfl, hbefore, hparted, hafter⟩, hps⟩
    exact ⟨before, inner, after, rfl, hbefore, ⟨ps, hparted, hps⟩, hafter⟩

/-! ## Values and members -/

/-- The text `cs` is read as the tree `t`. -/
def Tree.Written (t : Tree) (cs : List Char) : Prop := ofText? (String.ofList cs) = some t

/-- The text `p` is a member: its key, a colon and its value. -/
def MemberWritten (m : List Piece × Tree) (p : List Char) : Prop :=
  ∃ key value, p = key ++ ':' :: value ∧ Tree.Written (.text m.1) key ∧ m.2.Written value

theorem Tree.written_iff {t : Tree} : t.Written cs ↔ tokens? cs = some t.tokens := by
  rw [Written, ofText?, String.toList_ofList, Option.bind_eq_some_iff]
  simp only [ofTokens?_eq_some_iff]
  exact ⟨fun ⟨_, hcs, heq⟩ => heq ▸ hcs, fun hcs => ⟨_, hcs, rfl⟩⟩

theorem Tree.written_toList_iff {t : Tree} {s : String} :
    t.Written s.toList ↔ ofText? s = some t := by
  rw [Written, String.ofList_toList]

theorem memberWritten_iff {m : List Piece × Tree} :
    MemberWritten m p ↔ tokens? p = some (.text m.1 :: .colon :: m.2.tokens) := by
  rw [← List.singleton_append, tokens?_mark rfl]
  simp only [MemberWritten, Tree.written_iff, Tree.tokens]

namespace Tree

theorem itemTokens_eq_intercalate (xs : List Tree) :
    itemTokens xs = [.comma].intercalate (xs.map tokens) := by
  induction xs with
  | nil => rfl
  | cons x xs ih =>
    cases xs with
    | nil => simp [itemTokens]
    | cons y xs => rw [itemTokens_cons, ih]; simp [List.intercalate_cons_cons]

theorem memberTokens_eq_intercalate (ms : List (List Piece × Tree)) :
    memberTokens ms =
      [.comma].intercalate (ms.map fun m => .text m.1 :: .colon :: m.2.tokens) := by
  induction ms with
  | nil => rfl
  | cons m ms ih =>
    cases ms with
    | nil => simp [memberTokens]
    | cons m' ms => rw [memberTokens_cons, ih]; simp [List.intercalate_cons_cons]

/-- **A text is an array exactly if it is laid out as one**, each item on its own. -/
theorem written_array_iff {xs : List Tree} :
    (array xs).Written cs ↔ ∃ ps, Enclosed '[' ']' ps cs ∧ List.Forall₂ Written xs ps := by
  rw [written_iff, tokens, itemTokens_eq_intercalate, tokens?_enclosed rfl rfl]
  simp only [List.forall₂_map_left_iff, ← written_iff]

/-- **A text is an object exactly if it is laid out as one**, each member on its own. -/
theorem written_object_iff {ms : List (List Piece × Tree)} :
    (object ms).Written cs ↔
      ∃ ps, Enclosed '\x7b' '\x7d' ps cs ∧ List.Forall₂ MemberWritten ms ps := by
  rw [written_iff, tokens, memberTokens_eq_intercalate, tokens?_enclosed rfl rfl]
  simp only [List.forall₂_map_left_iff, ← memberWritten_iff]

end Tree

end Appliance.Json

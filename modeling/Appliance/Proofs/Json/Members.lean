import Appliance.Proofs.Json.Layout
import Appliance.Json.Record
import Mathlib.Data.List.Perm.Basic

/-!
# What a record reads of an object

A record looks for its fields among the members of an object by their keys. So neither the
order of the members matters, nor any member that no field goes by; and members whose values
are related give fields that are.

* `Record.fields?_perm` — **members in another order and members that no field goes by change
  nothing.**
* `Record.fields?_related` — fields are related as the values of the members are.
* `Rearranged` — the same object as a text, its members in any order and with more of them.
* `Within`, `ItemsChanged` — a text that is changed in the value of a member, or in items.
* **`Rearranged.fields?_eq`** — a text that is rearranged gives the same fields.
-/

namespace Appliance.Json

namespace Record

variable {ms : List (List Piece × Tree)} {ks : List (String × Tree)}

/-! ## Keys -/

/-- A member with its key read. -/
def named? (m : List Piece × Tree) : Option (String × Tree) :=
  (Tree.text m.1).text?.map fun k => (k, m.2)

theorem keyed?_cons (m : List Piece × Tree) (ms : List (List Piece × Tree)) :
    keyed? (m :: ms) = (named? m).bind fun k => (keyed? ms).map (k :: ·) := by
  obtain ⟨key, t⟩ := m
  simp only [keyed?, named?, Tree.text?]
  cases decodePieces key <;> cases keyed? ms <;> rfl

/-- The keys of members can be read exactly if each of them is text. -/
theorem keyed?_eq (ms : List (List Piece × Tree)) : keyed? ms =
    if ∀ m ∈ ms, (named? m).isSome then some (ms.filterMap named?) else none := by
  induction ms with
  | nil => rfl
  | cons m ms ih =>
    rw [keyed?_cons, ih]
    simp only [List.forall_mem_cons, List.filterMap_cons]
    cases named? m with
    | none => simp
    | some k =>
      simp only [Option.isSome_some, true_and, Option.bind_some]
      split <;> rfl

/-! ## Another order, and more members -/

/-- A field is looked for by the keys that it goes by, in whatever order they stand. -/
theorem given?_perm {ls : List (String × Tree)} (h : ls.Perm ks) (field : Field) :
    given? ls field = given? ks field := by
  have hperm := h.filter fun m => field.contains m.1
  unfold given?
  generalize ls.filter (fun m => field.contains m.1) = given at hperm ⊢
  generalize ks.filter (fun m => field.contains m.1) = given' at hperm ⊢
  match given, given', hperm with
  | [], _, hperm => rw [List.nil_perm.1 hperm]
  | [m], _, hperm => rw [List.singleton_perm.1 hperm]
  | _ :: _ :: _, [], hperm => cases List.perm_nil.1 hperm
  | _ :: _ :: _, [m], hperm => cases List.perm_singleton.1 hperm
  | _ :: _ :: _, _ :: _ :: _, _ => rfl

/-- A field is not looked for under the names of others. -/
theorem given?_append {xs : List (String × Tree)} {field : Field} (h : ∀ x ∈ xs, x.1 ∉ field) :
    given? (ks ++ xs) field = given? ks field := by
  have hnone : xs.filter (fun m => field.contains m.1) = [] := by simpa using h
  rw [given?, given?, List.filter_append, hnone, List.append_nil]

/-- What is given for each field is given for all of them. -/
theorem ofMembers?_congr {fields : List Field} {ls : List (String × Tree)}
    (h : ∀ field ∈ fields, given? ls field = given? ks field) :
    ofMembers? fields ls = ofMembers? fields ks := by
  induction fields with
  | nil => rfl
  | cons field fields ih =>
    obtain ⟨hfield, hfields⟩ := List.forall_mem_cons.1 h
    have hrest : fields.mapM (given? ls) = fields.mapM (given? ks) := ih hfields
    rw [ofMembers?, ofMembers?, List.mapM_cons, List.mapM_cons, hfield, hrest]

/-- A member that no field goes by: its key is a string that is none of their names. -/
def Foreign (fields : List Field) (m : List Piece × Tree) : Prop :=
  ∃ k, (Tree.text m.1).text? = some k ∧ ∀ field ∈ fields, k ∉ field

theorem Foreign.named? {fields : List Field} {m : List Piece × Tree} (h : Foreign fields m) :
    ∃ k, Record.named? m = some k ∧ ∀ field ∈ fields, k.1 ∉ field := by
  obtain ⟨k, hk, hnot⟩ := h
  exact ⟨(k, m.2), by simp [Record.named?, hk], hnot⟩

/-- The keys of members are read in any order, and together with more of them. -/
theorem keyed?_perm {xs ns : List (List Piece × Tree)} (h : ns.Perm (ms ++ xs))
    (hxs : ∀ x ∈ xs, (named? x).isSome) :
    Option.Rel (fun ks ls => ls.Perm (ks ++ xs.filterMap named?)) (keyed? ms) (keyed? ns) := by
  have hall : (∀ m ∈ ns, (named? m).isSome) ↔ ∀ m ∈ ms, (named? m).isSome := by
    simp only [h.mem_iff, List.mem_append, or_imp, forall_and]
    exact and_iff_left hxs
  rw [keyed?_eq, keyed?_eq]
  by_cases hms : ∀ m ∈ ms, (named? m).isSome
  · rw [if_pos hms, if_pos (hall.2 hms)]
    refine .some ?_
    rw [← List.filterMap_append]
    exact h.filterMap named?
  · rw [if_neg hms, if_neg (hall.not.2 hms)]
    exact .none

/-- **Neither the order of the members matters, nor members that no field goes by.** -/
theorem fields?_perm {fields : List Field} {xs ns : List (List Piece × Tree)}
    (h : ns.Perm (ms ++ xs)) (hxs : ∀ x ∈ xs, Foreign fields x) :
    fields? fields (.object ns) = fields? fields (.object ms) := by
  have hnamed : ∀ x ∈ xs, (named? x).isSome := fun x hx => by
    obtain ⟨k, hk, -⟩ := (hxs x hx).named?
    simp [hk]
  have hforeign : ∀ k ∈ xs.filterMap named?, ∀ field ∈ fields, k.1 ∉ field := by
    intro k hk
    obtain ⟨x, hx, hname⟩ := List.mem_filterMap.1 hk
    obtain ⟨k', hk', hnot⟩ := (hxs x hx).named?
    obtain rfl : k' = k := Option.some.inj (hk'.symm.trans hname)
    exact hnot
  rw [fields?, fields?]
  match keyed? ms, keyed? ns, keyed?_perm h hnamed with
  | _, _, .none => rfl
  | some ks, some ls, .some hperm =>
    refine ofMembers?_congr fun field hfield => ?_
    rw [given?_perm hperm, given?_append fun k hk => hforeign k hk field hfield]

/-! ## Related values -/

variable {R : Tree → Tree → Prop}

/-- Members in the same order with the same keys, their values related. -/
def Related (R : Tree → Tree → Prop) (ms ns : List (List Piece × Tree)) : Prop :=
  List.Forall₂ (fun m n => m.1 = n.1 ∧ R m.2 n.2) ms ns

/-- A field is given by related values. -/
theorem given?_related {ls : List (String × Tree)}
    (h : List.Forall₂ (fun k l => k.1 = l.1 ∧ R k.2 l.2) ks ls) (field : Field) :
    Option.Rel (Option.Rel R) (given? ks field) (given? ls field) := by
  have hfilter := List.rel_filter (p := fun m => field.contains m.1)
    (q := fun m => field.contains m.1) (fun k l hkl => by simp [hkl.1]) h
  unfold given?
  generalize ks.filter (fun m => field.contains m.1) = given at hfilter ⊢
  generalize ls.filter (fun m => field.contains m.1) = given' at hfilter ⊢
  match given, given', hfilter with
  | _, _, .nil => exact .some .none
  | _, _, .cons hkl .nil => exact .some (.some hkl.2)
  | _, _, .cons _ (.cons _ _) => exact .none

/-- The keys of related members are read alike. -/
theorem keyed?_related {ns : List (List Piece × Tree)} (h : Related R ms ns) :
    Option.Rel (List.Forall₂ fun k l => k.1 = l.1 ∧ R k.2 l.2) (keyed? ms) (keyed? ns) := by
  induction h with
  | nil => exact .some .nil
  | @cons m n ms ns hmn hrest ih =>
    rw [keyed?_cons, keyed?_cons, named?, named?, hmn.1]
    cases (Tree.text n.1).text? with
    | none => exact .none
    | some k =>
      match keyed? ms, keyed? ns, ih with
      | _, _, .none => exact .none
      | _, _, .some hkeyed => exact .some (.cons ⟨rfl, hmn.2⟩ hkeyed)

theorem ofMembers?_related {ls : List (String × Tree)}
    (h : List.Forall₂ (fun k l => k.1 = l.1 ∧ R k.2 l.2) ks ls) (fields : List Field) :
    Option.Rel (List.Forall₂ (Option.Rel R)) (ofMembers? fields ks) (ofMembers? fields ls) := by
  simp only [ofMembers?]
  induction fields with
  | nil => exact .some .nil
  | cons field fields ih =>
    rw [List.mapM_cons, List.mapM_cons]
    match given? ks field, given? ls field, given?_related h field with
    | _, _, .none => exact .none
    | _, _, .some hfield =>
      match fields.mapM (given? ks), fields.mapM (given? ls), ih with
      | _, _, .none => exact .none
      | _, _, .some hfields => exact .some (.cons hfield hfields)

/-- **Fields are related as the values of the members are.** -/
theorem fields?_related {fields : List Field} {ns : List (List Piece × Tree)}
    (h : Related R ms ns) :
    Option.Rel (List.Forall₂ (Option.Rel R)) (fields? fields (.object ms))
      (fields? fields (.object ns)) := by
  rw [fields?, fields?]
  match keyed? ms, keyed? ns, keyed?_related h with
  | _, _, .none => exact .none
  | _, _, .some hkeyed => exact ofMembers?_related hkeyed fields

end Record

/-! ## Texts -/

/-- The text `s` is an object, and these are the texts of its members. -/
def ObjectOf (ps : List (List Char)) (s : List Char) : Prop :=
  Enclosed '\x7b' '\x7d' ps s ∧ ∀ p ∈ ps, ∃ m, MemberWritten m p

/-- The text `t` is the object `s` with its members in any order, and with any more members
that no field goes by, wherever they stand. -/
def Rearranged (fields : List Record.Field) (s t : List Char) : Prop :=
  ∃ ps extra qs, ObjectOf ps s ∧ (∀ p ∈ extra, ∃ m, Record.Foreign fields m ∧ MemberWritten m p) ∧
    qs.Perm (ps ++ extra) ∧ Enclosed '\x7b' '\x7d' qs t

/-- The text `t` is the object `s` with another value of one member with this key. -/
def Within (name : String) (change : List Char → List Char → Prop) (s t : List Char) : Prop :=
  ∃ before key value value' after pieces,
    ObjectOf (before ++ (key ++ ':' :: value) :: after) s ∧
    ObjectOf (before ++ (key ++ ':' :: value') :: after) t ∧
    Tree.Written (.text pieces) key ∧ (Tree.text pieces).text? = some name ∧ change value value'

/-- The text `t` is the array `s` with some of its items changed. -/
def ItemsChanged (change : List Char → List Char → Prop) (s t : List Char) : Prop :=
  ∃ ps qs, Enclosed '[' ']' ps s ∧ Enclosed '[' ']' qs t ∧
    List.Forall₂ (fun p q => (∃ u : Tree, u.Written p) ∧ q = p ∨ change p q) ps qs

/-- What is each read as something is read as a list. -/
theorem exists_forall₂_iff {α β : Type} {r : α → β → Prop} {bs : List β} :
    (∃ as, List.Forall₂ r as bs) ↔ ∀ b ∈ bs, ∃ a, r a b := by
  induction bs with
  | nil => simp
  | cons b bs ih =>
    rw [List.forall_mem_cons, ← ih]
    constructor
    · rintro ⟨_, _ | ⟨ha, has⟩⟩
      exact ⟨⟨_, ha⟩, _, has⟩
    · rintro ⟨⟨a, ha⟩, as, has⟩
      exact ⟨a :: as, .cons ha has⟩

/-- **A text is read as an object exactly if it is one, laid out in the texts of its members.** -/
theorem exists_objectOf_iff {s : List Char} :
    (∃ ps, ObjectOf ps s) ↔ ∃ ms, (Tree.object ms).Written s := by
  simp only [ObjectOf, Tree.written_object_iff, ← exists_forall₂_iff]
  constructor
  · rintro ⟨ps, hs, ms, hms⟩
    exact ⟨ms, ps, hs, hms⟩
  · rintro ⟨ms, ps, hs, hms⟩
    exact ⟨ps, hs, ms, hms⟩

/-- **A text that is rearranged is read, and gives the same fields.** -/
theorem Rearranged.fields?_eq {fields : List Record.Field} {s t : List Char}
    (h : Rearranged fields s t) : ∃ u v : Tree, u.Written s ∧ v.Written t ∧
      Record.fields? fields v = Record.fields? fields u := by
  obtain ⟨ps, extra, qs, ⟨hs, hps⟩, hextra, hperm, ht⟩ := h
  obtain ⟨ms, hms⟩ := exists_forall₂_iff.2 hps
  obtain ⟨xs, hxs⟩ := exists_forall₂_iff.2 hextra
  obtain ⟨hforeign, hxs⟩ := (List.forall₂_and_left _ _).1 hxs
  have hcomp : Relation.Comp (List.Forall₂ MemberWritten) List.Perm (ms ++ xs) qs :=
    ⟨ps ++ extra, List.rel_append hms hxs, hperm.symm⟩
  rw [List.forall₂_comp_perm_eq_perm_comp_forall₂] at hcomp
  obtain ⟨ms', hperm', hms'⟩ := hcomp
  exact ⟨.object ms, .object ms', Tree.written_object_iff.2 ⟨ps, hs, hms⟩,
    Tree.written_object_iff.2 ⟨qs, ht, hms'⟩, Record.fields?_perm hperm'.symm hforeign⟩

/-- **A text that is changed within a member gives related fields**, if the change relates the
values. -/
theorem Within.fields?_related {name : String} {change : List Char → List Char → Prop}
    {R : Tree → Tree → Prop} (hrefl : ∀ u, R u u)
    (hchange : ∀ {p q}, change p q → ∃ u v : Tree, u.Written p ∧ v.Written q ∧ R u v)
    {s t : List Char} (h : Within name change s t) (fields : List Record.Field) :
    ∃ u v : Tree, u.Written s ∧ v.Written t ∧ Option.Rel (List.Forall₂ (Option.Rel R))
      (Record.fields? fields u) (Record.fields? fields v) := by
  obtain ⟨before, key, value, value', after, pieces, ⟨hs, hps⟩, ⟨ht, -⟩, hkey, -, hvalue⟩ := h
  obtain ⟨u, v, hu, hv, huv⟩ := hchange hvalue
  obtain ⟨as, has⟩ := exists_forall₂_iff.2 fun p hp => hps p (List.mem_append_left _ hp)
  obtain ⟨bs, hbs⟩ := exists_forall₂_iff.2 fun p hp =>
    hps p (List.mem_append_right _ (List.mem_cons_of_mem _ hp))
  have hrelated : Record.Related R (as ++ (pieces, u) :: bs) (as ++ (pieces, v) :: bs) :=
    List.rel_append (List.forall₂_same.2 fun m _ => ⟨rfl, hrefl m.2⟩)
      (.cons ⟨rfl, huv⟩ (List.forall₂_same.2 fun m _ => ⟨rfl, hrefl m.2⟩))
  exact ⟨_, _,
    Tree.written_object_iff.2 ⟨_, hs, List.rel_append has (.cons ⟨key, value, rfl, hkey, hu⟩ hbs)⟩,
    Tree.written_object_iff.2 ⟨_, ht, List.rel_append has (.cons ⟨key, value', rfl, hkey, hv⟩ hbs)⟩,
    Record.fields?_related hrelated⟩

/-- **An array with changed items is read with related items**, if the change relates them. -/
theorem ItemsChanged.related {change : List Char → List Char → Prop} {R : Tree → Tree → Prop}
    (hrefl : ∀ u, R u u)
    (hchange : ∀ {p q}, change p q → ∃ u v : Tree, u.Written p ∧ v.Written q ∧ R u v)
    {s t : List Char} (h : ItemsChanged change s t) :
    ∃ us vs, (Tree.array us).Written s ∧ (Tree.array vs).Written t ∧ List.Forall₂ R us vs := by
  obtain ⟨ps, qs, hs, ht, hitems⟩ := h
  have hread : ∃ us vs, List.Forall₂ Tree.Written us ps ∧ List.Forall₂ Tree.Written vs qs ∧
      List.Forall₂ R us vs := by
    clear hs ht
    induction hitems with
    | nil => exact ⟨[], [], .nil, .nil, .nil⟩
    | @cons p q ps qs hpq _ ih =>
      obtain ⟨us, vs, hus, hvs, huvs⟩ := ih
      obtain ⟨u, v, hu, hv, huv⟩ : ∃ u v : Tree, u.Written p ∧ v.Written q ∧ R u v := by
        rcases hpq with ⟨⟨u, hu⟩, rfl⟩ | hpq
        · exact ⟨u, u, hu, hu, hrefl u⟩
        · exact hchange hpq
      exact ⟨u :: us, v :: vs, .cons hu hus, .cons hv hvs, .cons huv huvs⟩
  obtain ⟨us, vs, hus, hvs, huvs⟩ := hread
  exact ⟨us, vs, Tree.written_array_iff.2 ⟨ps, hs, hus⟩, Tree.written_array_iff.2 ⟨qs, ht, hvs⟩,
    huvs⟩

end Appliance.Json

import Appliance.Proofs.Json.Values
import Appliance.TokenService.Exchange

/-!
# What is asked for is what is read

A request for a token carries a user name, a password and a scope in a JSON text. Whatever these
strings hold — quotes, backslashes, controls, characters of any script — the text is read as an
object with exactly the members that were meant, in their order, so nothing that is typed as a
name or a password gets into another member.

* `Tree.Lists`            — an object of strings with exactly these members, in this order.
* `Grant.ofText?_text`    — the text of a grant is read as the tree of its members.
* `Grant.fields_injective` — the members determine the grant.
* **`grant_is_read_as_meant`** — a request is read as what it was written from, and as nothing
  else.
-/

namespace Appliance

namespace Json.Tree

open Lexer

/-- `Lists t fs`: the tree `t` is an object of strings with exactly the members `fs`, in this
order. -/
def Lists (t : Tree) (fs : List (String × String)) : Prop :=
  ∃ ms, t = .object ms ∧
    List.Forall₂ (fun m f => (Tree.text m.1).text? = some f.1 ∧ m.2.text? = some f.2) ms fs

/-- A tree lists one row of members only. -/
theorem Lists.unique {t : Tree} {fs fs' : List (String × String)} (h : t.Lists fs)
    (h' : t.Lists fs') : fs = fs' := by
  obtain ⟨ms, rfl, hms⟩ := h
  obtain ⟨ms', heq, hms'⟩ := h'
  obtain rfl : ms = ms' := Tree.object.inj heq
  clear heq
  induction hms generalizing fs' with
  | nil =>
    cases hms'
    rfl
  | cons hm _ ih =>
    cases hms' with
    | cons hm' hms' =>
      have hkey := Option.some.inj (hm.1.symm.trans hm'.1)
      have hvalue := Option.some.inj (hm.2.symm.trans hm'.2)
      rw [Prod.ext hkey hvalue, ih hms']

/-- The tree of an object of strings. -/
def ofFields (fs : List (String × String)) : Tree :=
  .object (fs.map fun f => (pieces f.1, .text (pieces f.2)))

theorem lists_ofFields (fs : List (String × String)) : (ofFields fs).Lists fs := by
  refine ⟨_, rfl, ?_⟩
  induction fs with
  | nil => exact .nil
  | cons f fs ih => exact .cons ⟨text?_pieces f.1, text?_pieces f.2⟩ ih

/-- The text of an object of strings is read as its members. -/
theorem ofText?_fields (fs : List (String × String)) :
    ofText? (Value.text (.object (fs.map fun f => (f.1, .string f.2)))) =
      some (ofFields fs) := by
  have hnone : ∀ n, ¬ Value.Holds (.object (fs.map fun f => (f.1, .string f.2))) n := by
    intro n hn
    cases hn with
    | member hm hn =>
      obtain ⟨f, -, rfl⟩ := List.mem_map.1 hm
      cases hn
  rw [Tree.ofText?_text fun n hn => absurd hn (hnone n), Value.tree, Value.memberTrees_eq_map,
    List.map_map]
  rfl

/-- A record is read from the members of an object of strings by their keys. -/
theorem fields?_ofFields (fields : List Record.Field) (fs : List (String × String)) :
    Record.fields? fields (ofFields fs) =
      Record.ofMembers? fields (fs.map fun f => (f.1, .text (pieces f.2))) := by
  have hkeyed : Record.keyed? (fs.map fun f => (pieces f.1, .text (pieces f.2))) =
      some (fs.map fun f => (f.1, .text (pieces f.2))) := by
    induction fs with
    | nil => rfl
    | cons f fs ih => simp [Record.keyed?, decodePieces_pieces, ih]
  rw [ofFields, Record.fields?, hkeyed, Option.bind_some]

end Json.Tree

namespace TokenService

open Appliance.Json

namespace Grant

/-- The text of a grant is read as the tree of its members. -/
theorem ofText?_text (g : Grant) : Tree.ofText? g.text = some (Tree.ofFields g.fields) :=
  Tree.ofText?_fields g.fields

/-- The members determine the grant. -/
theorem fields_injective {g g' : Grant} (h : g.fields = g'.fields) : g = g' := by
  cases g <;> cases g' <;> simp_all [fields]

/-- The text determines the grant. -/
theorem text_injective {g g' : Grant} (h : g.text = g'.text) : g = g' := by
  have hg := g.ofText?_text
  rw [h, g'.ofText?_text] at hg
  have hlists := Tree.lists_ofFields g.fields
  rw [← Option.some.inj hg] at hlists
  exact fields_injective (hlists.unique (Tree.lists_ofFields g'.fields))

/-- The members by which a grant is judged: what kind it is of, and its scope. -/
def judged : List Record.Field := [["grant_type"], ["scope"]]

end Grant

/-- **A request for a token is read as it was meant.**  The text that is sent for a user name, a
password and a scope is read as an object of exactly four strings: the kind of the grant, and
these three as they were given, in this order. The text for a certificate is read as an object of
the kind and the scope. So two grants with one text are the same grant; and who reads the kind
and the scope from a request finds those that were meant, whatever the name and the password
hold. -/
theorem grant_is_read_as_meant (appliance : Address) :
    (∀ username password scope, ∃ t,
      Tree.ofText? (tokenRequest appliance (.password username password scope)).body = some t ∧
      t.Lists [("grant_type", "password"), ("username", username), ("password", password),
        ("scope", scope)] ∧
      ∃ kind told, Record.fields? Grant.judged t = some [some kind, some told] ∧
        kind.text? = some "password" ∧ told.text? = some scope) ∧
    (∀ scope, ∃ t, Tree.ofText? (tokenRequest appliance (.certificate scope)).body = some t ∧
      t.Lists [("grant_type", "client_credentials"), ("scope", scope)] ∧
      ∃ kind told, Record.fields? Grant.judged t = some [some kind, some told] ∧
        kind.text? = some "client_credentials" ∧ told.text? = some scope) ∧
    ∀ g g', (tokenRequest appliance g).body = (tokenRequest appliance g').body → g = g' := by
  refine ⟨fun username password scope => ?_, fun scope => ?_, fun g g' h => Grant.text_injective h⟩
  · refine ⟨_, Grant.ofText?_text _, Tree.lists_ofFields _, _, _, ?_, Tree.text?_pieces _,
      Tree.text?_pieces _⟩
    rw [Tree.fields?_ofFields]
    rfl
  · refine ⟨_, Grant.ofText?_text _, Tree.lists_ofFields _, _, _, ?_, Tree.text?_pieces _,
      Tree.text?_pieces _⟩
    rw [Tree.fields?_ofFields]
    rfl

end TokenService

end Appliance

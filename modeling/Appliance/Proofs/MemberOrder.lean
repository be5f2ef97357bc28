import Appliance.Proofs.Json.Members
import Appliance.Hub.Record
import Appliance.TokenService.Body

/-!
# Answers are read without regard to the order of their members

What the appliance sends is read as records: a record of the event hub, the answer to a
handshake, an issued token, a refusal, a list of identity providers. Each of them is an object
whose members may come in any order and among which there may be any number of others that the
record does not know, as long as these are JSON; and the same goes for each provider of a list.

* `ReadsByName` — what is read of an object depends neither on the order of its members nor on
  those that no field goes by.
* `readsByName_of_fields?` — what is read of the fields alone is read in this way.
* `decoding_ignores_member_order` — **so is everything that the appliance answers.**
-/

namespace Appliance

open Appliance.Json

/-- What `decode` makes of an object depends neither on the order of its members nor on members
that no field goes by, nor does it depend on them whether it makes anything of it. -/
def ReadsByName {α : Type} (fields : List Record.Field) (decode : String → α) : Prop :=
  ∀ s t : String, Rearranged fields s.toList t.toList → decode t = decode s

/-- What is made of the fields alone is read by name. -/
theorem readsByName_of_fields? {α : Type} {fields : List Record.Field} {decode : String → α}
    (h : ∀ {s t : String} {u v : Tree}, Tree.ofText? s = some u → Tree.ofText? t = some v →
      Record.fields? fields v = Record.fields? fields u → decode t = decode s) :
    ReadsByName fields decode := by
  intro s t hst
  obtain ⟨u, v, hu, hv, hfields⟩ := hst.fields?_eq
  exact h (Tree.written_toList_iff.1 hu) (Tree.written_toList_iff.1 hv) hfields

namespace Hub

theorem Message.readsByName : ReadsByName fields Message.ofRecord? :=
  readsByName_of_fields? fun hu hv h => by
    simp only [ofRecord?, hu, hv, Option.bind_some, Raw.ofTree?, h]

theorem readsByName_checkHandshake : ReadsByName [["error"]] checkHandshake :=
  readsByName_of_fields? fun hu hv h => by
    simp only [checkHandshake, hu, hv, Option.bind_some, h]

end Hub

namespace TokenService

theorem IssuedBody.readsByName :
    ReadsByName [["access_token"], ["expires_in"]] IssuedBody.ofText? :=
  readsByName_of_fields? fun hu hv h => by
    simp only [ofText?, hu, hv, Option.bind_some, ofTree?, h]

theorem RefusalBody.readsByName :
    ReadsByName [["code", "Code"], ["message", "Message"], ["error"], ["error_description"]]
      RefusalBody.ofText? :=
  readsByName_of_fields? fun hu hv h => by
    simp only [ofText?, hu, hv, Option.bind_some, ofTree?, h]

namespace ProviderEntry

theorem ofTree?_eq {u v : Tree}
    (h : Record.fields? [["Id"], ["DisplayName"]] v = Record.fields? [["Id"], ["DisplayName"]] u) :
    ofTree? v = ofTree? u := by
  simp only [ofTree?, h]

theorem readsByName_listOfText? : ReadsByName [["Providers"]] listOfText? :=
  readsByName_of_fields? fun hu hv h => by
    simp only [listOfText?, hu, hv, Option.bind_some, listOfTree?, h]

/-- Providers are read one by one. -/
theorem mapM_eq {us vs : List Tree} (h : List.Forall₂ (fun u v => ofTree? v = ofTree? u) us vs) :
    vs.mapM ofTree? = us.mapM ofTree? := by
  induction h with
  | nil => rfl
  | cons huv _ ih => rw [List.mapM_cons, List.mapM_cons, huv, ih]

/-- Each provider of a list is read by name. -/
theorem listOfText?_within {s t : String}
    (h : Within "Providers" (ItemsChanged (Rearranged [["Id"], ["DisplayName"]]))
      s.toList t.toList) : listOfText? t = listOfText? s := by
  have hitem : ∀ {p q}, Rearranged [["Id"], ["DisplayName"]] p q →
      ∃ u v : Tree, u.Written p ∧ v.Written q ∧ ofTree? v = ofTree? u := by
    intro p q hpq
    obtain ⟨u, v, hu, hv, hfields⟩ := hpq.fields?_eq
    exact ⟨u, v, hu, hv, ofTree?_eq hfields⟩
  have hlist : ∀ {p q}, ItemsChanged (Rearranged [["Id"], ["DisplayName"]]) p q →
      ∃ u v : Tree, u.Written p ∧ v.Written q ∧ v.list? ofTree? = u.list? ofTree? := by
    intro p q hpq
    obtain ⟨us, vs, hus, hvs, hitems⟩ := hpq.related (R := fun u v => ofTree? v = ofTree? u)
      (fun u => rfl) hitem
    exact ⟨.array us, .array vs, hus, hvs, mapM_eq hitems⟩
  obtain ⟨u, v, hu, hv, hfields⟩ := h.fields?_related
    (R := fun u v => v.list? ofTree? = u.list? ofTree?) (fun u => rfl) hlist [["Providers"]]
  have hread : listOfTree? v = listOfTree? u := by
    simp only [listOfTree?]
    match Record.fields? [["Providers"]] u, Record.fields? [["Providers"]] v, hfields with
    | _, _, .none => rfl
    | _, _, .some .nil => rfl
    | _, _, .some (.cons .none .nil) => rfl
    | _, _, .some (.cons (.some huv) .nil) => exact huv
    | _, _, .some (.cons _ (.cons _ _)) => rfl
  rw [listOfText?, listOfText?, Tree.written_toList_iff.1 hu, Tree.written_toList_iff.1 hv,
    Option.bind_some, Option.bind_some, hread]

end ProviderEntry

end TokenService

open TokenService

/-- **Neither the order of the members of an answer matters, nor members that it does not know.**
A text is an object exactly if it is laid out in the texts of its members, and whether these come
in another order, or with others among them whose key is a string that no field goes by and whose
value is JSON, the same is read: of a record of the event hub, of the answer to a handshake, of an
issued token, of a refusal, of a list of providers and of each provider in it. -/
theorem decoding_ignores_member_order :
    (∀ s : String, (∃ ms, Tree.ofText? s = some (.object ms)) ↔ ∃ ps, ObjectOf ps s.toList) ∧
    ReadsByName Hub.fields Hub.Message.ofRecord? ∧
    ReadsByName [["error"]] Hub.checkHandshake ∧
    ReadsByName [["access_token"], ["expires_in"]] IssuedBody.ofText? ∧
    ReadsByName [["code", "Code"], ["message", "Message"], ["error"], ["error_description"]]
      RefusalBody.ofText? ∧
    ReadsByName [["Providers"]] ProviderEntry.listOfText? ∧
    ∀ s t : String,
      Within "Providers" (ItemsChanged (Rearranged [["Id"], ["DisplayName"]])) s.toList t.toList →
      ProviderEntry.listOfText? t = ProviderEntry.listOfText? s := by
  refine ⟨fun s => ?_, Hub.Message.readsByName, Hub.readsByName_checkHandshake,
    IssuedBody.readsByName, RefusalBody.readsByName, ProviderEntry.readsByName_listOfText?,
    fun s t => ProviderEntry.listOfText?_within⟩
  rw [exists_objectOf_iff]
  simp only [Tree.written_toList_iff]

/-- A server may add a tag to the reason why it refuses a handshake. -/
theorem tagged_refusal_is_read : Hub.checkHandshake
    "\x7b \"tag\" : [1],\"error\":\"no\"\x7d" = .error (.refused "no") := by
  have herror : MemberWritten ("error".toList.map .char, .text ("no".toList.map .char))
      "\"error\":\"no\"".toList := memberWritten_iff.2 (by decide)
  have htag : MemberWritten ("tag".toList.map .char, .array [.number ⟨false, ['1'], [], none⟩])
      " \"tag\" : [1]".toList := memberWritten_iff.2 (by decide)
  have hrearranged : Rearranged [["error"]] "\x7b\"error\":\"no\"\x7d".toList
      "\x7b \"tag\" : [1],\"error\":\"no\"\x7d".toList :=
    ⟨["\"error\":\"no\"".toList], [" \"tag\" : [1]".toList],
      [" \"tag\" : [1]".toList, "\"error\":\"no\"".toList],
      ⟨⟨[], _, [], rfl, by simp [Blank], rfl, by simp [Blank]⟩, by simpa using ⟨_, _, herror⟩⟩,
      by simpa using ⟨_, _, ⟨"tag", rfl, by decide⟩, htag⟩, .swap _ _ _,
      ⟨[], _, [], rfl, by simp [Blank], rfl, by simp [Blank]⟩⟩
  have hplain : Hub.checkHandshake "\x7b\"error\":\"no\"\x7d" = .error (.refused "no") := by
    decide +kernel
  exact (decoding_ignores_member_order.2.2.1 _ _ hrearranged).trans hplain

end Appliance

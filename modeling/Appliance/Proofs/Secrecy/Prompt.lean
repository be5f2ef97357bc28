import Appliance.Proofs.Secrecy.Alike
import Appliance.Prompt

/-!
# The prompt does not tell characters apart

A terminal shows a star for a character, whatever the character is. So it shows the same for two
passwords that are typed with the same kinds of keys; what it gives away is how many characters
are entered. A password that is piped in gives away, if it is not UTF-8, where its first fault
is.

* `EndsAlike`                    : parts of a program that end alike
* `Key.Alike`, `Entry.Alike`     : keys of one kind, and entries that are equally far
* **`Entry.run_alike`**          : what a terminal shows
* `Prompt.Alike`, `ofPipe_alike` : passwords that are piped in
-/

namespace Appliance

/-- Failures that `E` relates, or results that `S` relates. -/
inductive EndsAlike {ε α β : Type} (E : ε → ε → Prop) (S : α → β → Prop) :
    Except ε α → Except ε β → Prop where
  | error {e e' : ε} : E e e' → EndsAlike E S (.error e) (.error e')
  | ok {a : α} {b : β} : S a b → EndsAlike E S (.ok a) (.ok b)

theorem EndsAlike.of_exceptAlike {ε α β : Type} {E : ε → ε → Prop} (hE : ∀ e, E e e)
    {S : α → β → Prop} {x : Except ε α} {y : Except ε β} (h : ExceptAlike S x y) :
    EndsAlike E S x y := by
  cases h with
  | error e => exact .error (hE e)
  | ok h => exact .ok h

namespace Prompt

open Secret (Builder)

/-- What is entered is a text. -/
theorem isSome_text?_finish (b : Builder) : b.finish.text?.isSome = true := by
  rw [Builder.finish, Secret.text?, Secret.ofText, Octets.text?_ofText]
  rfl

theorem finish_alike (b b' : Builder) : b.finish.Alike b'.finish :=
  (isSome_text?_finish b).trans (isSome_text?_finish b').symm

/-! ## Typed -/

/-- The same key, or two characters. -/
inductive Key.Alike : Key → Key → Prop where
  | same (k : Key) : Alike k k
  | char (c d : Char) (released : Bool) :
    Alike ⟨.char c, false, released⟩ ⟨.char d, false, released⟩

/-- The same number of characters is entered, or the entry has ended in the same way. -/
inductive Entry.Alike : Entry → Entry → Prop where
  | going {b b' : Builder} : b.size = b'.size → Alike (.going b) (.going b')
  | finished {p p' : Secret} : p.Alike p' → Alike (.finished p) (.finished p')
  | cancelled : Alike .cancelled .cancelled

theorem Entry.Alike.refl (e : Entry) : e.Alike e := by
  cases e with
  | going b => exact .going rfl
  | finished p => exact .finished rfl
  | cancelled => exact .cancelled

theorem size_push (b : Builder) (c : Char) : (b.push .exact c).size = b.size + 1 := by
  simp [Builder.size, Builder.chars_push]

theorem size_pop (b : Builder) : (b.pop .exact).size = b.size - 1 := by
  simp [Builder.size, Builder.chars_pop]

theorem isEmpty_eq_size (b : Builder) : b.isEmpty = (b.size == 0) := by
  rw [Builder.isEmpty, Builder.size]
  cases b.chars <;> rfl

/-- Keys of one kind do the same to entries with the same number of characters. -/
theorem press_alike {b b' : Builder} (h : b.size = b'.size) {k k' : Key} (hk : k.Alike k') :
    (press b k).1.size = (press b' k').1.size ∧ (press b k).2 = (press b' k').2 := by
  have hpush : ∀ c d, (b.push .exact c).size = (b'.push .exact d).size := by
    intro c d
    rw [size_push, size_push, h]
  have hpop : (b.pop .exact).size = (b'.pop .exact).size := by rw [size_pop, size_pop, h]
  cases hk with
  | char c d released =>
    cases released with
    | true => exact ⟨h, rfl⟩
    | false => exact ⟨hpush c d, rfl⟩
  | same k =>
    obtain ⟨code, control, released⟩ := k
    cases released with
    | true => exact ⟨h, rfl⟩
    | false =>
      cases code with
      | enter => exact ⟨h, rfl⟩
      | escape => exact ⟨h, rfl⟩
      | other => exact ⟨h, rfl⟩
      | backspace =>
        simp only [press, isEmpty_eq_size, h]
        by_cases hempty : (b'.size == 0) = true
        · rw [if_pos hempty, if_pos hempty]
          exact ⟨h, rfl⟩
        · rw [if_neg hempty, if_neg hempty]
          exact ⟨hpop, rfl⟩
      | char c =>
        cases control with
        | false => exact ⟨hpush c c, rfl⟩
        | true =>
          simp only [press]
          by_cases hc : c = 'c'
          · simpa [hc] using h
          · simpa [hc] using h

namespace Entry

/-- The entries stay alike, and the terminal shows the same. -/
theorem step_alike {e e' : Entry} (h : e.Alike e') {k k' : Key} (hk : k.Alike k') :
    (e.step k).1.Alike (e'.step k').1 ∧ (e.step k).2 = (e'.step k').2 := by
  cases h with
  | finished hp => exact ⟨.finished hp, rfl⟩
  | cancelled => exact ⟨.cancelled, rfl⟩
  | @going b b' hsize =>
    obtain ⟨hnext, houtcome⟩ := press_alike hsize hk
    refine ⟨?_, congrArg echo houtcome⟩
    simp only [step, houtcome]
    cases (press b' k').2 with
    | submit => exact .finished (finish_alike _ _)
    | abort => exact .cancelled
    | appended => exact .going hnext
    | erased => exact .going hnext
    | ignored => exact .going hnext

/-- **A terminal shows the same** for passwords that are typed with the same kinds of keys. -/
theorem run_alike {e e' : Entry} (h : e.Alike e') {keys keys' : List Key}
    (hkeys : List.Forall₂ Key.Alike keys keys') :
    (e.run keys).1.Alike (e'.run keys').1 ∧ (e.run keys).2 = (e'.run keys').2 := by
  induction hkeys generalizing e e' with
  | nil => exact ⟨h, rfl⟩
  | cons hk _ ih =>
    obtain ⟨hstep, hshown⟩ := step_alike h hk
    obtain ⟨hrest, hmore⟩ := ih hstep
    exact ⟨hrest, congrArg₂ (· ++ ·) hshown hmore⟩

end Entry

/-! ## Piped in -/

variable (P : Secret → Secret → Prop) (Q : Text.Utf8.Fault → Text.Utf8.Fault → Prop)

/-- Inputs that hold a password in their first line: both are UTF-8 and without content, or both
are UTF-8 and `P` relates the passwords, or neither is UTF-8 and `Q` relates their first faults. -/
inductive Alike (i i' : Octets) : Prop where
  | nothing {s s' : String} : (firstLine i).text? = some s → (firstLine i').text? = some s' →
    withoutEnd s.toList = [] → withoutEnd s'.toList = [] → Alike i i'
  | text {s s' : String} : (firstLine i).text? = some s → (firstLine i').text? = some s' →
    withoutEnd s.toList ≠ [] → withoutEnd s'.toList ≠ [] →
    P (spell (withoutEnd s.toList)) (spell (withoutEnd s'.toList)) → Alike i i'
  | broken : (firstLine i).text? = none → (firstLine i').text? = none →
    Option.Rel Q (Text.Utf8.firstFault? (firstLine i)) (Text.Utf8.firstFault? (firstLine i')) →
      Alike i i'

/-- The same reason, or the first faults of two passwords, which `Q` relates. -/
inductive Fault.Alike : Fault → Fault → Prop where
  | same (f : Fault) : Alike f f
  | notText {f f' : Text.Utf8.Fault} : Q f f' → Alike (.notText f) (.notText f')

variable {P Q}

/-- The password of a first line with content. -/
theorem ofPipe_text {i : Octets} {s : String} (hs : (firstLine i).text? = some s)
    (hcontent : withoutEnd s.toList ≠ []) : ofPipe i = .ok (spell (withoutEnd s.toList)) := by
  cases hline : withoutEnd s.toList with
  | nil => exact absurd hline hcontent
  | cons c rest => simp only [ofPipe, hs, hline]

/-- What is piped in gives passwords or reasons that are alike. -/
theorem ofPipe_alike {i i' : Octets} (h : Alike P Q i i') :
    EndsAlike (Fault.Alike Q) P (ofPipe i) (ofPipe i') := by
  cases h with
  | nothing hs hs' hempty hempty' =>
    simp only [ofPipe, hs, hs', hempty, hempty']
    exact .error (.same _)
  | text hs hs' hcontent hcontent' hp =>
    rw [ofPipe_text hs hcontent, ofPipe_text hs' hcontent']
    exact .ok hp
  | broken hs hs' hfault =>
    simp only [ofPipe, hs, hs']
    generalize Text.Utf8.firstFault? (firstLine i) = x at hfault ⊢
    generalize Text.Utf8.firstFault? (firstLine i') = y at hfault ⊢
    cases hfault with
    | none => exact .error (.same _)
    | some hf => exact .error (.notText hf)

end Prompt

end Appliance

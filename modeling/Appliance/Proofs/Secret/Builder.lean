import Appliance.Secret.Builder
import Mathlib.Data.List.Basic

/-!
# A secret never outgrows its buffer

A buffer without room for what is added moves by itself, and its old place keeps a copy of the
secret. So it has to be shown that nothing is ever added to a buffer without room for it. How
much room a new buffer gets is up to the allocator, which grants at least what is asked for and
may grant differently each time: each edit has an allocator of its own here.

* `Append`, `Append.Fits` — characters that are added to a buffer, and room that suffices.
* `Builder.appends`, `Builder.copies` — all that edits add to buffers, and how often they copy.
* `Builder.discarded_edit` — what an edit leaves behind: the buffer that it replaces is wiped, and
  an append without room leaves one more.
* `Builder.Roomy` — the invariant: the content fits, and there is the room of a first buffer.
* **`Builder.secret_is_never_left_behind`** — every append of every run fits.
-/

namespace Appliance.Secret

open Buffer (width)

/-- Characters that are added to a buffer. -/
structure Append where
  buffer : Buffer
  added : List Char

namespace Append

variable {p : Append}

/-- The buffer has room for what is added. -/
def Fits (p : Append) : Prop := width p.buffer.chars + width p.added ≤ p.buffer.capacity

/-- What the buffer leaves behind. -/
def marks (a : Allocator) (p : Append) : List Disposal := (p.buffer.append a p.added).2

/-- A buffer leaves nothing behind exactly if it has room. -/
theorem marks_eq_nil_iff (a : Allocator) : p.marks a = [] ↔ p.Fits := by
  simp only [marks, Buffer.append, Fits]
  split <;> simp [*]

/-- A buffer with room stays as large as it is. -/
theorem capacity_append (a : Allocator) (h : p.Fits) :
    (p.buffer.append a p.added).1.capacity = p.buffer.capacity := by
  rw [Buffer.append]
  exact congrArg (fun r : Buffer × List Disposal => r.1.capacity) (if_pos h)

/-- A new buffer has room for what fits into the room that is asked for. -/
theorem fits_fresh (a : Allocator) {cs : List Char} {room : Nat} (h : width cs ≤ room) :
    (⟨⟨[], a.room room⟩, cs⟩ : Append).Fits := by
  have hgranted := a.le_room room
  simp only [Fits, width]
  omega

end Append

namespace Builder

/-! ## Edits -/

/-- A change of what is entered. -/
inductive Edit where
  | push (c : Char)
  | pop
deriving DecidableEq, Repr

/-- The builder after an edit. It asks for one new buffer at most. -/
def edit (a : Allocator) (b : Builder) : Edit → Builder
  | .push c => b.push a c
  | .pop => b.pop a

/-- The builder after edits, each with the allocator that serves it. -/
def run (b : Builder) : List (Allocator × Edit) → Builder
  | [] => b
  | (a, e) :: rest => (b.edit a e).run rest

/-- The content that an edit copies, and the new buffer that it is added to. -/
def copy? (a : Allocator) (b : Builder) : Edit → Option Append
  | .push c =>
    if b.buffer.capacity < width b.chars + c.utf8Size then
      some ⟨⟨[], a.room (grown b.buffer.capacity)⟩, b.chars⟩
    else none
  | .pop =>
    if b.chars.isEmpty then none
    else some ⟨⟨[], a.room b.buffer.capacity⟩, b.chars.dropLast⟩

/-- The character that an edit enters, and the buffer that it is added to. -/
def entered? (a : Allocator) (b : Builder) : Edit → Option Append
  | .push c => some ⟨(b.reserve a c).buffer, [c]⟩
  | .pop => none

/-- All that edits add to buffers. -/
def appends (b : Builder) : List (Allocator × Edit) → List Append
  | [] => []
  | (a, e) :: rest => (b.copy? a e).toList ++ (b.entered? a e).toList ++ (b.edit a e).appends rest

/-- How often edits copy the content into a new buffer. -/
def copies (b : Builder) : List (Allocator × Edit) → Nat
  | [] => 0
  | (a, e) :: rest => (b.copy? a e).toList.length + (b.edit a e).copies rest

variable {a : Allocator} {b : Builder}

/-- The present buffer is wiped when its content has been copied. -/
theorem discarded_replace (cs : List Char) (room : Nat) :
    (b.replace a cs room).discarded =
      b.discarded ++ ((⟨⟨[], a.room room⟩, cs⟩ : Append).marks a ++ [.wiped]) :=
  List.append_assoc ..

theorem discarded_reserve (c : Char) : (b.reserve a c).discarded =
    b.discarded ++ (b.copy? a (.push c)).toList.flatMap fun p => p.marks a ++ [.wiped] := by
  simp only [reserve, copy?]
  split
  · simpa using discarded_replace b.chars (grown b.buffer.capacity)
  · simp

/-- **What an edit leaves behind**, whatever room there is: the buffer whose content is copied is
wiped, and each append without room leaves a copy where it was. -/
theorem discarded_edit (a : Allocator) (b : Builder) (e : Edit) : (b.edit a e).discarded =
    b.discarded ++ ((b.copy? a e).toList.flatMap fun p => p.marks a ++ [.wiped]) ++
      (b.entered? a e).toList.flatMap (Append.marks a) := by
  cases e with
  | push c =>
    have hpush : (b.push a c).discarded =
        (b.reserve a c).discarded ++ (⟨(b.reserve a c).buffer, [c]⟩ : Append).marks a := rfl
    rw [edit, hpush, discarded_reserve]
    simp [entered?]
  | pop =>
    simp only [edit, pop, copy?, entered?]
    split
    · simp
    · simpa using discarded_replace b.chars.dropLast b.buffer.capacity

/-! ## Room -/

/-- The content fits, and there is at least the room of a first buffer. -/
structure Roomy (b : Builder) : Prop where
  fits : width b.chars ≤ b.buffer.capacity
  ample : initialCapacity ≤ b.buffer.capacity

theorem width_dropLast_le (cs : List Char) : width cs.dropLast ≤ width cs := by
  rcases List.eq_nil_or_concat cs with rfl | ⟨front, last, rfl⟩
  · exact Nat.le_refl _
  · simp [Buffer.width_append]

theorem roomy_empty (a : Allocator) : (empty a).Roomy :=
  ⟨Nat.zero_le _, a.le_room initialCapacity⟩

theorem capacity_replace {cs : List Char} {room : Nat} (h : width cs ≤ room) :
    (b.replace a cs room).buffer.capacity = a.room room :=
  Append.capacity_append a (Append.fits_fresh a h)

/-- Content that is copied into a buffer with room for it. -/
theorem roomy_replace {cs : List Char} {room : Nat} (hfits : width cs ≤ room)
    (hample : initialCapacity ≤ room) : (b.replace a cs room).Roomy := by
  have hgranted := a.le_room room
  refine ⟨?_, ?_⟩
  · rw [chars_replace, capacity_replace hfits]
    omega
  · rw [capacity_replace hfits]
    omega

/-- Doubling makes room for any character, because a first buffer has room for one. -/
theorem Roomy.lt_grown (h : b.Roomy) (c : Char) :
    width b.chars + c.utf8Size ≤ grown b.buffer.capacity := by
  have hsize := c.utf8Size_le_four
  have hfits := h.fits
  have hample : 64 ≤ b.buffer.capacity := h.ample
  simp only [grown]
  omega

/-- After room has been made, there is room for the character. -/
theorem Roomy.reserve (h : b.Roomy) (a : Allocator) (c : Char) :
    (b.reserve a c).Roomy ∧
      width b.chars + c.utf8Size ≤ (b.reserve a c).buffer.capacity := by
  have hgrown := h.lt_grown c
  unfold Builder.reserve
  split
  · refine ⟨roomy_replace (by omega) (Nat.le_max_right ..), ?_⟩
    have hgranted := a.le_room (grown b.buffer.capacity)
    rw [capacity_replace (by omega)]
    omega
  · next hroom => exact ⟨h, Nat.le_of_not_lt hroom⟩

theorem Roomy.entry_fits (h : b.Roomy) (a : Allocator) (c : Char) :
    (⟨(b.reserve a c).buffer, [c]⟩ : Append).Fits := by
  have hchars : (b.reserve a c).buffer.chars = b.chars := chars_reserve a b c
  rw [Append.Fits, hchars]
  exact (h.reserve a c).2

/-- Where there is room, all that an edit adds fits. -/
theorem Roomy.appends_fit (h : b.Roomy) (a : Allocator) (e : Edit) :
    (∀ p ∈ b.copy? a e, p.Fits) ∧ ∀ p ∈ b.entered? a e, p.Fits := by
  cases e with
  | push c =>
    refine ⟨?_, by rintro p ⟨⟩; exact h.entry_fits a c⟩
    simp only [copy?, Option.mem_def, Option.ite_none_right_eq_some]
    rintro p ⟨-, ⟨⟩⟩
    exact Append.fits_fresh a (Nat.le_trans (Nat.le_add_right ..) (h.lt_grown c))
  | pop =>
    refine ⟨?_, by rintro p ⟨⟩⟩
    simp only [copy?, Option.mem_def, Option.ite_none_left_eq_some]
    rintro p ⟨-, ⟨⟩⟩
    exact Append.fits_fresh a (Nat.le_trans (width_dropLast_le b.chars) h.fits)

/-- An edit leaves room. -/
theorem Roomy.edit (h : b.Roomy) (a : Allocator) (e : Edit) : (b.edit a e).Roomy := by
  cases e with
  | push c =>
    obtain ⟨hready, hroom⟩ := h.reserve a c
    have hcapacity : (b.push a c).buffer.capacity = (b.reserve a c).buffer.capacity :=
      Append.capacity_append a (h.entry_fits a c)
    refine ⟨?_, ?_⟩
    · rw [Builder.edit, chars_push, hcapacity, Buffer.width_append]
      exact hroom
    · rw [Builder.edit, hcapacity]
      exact hready.ample
  | pop =>
    rw [Builder.edit, pop]
    split
    · exact h
    · exact roomy_replace (Nat.le_trans (width_dropLast_le b.chars) h.fits) h.ample

/-- Where there is room, an edit leaves nothing behind but the wiped buffer that it has copied. -/
theorem Roomy.discarded_edit (h : b.Roomy) (a : Allocator) (e : Edit) : (b.edit a e).discarded =
    b.discarded ++ List.replicate (b.copy? a e).toList.length .wiped := by
  obtain ⟨hcopy, hentry⟩ := h.appends_fit a e
  rw [Builder.discarded_edit]
  have hentered : (b.entered? a e).toList.flatMap (Append.marks a) = [] := by
    cases hp : b.entered? a e with
    | none => rfl
    | some p => simp [(Append.marks_eq_nil_iff a).2 (hentry p hp)]
  have hcopied : ((b.copy? a e).toList.flatMap fun p => p.marks a ++ [.wiped]) =
      List.replicate (b.copy? a e).toList.length .wiped := by
    cases hp : b.copy? a e with
    | none => rfl
    | some p => simp [(Append.marks_eq_nil_iff a).2 (hcopy p hp)]
  rw [hentered, hcopied, List.append_nil]

/-! ## Runs -/

/-- Where there is room, it lasts for every run. -/
theorem Roomy.run (h : b.Roomy) (script : List (Allocator × Edit)) :
    (b.run script).Roomy ∧ (∀ p ∈ b.appends script, p.Fits) ∧
      (b.run script).discarded = b.discarded ++ List.replicate (b.copies script) .wiped := by
  induction script generalizing b with
  | nil => exact ⟨h, by simp [appends], by simp [Builder.run, copies]⟩
  | cons step rest ih =>
    obtain ⟨a, e⟩ := step
    obtain ⟨hroomy, hfit, hdiscarded⟩ := ih (h.edit a e)
    obtain ⟨hcopy, hentry⟩ := h.appends_fit a e
    refine ⟨hroomy, ?_, ?_⟩
    · simp only [appends, List.mem_append, Option.mem_toList]
      rintro p ((hp | hp) | hp)
      · exact hcopy p hp
      · exact hentry p hp
      · exact hfit p hp
    · rw [Builder.run, hdiscarded, h.discarded_edit a e, List.append_assoc,
        List.replicate_append_replicate, copies]

/-- **No copy of a secret is left behind.**  Let characters be entered and taken back in any
order, and let the allocator grant any room from what is asked for upwards, each time anew. Then
there is room for everything that is added to a buffer: for the content that is copied into a new
one and for each character that is entered. So no buffer moves by itself; all buffers but the
present one have been wiped, one for each copy; and the room never falls below that of a first
buffer. -/
theorem secret_is_never_left_behind (a : Allocator) (script : List (Allocator × Edit)) :
    (∀ p ∈ (empty a).appends script, p.Fits) ∧
    .leftBehind ∉ ((empty a).run script).discarded ∧
    ((empty a).run script).discarded = List.replicate ((empty a).copies script) .wiped ∧
    64 ≤ ((empty a).run script).buffer.capacity := by
  obtain ⟨hroomy, hfit, hdiscarded⟩ := (roomy_empty a).run script
  rw [show (empty a).discarded = [] from rfl, List.nil_append] at hdiscarded
  exact ⟨hfit, by simp [hdiscarded, List.mem_replicate], hdiscarded, hroomy.ample⟩

end Builder

end Appliance.Secret

import Appliance.Json.Record

/-!
# What a record says

A field of a record may be missing or null, and then says nothing.

* `Record.Says` — what a field says that may be missing or null.
* `Record.optional?_eq_some_iff` — what a field is read as is what it says.
-/

namespace Appliance.Json.Record

variable {α : Type} {read : Tree → Option α} {given : Option Tree} {v : Option α}

/-- What a field says that need not be given: nothing if it is missing or null, and otherwise
what its value is read as. -/
inductive Says (read : Tree → Option α) : Option Tree → Option α → Prop
  | missing : Says read none none
  | null : Says read (some (.word .null)) none
  | value {t : Tree} {a : α} (hnull : t ≠ .word .null) (h : read t = some a) :
      Says read (some t) (some a)

theorem optional?_eq_some_iff : optional? read given = some v ↔ Says read given v := by
  constructor
  · intro h
    simp only [optional?] at h
    split at h
    · cases h
      exact .missing
    · cases h
      exact .null
    · next t hnull =>
      obtain ⟨a, ha, rfl⟩ := Option.map_eq_some_iff.1 h
      exact .value hnull ha
  · rintro (_ | _ | ⟨hnull, h⟩)
    · rfl
    · rfl
    · simp only [optional?, h, Option.map_some]

end Appliance.Json.Record

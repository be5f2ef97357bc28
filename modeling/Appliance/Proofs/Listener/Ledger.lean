import Appliance.Listener.History
import Mathlib.Data.List.Induction

/-!
# What a history owes

A ledger keeps of a history what matters for the token that is presented next: how the
last attempt failed, and what has happened since the transport was called last.

* `Ledger.note`, `Ledger.noteAll` — one line more, and many.
* `Renewed` — a new token was asked for, and got.
* `noteAll_refusal` — **after a refusal the ledger says exactly what the lines since then
  say**: whether the token was renewed, which attempt began last, and how the one before
  it failed.
-/

namespace Appliance.Listener

/-! ## Lines of a history -/

namespace Entry

/-- Whether the transport is called. -/
def isOpening : Entry → Bool
  | .did (.openChannel _) => true
  | _ => false

/-- Whether the transport has answered. -/
def isOpened : Entry → Bool
  | .heard (.opened _) => true
  | _ => false

/-- Whether an attempt begins. -/
def isAttempt : Entry → Bool
  | .did (.attempt _ _) => true
  | _ => false

/-- The fault with which an attempt failed. -/
def fault? : Entry → Option Fault
  | .heard (.opened (.error f)) => some f
  | .heard (.refreshed (.error (.fault f))) => some f
  | _ => none

end Entry

/-- The fault with which the last attempt failed. -/
def lastFault? (h : List Entry) : Option Fault := h.reverse.findSome? Entry.fault?

/-- `Renewed h`: a new token was asked for in `h`, and got. -/
def Renewed (h : List Entry) : Prop :=
  ∃ earlier between later,
    h = earlier ++ .did .refresh :: (between ++ .heard (.refreshed (.ok ())) :: later)

/-- The transport refuses a token. -/
def refusal (f : Fault) : Entry := .heard (.opened (.error f))

/-! ## The ledger -/

/-- An attempt as it began. -/
structure Begun where
  /-- Whether it is the first of a start. -/
  first : Bool
  /-- What the session showed. -/
  seen : Glance
  /-- How the attempt before it failed. -/
  fault : Option Fault

/-- `a.Renews`: the attempt begins by asking for a new token. -/
def Begun.Renews (a : Begun) : Prop :=
  a.seen.secondsLeft = 0 ∨ (a.first = false ∧ a.fault.any Fault.isTokenRefused = true)

/-- What a history says about the token that is presented next. -/
structure Ledger where
  /-- How the last attempt failed, if it did. -/
  fault : Option Fault
  /-- Whether a new token was asked for since the transport was called last. -/
  asked : Bool
  /-- Whether a new token was got since then. -/
  renewed : Bool
  /-- The last attempt that began since then. -/
  begun : Option Begun
  /-- Whether the transport is still to answer. -/
  calling : Bool

namespace Ledger

/-- The ledger of an empty history. -/
def blank : Ledger := ⟨none, false, false, none, false⟩

/-- One line more. -/
def note (k : Ledger) : Entry → Ledger
  | .heard (.opened (.ok _)) => ⟨none, false, false, none, false⟩
  | .heard (.opened (.error f)) => ⟨some f, false, false, none, false⟩
  | .heard (.refreshed (.ok _)) => { k with renewed := k.renewed || k.asked }
  | .heard (.refreshed (.error (.fault f))) => { k with fault := some f }
  | .heard _ => k
  | .did (.attempt first seen) => { k with begun := some ⟨first, seen, k.fault⟩ }
  | .did .refresh => { k with asked := true }
  | .did (.openChannel _) => ⟨k.fault, false, false, none, true⟩
  | .did _ => k

/-- Many lines more. -/
def noteAll (k : Ledger) (h : List Entry) : Ledger := h.foldl note k

@[simp] theorem noteAll_nil (k : Ledger) : k.noteAll [] = k := rfl

@[simp] theorem noteAll_cons (k : Ledger) (e : Entry) (h : List Entry) :
    k.noteAll (e :: h) = (k.note e).noteAll h := rfl

theorem noteAll_append (k : Ledger) (h h' : List Entry) :
    k.noteAll (h ++ h') = (k.noteAll h).noteAll h' := List.foldl_append

end Ledger

/-! ## After a refusal -/

theorem renewed_snoc {h : List Entry} {e : Entry} :
    Renewed (h ++ [e]) ↔
      Renewed h ∨ (e = .heard (.refreshed (.ok ())) ∧ .did .refresh ∈ h) := by
  constructor
  · rintro ⟨earlier, between, later, he⟩
    rcases List.eq_nil_or_concat later with rfl | ⟨later, e', rfl⟩
    · -- the new token is got by the last line
      have he' : h ++ [e] = (earlier ++ .did .refresh :: between) ++ [.heard (.refreshed (.ok ()))] := by
        simpa using he
      obtain ⟨hh, hlast⟩ := List.append_inj' he' rfl
      refine Or.inr ⟨(List.cons.inj hlast).1, ?_⟩
      rw [hh]
      simp
    · have he' : h ++ [e] =
          (earlier ++ .did .refresh :: (between ++ .heard (.refreshed (.ok ())) :: later)) ++ [e'] := by
        simpa using he
      exact Or.inl ⟨earlier, between, later, (List.append_inj' he' rfl).1⟩
  · rintro (⟨earlier, between, later, rfl⟩ | ⟨rfl, hmem⟩)
    · exact ⟨earlier, between, later ++ [e], by simp⟩
    · obtain ⟨earlier, between, rfl⟩ := List.append_of_mem hmem
      exact ⟨earlier, between, [], by simp⟩

theorem lastFault?_snoc (h : List Entry) (e : Entry) :
    lastFault? (h ++ [e]) = e.fault?.or (lastFault? h) := by
  rw [lastFault?, List.reverse_append, List.reverse_singleton, List.singleton_append,
    List.findSome?_cons]
  cases e.fault? <;> rfl

/-- `h` ends with the attempt `a` as the last one that began, and `f` is the fault of a
refusal before `h`. -/
def LastBegun (f : Fault) (h : List Entry) (a : Begun) : Prop :=
  ∃ earlier later, h = earlier ++ .did (.attempt a.first a.seen) :: later ∧
    (∀ e ∈ later, e.isAttempt = false) ∧ a.fault = lastFault? (refusal f :: earlier)

theorem lastBegun_snoc_attempt {f : Fault} {h : List Entry} {first : Bool} {seen : Glance}
    {a : Begun} :
    LastBegun f (h ++ [.did (.attempt first seen)]) a ↔
      a = ⟨first, seen, lastFault? (refusal f :: h)⟩ := by
  constructor
  · rintro ⟨earlier, later, he, hlater, hfault⟩
    rcases List.eq_nil_or_concat later with rfl | ⟨later, e, rfl⟩
    · obtain ⟨rfl, hlast⟩ := List.append_inj' he rfl
      simp only [List.cons.injEq, Entry.did.injEq, Effect.attempt.injEq, and_true] at hlast
      obtain ⟨rfl, rfl⟩ := hlast
      rw [← hfault]
    · have he' : h ++ [.did (.attempt first seen)] =
          (earlier ++ .did (.attempt a.first a.seen) :: later) ++ [e] := by
        simpa using he
      obtain ⟨-, hlast⟩ := List.append_inj' he' rfl
      have hno := hlater e (by simp)
      rw [← (List.cons.inj hlast).1] at hno
      simp [Entry.isAttempt] at hno
  · rintro rfl
    exact ⟨h, [], rfl, by simp, rfl⟩

theorem lastBegun_snoc_of_not_attempt {f : Fault} {h : List Entry} {e : Entry} {a : Begun}
    (he : e.isAttempt = false) : LastBegun f (h ++ [e]) a ↔ LastBegun f h a := by
  constructor
  · rintro ⟨earlier, later, hh, hlater, hfault⟩
    rcases List.eq_nil_or_concat later with rfl | ⟨later, e', rfl⟩
    · obtain ⟨-, hlast⟩ := List.append_inj' hh rfl
      rw [(List.cons.inj hlast).1] at he
      simp [Entry.isAttempt] at he
    · have hh' : h ++ [e] = (earlier ++ .did (.attempt a.first a.seen) :: later) ++ [e'] := by
        simpa using hh
      exact ⟨earlier, later, (List.append_inj' hh' rfl).1,
        fun x hx => hlater x (by simp [hx]), hfault⟩
  · rintro ⟨earlier, later, rfl, hlater, hfault⟩
    refine ⟨earlier, later ++ [e], by simp, ?_, hfault⟩
    intro x hx
    rcases List.mem_append.1 hx with hx | hx
    · exact hlater x hx
    · rw [List.mem_singleton.1 hx]
      exact he

/-- `Tells f h k`: the ledger `k` says what the lines `h` after a refusal with the fault
`f` say. -/
structure Tells (f : Fault) (h : List Entry) (k : Ledger) : Prop where
  fault : k.fault = lastFault? (refusal f :: h)
  asked : k.asked = true ↔ .did .refresh ∈ h
  renewed : k.renewed = true ↔ Renewed h
  begun : ∀ a, k.begun = some a ↔ LastBegun f h a
  calling : k.calling = false

theorem tells_nil (f : Fault) : Tells f [] ⟨some f, false, false, none, false⟩ where
  fault := rfl
  asked := by simp
  renewed := by simp [Renewed]
  begun a := by simp [LastBegun]
  calling := rfl

/-- A line that neither calls the transport nor is its answer is told by the ledger. -/
theorem Tells.snoc {f : Fault} {h : List Entry} {k : Ledger} (hk : Tells f h k) {e : Entry}
    (ho : e.isOpening = false) (ha : e.isOpened = false) : Tells f (h ++ [e]) (k.note e) := by
  have hfault : ∀ k' : Ledger, k'.fault = e.fault?.or k.fault →
      k'.fault = lastFault? (refusal f :: (h ++ [e])) := by
    intro k' hk'
    rw [hk', hk.fault, ← List.cons_append, lastFault?_snoc]
  -- all that a line changes is what it is about
  have hsame : e.fault? = none → e ≠ .did .refresh → e ≠ .heard (.refreshed (.ok ())) →
      e.isAttempt = false → Tells f (h ++ [e]) k := by
    intro hf hr hok hatt
    exact {
      fault := hfault k (by rw [hf]; rfl)
      asked := by rw [hk.asked]; simp [hr.symm]
      renewed := by rw [hk.renewed, renewed_snoc]; simp [hok]
      begun := fun a => by rw [hk.begun, lastBegun_snoc_of_not_attempt hatt]
      calling := hk.calling }
  cases e with
  | heard i =>
    cases i with
    | refreshed result =>
      rcases result with (g | _) | _
      · exact {
          fault := hfault _ rfl
          asked := by simpa [Ledger.note] using hk.asked
          renewed := by simpa [Ledger.note, renewed_snoc] using hk.renewed
          begun := fun a => by
            rw [lastBegun_snoc_of_not_attempt rfl]
            exact hk.begun a
          calling := hk.calling }
      · exact hsame rfl (by simp) (by simp) rfl
      · exact {
          fault := hfault _ rfl
          asked := by simpa [Ledger.note] using hk.asked
          renewed := by simp [Ledger.note, renewed_snoc, hk.renewed, hk.asked]
          begun := fun a => by
            rw [lastBegun_snoc_of_not_attempt rfl]
            exact hk.begun a
          calling := hk.calling }
    | opened result => simp [Entry.isOpened] at ha
    | _ => exact hsame rfl (by simp) (by simp) rfl
  | did effect =>
    cases effect with
    | attempt first seen =>
      exact {
        fault := hfault _ rfl
        asked := by simpa [Ledger.note] using hk.asked
        renewed := by simpa [Ledger.note, renewed_snoc] using hk.renewed
        begun := fun a => by
          rw [lastBegun_snoc_attempt, ← hk.fault]
          simp [Ledger.note, eq_comm]
        calling := hk.calling }
    | refresh =>
      exact {
        fault := hfault _ rfl
        asked := by simp [Ledger.note]
        renewed := by simpa [Ledger.note, renewed_snoc] using hk.renewed
        begun := fun a => by
          rw [lastBegun_snoc_of_not_attempt rfl]
          exact hk.begun a
        calling := hk.calling }
    | openChannel token => simp [Entry.isOpening] at ho
    | _ => exact hsame rfl (by simp) (by simp) rfl

/-- **After a refusal the ledger says what the lines since then say.** -/
theorem noteAll_refusal (k : Ledger) (f : Fault) {h : List Entry}
    (hh : ∀ e ∈ h, e.isOpening = false ∧ e.isOpened = false) :
    Tells f h ((k.note (refusal f)).noteAll h) := by
  induction h using List.reverseRecOn with
  | nil => exact tells_nil f
  | append_singleton h e ih =>
    rw [Ledger.noteAll_append]
    obtain ⟨ho, ha⟩ := hh e (by simp)
    exact (ih fun x hx => hh x (by simp [hx])).snoc ho ha

end Appliance.Listener

/-!
# Dialogues

A computation that asks another party and goes on with its answers, as a tree:
it is done, or it asks and says for every answer how it goes on. Nothing in it
says when or how answers come.

* `Dialogue`          : asks of type `Q`, answers of type `A`, a result of type `α`
* `Dialogue.andThen`  : one dialogue after another
* `Dialogue.asks`     : what is asked, given the answers in order
* `Dialogue.result?`, `Dialogue.left` : what comes of it, and the answers it leaves
* `Dialogue.answered`, `Dialogue.asked` : the result and the questions, with a party that
  answers each question in one way
* `Dialogue.exchanges` : the questions with their answers, where answers are actions
-/

namespace Appliance

/-- A computation that asks another party. -/
inductive Dialogue (Q A α : Type) where
  | done (result : α)
  | ask (request : Q) (next : A → Dialogue Q A α)

namespace Dialogue

variable {Q A α β : Type}

/-- Goes on with the result. -/
def andThen (d : Dialogue Q A α) (f : α → Dialogue Q A β) : Dialogue Q A β :=
  match d with
  | done a => f a
  | ask request next => ask request fun answer => (next answer).andThen f

/-- Changes the result. -/
def map (f : α → β) (d : Dialogue Q A α) : Dialogue Q A β := d.andThen fun a => done (f a)

/-- What is asked when the answers come in the given order. -/
def asks : Dialogue Q A α → List A → List Q
  | done _, _ => []
  | ask request _, [] => [request]
  | ask request next, answer :: rest => request :: (next answer).asks rest

/-- The result when the answers come in the given order, if they suffice. -/
def result? : Dialogue Q A α → List A → Option α
  | done a, _ => some a
  | ask _ _, [] => none
  | ask _ next, answer :: rest => (next answer).result? rest

/-- The answers that are left when the answers come in the given order. -/
def left : Dialogue Q A α → List A → List A
  | done _, answers => answers
  | ask _ _, [] => []
  | ask _ next, answer :: rest => (next answer).left rest

/-- The result of a dialogue with a party that answers each question by `answer`. -/
def answered (answer : Q → A) : Dialogue Q A α → α
  | done a => a
  | ask request next => (next (answer request)).answered answer

/-- What is asked in a dialogue with a party that answers each question by `answer`. -/
def asked (answer : Q → A) : Dialogue Q A α → List Q
  | done _ => []
  | ask request next => request :: (next (answer request)).asked answer

/-- The questions of a dialogue with their answers, with a party that answers by actions. Each
question is asked when the one before it was answered. -/
def exchanges {m : Type → Type} [Monad m] (answer : Q → m A) : Dialogue Q A α → m (List (Q × A))
  | done _ => pure []
  | ask request next => do
    let reply ← answer request
    let rest ← (next reply).exchanges answer
    return (request, reply) :: rest

/-- A dialogue that asks nothing goes on at once. -/
theorem andThen_done (a : α) (f : α → Dialogue Q A β) : (done a : Dialogue Q A α).andThen f = f a :=
  rfl

/-- A dialogue after another asks what that one asks, and then goes on with its result. -/
theorem asks_andThen (d : Dialogue Q A α) (f : α → Dialogue Q A β) (answers : List A) :
    (d.andThen f).asks answers = d.asks answers ++
      ((d.result? answers).map fun a => (f a).asks (d.left answers)).getD [] := by
  induction d generalizing answers with
  | done a => rfl
  | ask request next ih =>
    cases answers with
    | nil => rfl
    | cons answer rest => exact congrArg (request :: ·) (ih answer rest)

/-- A dialogue after another has the result that it gets from the answers which are left. -/
theorem result?_andThen (d : Dialogue Q A α) (f : α → Dialogue Q A β) (answers : List A) :
    (d.andThen f).result? answers =
      (d.result? answers).bind fun a => (f a).result? (d.left answers) := by
  induction d generalizing answers with
  | done a => rfl
  | ask request next ih =>
    cases answers with
    | nil => rfl
    | cons answer rest => exact ih answer rest

/-- The result depends on the answers to what is asked and on nothing else. -/
theorem answered_congr {d : Dialogue Q A α} {answer answer' : Q → A}
    (h : ∀ q ∈ d.asked answer, answer' q = answer q) : d.answered answer' = d.answered answer := by
  induction d with
  | done a => rfl
  | ask request next ih =>
    obtain ⟨hfirst, hrest⟩ := List.forall_mem_cons.1 h
    rw [answered, answered, hfirst, ih _ hrest]

/-- The exchanges with a party that answers each question in one way. -/
theorem exchanges_id (d : Dialogue Q A α) (answer : Q → A) :
    d.exchanges (m := Id) answer = (d.asked answer).map fun q => (q, answer q) := by
  induction d with
  | done a => rfl
  | ask request next ih => exact congrArg ((request, answer request) :: ·) (ih (answer request))

end Dialogue

end Appliance

import Mathlib.Tactic

/-!
# Dialogues

A program that asks its surroundings and goes on with what they answer is the tree of
its questions.  `Keeps` says that an invariant holds all the way, wherever
the program is cut off, and what holds where it ends.
-/

namespace Dialogues

inductive Dialogue (Request : Type) (Answer : Request → Type) (α : Type) where
  | done (value : α)
  | ask (request : Request) (next : Answer request → Dialogue Request Answer α)

namespace Dialogue

variable {Request : Type} {Answer : Request → Type} {α β σ : Type}

protected def bind : Dialogue Request Answer α → (α → Dialogue Request Answer β) →
    Dialogue Request Answer β
  | done value, next => next value
  | ask request answered, next => ask request fun answer => (answered answer).bind next

instance : Monad (Dialogue Request Answer) where
  pure := done
  bind := Dialogue.bind

def request (question : Request) : Dialogue Request Answer (Answer question) :=
  ask question done

section

variable (serves : σ → (question : Request) → Answer question → σ → Prop)
  {program : Dialogue Request Answer α}

/-- The program may be cut off in this state. -/
inductive Reaches : Dialogue Request Answer α → σ → σ → Prop
  | here {program : Dialogue Request Answer α} {state : σ} : Reaches program state state
  | answered {question : Request} {next : Answer question → Dialogue Request Answer α}
      {answer : Answer question} {before after last : σ} :
      serves before question answer after → Reaches (next answer) after last →
      Reaches (ask question next) before last

/-- The program may come to its end in this state, with this result. -/
inductive Finishes : Dialogue Request Answer α → σ → α → σ → Prop
  | done {value : α} {state : σ} : Finishes (.done value) state value state
  | answered {question : Request} {next : Answer question → Dialogue Request Answer α}
      {answer : Answer question} {before after last : σ} {value : α} :
      serves before question answer after → Finishes (next answer) after value last →
      Finishes (ask question next) before value last

variable {serves}

theorem Finishes.reaches {state last : σ} {value : α}
    (finishes : Finishes serves program state value last) : Reaches serves program state last := by
  induction finishes with
  | done => exact .here
  | answered served _ ih => exact .answered served ih

theorem Finishes.bind {next : α → Dialogue Request Answer β} {state middle last : σ} {value : α}
    {result : β} (first : Finishes serves program state value middle)
    (second : Finishes serves (next value) middle result last) :
    Finishes serves (program >>= next) state result last := by
  induction first with
  | done => exact second
  | answered served _ ih => exact .answered served (ih second)

theorem Reaches.simulate {τ : Type} {others : τ → (question : Request) → Answer question → τ → Prop}
    {related : σ → τ → Prop} {state last : σ} {other : τ}
    (reaches : Reaches serves program state last) (start : related state other)
    (follows : ∀ before after other question answer, related before other →
      serves before question answer after → ∃ next, others other question answer next ∧
        related after next) :
    ∃ reached, Reaches others program other reached ∧ related last reached := by
  induction reaches generalizing other with
  | here => exact ⟨other, .here, start⟩
  | answered served _ ih =>
    obtain ⟨next, otherServed, goesOn⟩ := follows _ _ _ _ _ start served
    obtain ⟨reached, rest, ends⟩ := ih goesOn
    exact ⟨reached, .answered otherServed rest, ends⟩

end

section

variable (serves : σ → (question : Request) → Answer question → σ → Prop) (Invariant : σ → Prop)

/-- The invariant holds before every question and at the end, and `post` at the end. -/
def Keeps (post : α → σ → Prop) : Dialogue Request Answer α → σ → Prop
  | done value, state => Invariant state ∧ post value state
  | ask question next, state => Invariant state ∧
      ∀ answer after, serves state question answer after → (next answer).Keeps post after

variable {serves Invariant} {program : Dialogue Request Answer α} {state last : σ}
  {post other : α → σ → Prop}

theorem Keeps.now (keeps : program.Keeps serves Invariant post state) : Invariant state := by
  cases program <;> exact keeps.1

theorem Keeps.reaches (keeps : program.Keeps serves Invariant post state)
    (reaches : Reaches serves program state last) : Invariant last := by
  induction reaches with
  | here => exact keeps.now
  | answered served _ ih => exact ih (keeps.2 _ _ served)

theorem Keeps.finishes {value : α} (keeps : program.Keeps serves Invariant post state)
    (finishes : Finishes serves program state value last) : post value last := by
  induction finishes with
  | done => exact keeps.2
  | answered served _ ih => exact ih (keeps.2 _ _ served)

theorem Keeps.mono (keeps : program.Keeps serves Invariant post state)
    (weaker : ∀ value state, Invariant state → post value state → other value state) :
    program.Keeps serves Invariant other state := by
  induction program generalizing state with
  | done value => exact ⟨keeps.1, weaker value state keeps.1 keeps.2⟩
  | ask question next ih =>
    exact ⟨keeps.1, fun answer after served => ih answer (keeps.2 answer after served)⟩

protected theorem Keeps.pure {value : α} (now : Invariant state) (ends : post value state) :
    (pure value : Dialogue Request Answer α).Keeps serves Invariant post state :=
  ⟨now, ends⟩

theorem Keeps.bind {next : α → Dialogue Request Answer β} {final : β → σ → Prop}
    (keeps : program.Keeps serves Invariant post state)
    (goesOn : ∀ value state, Invariant state → post value state →
      (next value).Keeps serves Invariant final state) :
    (program >>= next).Keeps serves Invariant final state := by
  induction program generalizing state with
  | done value => exact goesOn value state keeps.1 keeps.2
  | ask question answered ih =>
    exact ⟨keeps.1, fun answer after served => ih answer (keeps.2 answer after served)⟩

protected theorem Keeps.request {question : Request} {post : Answer question → σ → Prop}
    (now : Invariant state)
    (answered : ∀ answer after, serves state question answer after →
      Invariant after ∧ post answer after) :
    (request question : Dialogue Request Answer _).Keeps serves Invariant post state :=
  ⟨now, answered⟩

protected theorem Keeps.request_bind {question : Request}
    {next : Answer question → Dialogue Request Answer β}
    {final : β → σ → Prop} (now : Invariant state)
    (answered : ∀ answer after, serves state question answer after →
      (next answer).Keeps serves Invariant final after) :
    (request question >>= next).Keeps serves Invariant final state :=
  ⟨now, answered⟩

/-- Programs are started one after the other, and each may be cut off anywhere. -/
inductive Restarts (serves : σ → (question : Request) → Answer question → σ → Prop)
    (admitted : Dialogue Request Answer α → Prop) : σ → σ → Prop
  | refl {state : σ} : Restarts serves admitted state state
  | session {first before last : σ} {program : Dialogue Request Answer α} :
      Restarts serves admitted first before → admitted program →
      Reaches serves program before last → Restarts serves admitted first last

theorem Restarts.keeps {admitted : Dialogue Request Answer α → Prop} {first : σ}
    (restarts : Restarts serves admitted first last) (starts : Invariant first)
    (keeps : ∀ program state, admitted program → Invariant state →
      program.Keeps serves Invariant (fun _ _ => True) state) : Invariant last := by
  induction restarts with
  | refl => exact starts
  | session _ isAdmitted reaches ih => exact (keeps _ _ isAdmitted ih).reaches reaches

end

end Dialogue

end Dialogues

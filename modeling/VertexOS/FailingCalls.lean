import Mathlib.Order.RelClasses

/-!
# Failing stateful calls

A call reads and changes a state and may stop with an error.  What it wrote
before the error stays written.
-/

namespace FailingCalls

/-- Calls over the state `σ` that return a value or stop with an error of `ε`. -/
abbrev Call (ε σ : Type) := ExceptT ε (StateM σ)

variable {ε ε' σ α β : Type}

/-- Run a call: its outcome, and the state it leaves behind either way. -/
def exec (call : Call ε σ α) (s : σ) : Except ε α × σ :=
  StateT.run (ExceptT.run call) s

def fromExcept (outcome : Except ε α) : Call ε σ α :=
  ExceptT.mk (pure outcome)

def fromOption (error : ε) (value : Option α) : Call ε σ α :=
  ExceptT.mk (pure (value.elim (.error error) .ok))

def require (error : ε) (condition : Prop) [Decidable condition] : Call ε σ Unit :=
  if condition then pure () else throw error

/-- Run a call and hand its outcome on as a value: the caller goes on after an error. -/
def attempt (call : Call ε σ α) : Call ε' σ (Except ε α) :=
  ExceptT.mk (Except.ok <$> ExceptT.run call)

/-- Run a call on one part of the state and put the part it leaves back. -/
def onPart {τ : Type} (part : σ → τ) (restore : τ → σ → σ) (call : Call ε τ α) : Call ε σ α :=
  ExceptT.mk fun s =>
    let ended := exec call (part s)
    (ended.1, restore ended.2 s)

/-- One call for each element of a list, in order, up to the first error. -/
def inTurn (call : α → Call ε σ Unit) : List α → Call ε σ Unit
  | [] => pure ()
  | first :: rest => do
    call first
    inTurn call rest

theorem outcome_bind_ok {first : Except ε α} {next : α → Except ε β} {result : β} :
    first >>= next = .ok result ↔ ∃ value, first = .ok value ∧ next value = .ok result := by
  cases first with
  | error | ok => simp [bind, Except.bind]

theorem mem_mapM {call : α → Except ε β} {list : List α} {results : List β}
    (ran : list.mapM call = .ok results) {result : β} :
    result ∈ results ↔ ∃ item ∈ list, call item = .ok result := by
  induction list generalizing results with
  | nil =>
    cases ran
    simp
  | cons first rest ih =>
    rw [List.mapM_cons] at ran
    obtain ⟨one, isOne, ran⟩ := outcome_bind_ok.mp ran
    obtain ⟨others, areOthers, ran⟩ := outcome_bind_ok.mp ran
    cases ran
    simp [ih areOthers, isOne, eq_comm]

variable {outcome : Except ε α}

theorem mapError_ok {change : ε → ε'} {value : α} :
    outcome.mapError change = .ok value ↔ outcome = .ok value := by
  cases outcome <;> simp [Except.mapError]

theorem mapError_error {change : ε → ε'} {failure : ε'} :
    outcome.mapError change = .error failure ↔
      ∃ error, outcome = .error error ∧ change error = failure := by
  cases outcome <;> simp [Except.mapError]

section

variable (s : σ)

@[simp]
theorem exec_pure (a : α) : exec (pure a : Call ε σ α) s = (.ok a, s) :=
  rfl

@[simp]
theorem exec_throw (error : ε) : exec (throw error : Call ε σ α) s = (.error error, s) :=
  rfl

@[simp]
theorem exec_get : exec (get : Call ε σ σ) s = (.ok s, s) :=
  rfl

@[simp]
theorem exec_set (s' : σ) : exec (set s' : Call ε σ PUnit) s = (.ok ⟨⟩, s') :=
  rfl

@[simp]
theorem exec_modify (change : σ → σ) :
    exec (modify change : Call ε σ PUnit) s = (.ok ⟨⟩, change s) :=
  rfl

@[simp]
theorem exec_fromExcept (outcome : Except ε α) :
    exec (fromExcept outcome : Call ε σ α) s = (outcome, s) :=
  rfl

@[simp]
theorem exec_fromOption (error : ε) (value : Option α) :
    exec (fromOption error value : Call ε σ α) s = (value.elim (.error error) .ok, s) :=
  rfl

@[simp]
theorem exec_require (error : ε) (condition : Prop) [Decidable condition] :
    exec (require error condition : Call ε σ Unit) s =
      (if condition then .ok () else .error error, s) := by
  by_cases holds : condition <;> simp [require, holds]

@[simp]
theorem exec_attempt (call : Call ε σ α) :
    exec (attempt call : Call ε' σ (Except ε α)) s = (.ok (exec call s).1, (exec call s).2) :=
  rfl

@[simp]
theorem exec_onPart {τ : Type} (part : σ → τ) (restore : τ → σ → σ) (call : Call ε τ α) :
    exec (onPart part restore call) s =
      ((exec call (part s)).1, restore (exec call (part s)).2 s) :=
  rfl

theorem exec_bind (call : Call ε σ α) (next : α → Call ε σ β) :
    exec (call >>= next) s = match exec call s with
      | (.ok a, s') => exec (next a) s'
      | (.error error, s') => (.error error, s') := by
  change (match exec call s with
    | (outcome, s') => StateT.run (ExceptT.bindCont next outcome) s') = _
  rcases exec call s with ⟨_ | _, _⟩ <;> rfl

theorem exec_bind_pure (call : Call ε σ α) (change : α → β) :
    exec (call >>= fun a => pure (change a)) s = ((exec call s).1.map change, (exec call s).2) := by
  rw [exec_bind]
  rcases exec call s with ⟨_ | _, _⟩ <;> rfl

theorem exec_ite (condition : Prop) [Decidable condition] (yes no : Call ε σ α) :
    exec (if condition then yes else no) s = if condition then exec yes s else exec no s := by
  split <;> rfl

end

theorem exec_bind_ok {call : Call ε σ α} {next : α → Call ε σ β} {s s' : σ} {b : β} :
    exec (call >>= next) s = (.ok b, s') ↔
      ∃ a middle, exec call s = (.ok a, middle) ∧ exec (next a) middle = (.ok b, s') := by
  rw [exec_bind]
  rcases exec call s with ⟨_ | a, middle⟩
  · simp
  · constructor
    · intro ended
      exact ⟨a, middle, rfl, ended⟩
    · rintro ⟨_, _, same, ended⟩
      cases same
      exact ended

/-! A call written with `do` and run to a good end, one line at a time. -/

section

variable {s s' : σ} {b : β}

theorem exec_get_bind (next : σ → Call ε σ β) : exec (get >>= next) s = exec (next s) s := by
  rw [exec_bind, exec_get]

theorem exec_set_bind (middle : σ) (next : PUnit → Call ε σ β) :
    exec (set middle >>= next) s = exec (next ⟨⟩) middle := by
  rw [exec_bind, exec_set]

theorem exec_modify_bind (change : σ → σ) (next : PUnit → Call ε σ β) :
    exec (modify change >>= next) s = exec (next ⟨⟩) (change s) := by
  rw [exec_bind, exec_modify]

theorem exec_require_bind (error : ε) (condition : Prop) [Decidable condition]
    (next : Unit → Call ε σ β) :
    exec (require error condition >>= next) s =
      if condition then exec (next ()) s else (.error error, s) := by
  rw [exec_bind, exec_require]
  by_cases holds : condition <;> simp [holds]

theorem exec_require_bind_ok {error : ε} {condition : Prop} [Decidable condition]
    {next : Unit → Call ε σ β} :
    exec (require error condition >>= next) s = (.ok b, s') ↔
      condition ∧ exec (next ()) s = (.ok b, s') := by
  rw [exec_bind, exec_require]
  by_cases holds : condition <;> simp [holds]

theorem exec_fromExcept_bind_ok {outcome : Except ε α} {next : α → Call ε σ β} :
    exec (fromExcept outcome >>= next) s = (.ok b, s') ↔
      ∃ a, outcome = .ok a ∧ exec (next a) s = (.ok b, s') := by
  rw [exec_bind, exec_fromExcept]
  cases outcome <;> simp

theorem exec_fromOption_bind_ok {error : ε} {value : Option α} {next : α → Call ε σ β} :
    exec (fromOption error value >>= next) s = (.ok b, s') ↔
      ∃ a, value = some a ∧ exec (next a) s = (.ok b, s') := by
  rw [exec_bind, exec_fromOption]
  cases value <;> simp

theorem exec_pure_ok {a : β} : exec (pure a : Call ε σ β) s = (.ok b, s') ↔ a = b ∧ s = s' := by
  simp

end

/-- Whatever its outcome, `call` takes `s` to a state that `R` relates to it. -/
def Evolves (R : σ → σ → Prop) (call : Call ε σ α) (s : σ) : Prop :=
  R s (exec call s).2

variable {R : σ → σ → Prop}

section

variable {s : σ}

protected theorem Evolves.modify {change : σ → σ} (related : R s (change s)) :
    Evolves R (modify change : Call ε σ PUnit) s :=
  related

protected theorem Evolves.set {s' : σ} (related : R s s') : Evolves R (set s' : Call ε σ PUnit) s :=
  related

protected theorem Evolves.get_bind {next : σ → Call ε σ β} (rest : Evolves R (next s) s) :
    Evolves R (get >>= next) s :=
  rest

protected theorem Evolves.ite {condition : Prop} [Decidable condition] {yes no : Call ε σ α}
    (whenYes : condition → Evolves R yes s) (whenNo : ¬condition → Evolves R no s) :
    Evolves R (if condition then yes else no) s := by
  split
  · exact whenYes ‹_›
  · exact whenNo ‹_›

protected theorem Evolves.attempt {call : Call ε σ α} (inner : Evolves R call s) :
    Evolves R (attempt call : Call ε' σ (Except ε α)) s :=
  inner

section

variable [IsTrans σ R]

protected theorem Evolves.bind {call : Call ε σ α} {next : α → Call ε σ β}
    (first : Evolves R call s)
    (rest : ∀ a middle, exec call s = (.ok a, middle) → Evolves R (next a) middle) :
    Evolves R (call >>= next) s := by
  unfold Evolves at first ⊢
  rw [exec_bind]
  rcases outcome : exec call s with ⟨_ | a, middle⟩
  · simpa [outcome] using first
  · rw [outcome] at first
    exact trans_of R first (rest a middle outcome)

protected theorem Evolves.modify_bind {change : σ → σ} {next : PUnit → Call ε σ β}
    (related : R s (change s)) (rest : Evolves R (next ⟨⟩) (change s)) :
    Evolves R (modify change >>= next) s :=
  trans_of R related rest

protected theorem Evolves.set_bind {s' : σ} {next : PUnit → Call ε σ β} (related : R s s')
    (rest : Evolves R (next ⟨⟩) s') : Evolves R (set s' >>= next) s :=
  trans_of R related rest

end

variable [Std.Refl R]

protected theorem Evolves.pure (a : α) : Evolves R (pure a : Call ε σ α) s :=
  refl_of R s

protected theorem Evolves.throw (error : ε) : Evolves R (throw error : Call ε σ α) s :=
  refl_of R s

protected theorem Evolves.fromExcept_bind {outcome : Except ε α} {next : α → Call ε σ β}
    (rest : ∀ a, outcome = .ok a → Evolves R (next a) s) :
    Evolves R (fromExcept outcome >>= next) s := by
  unfold Evolves
  rw [exec_bind, exec_fromExcept]
  cases outcome with
  | error error => exact refl_of R s
  | ok a => exact rest a rfl

protected theorem Evolves.fromOption_bind {error : ε} {value : Option α} {next : α → Call ε σ β}
    (rest : ∀ a, value = some a → Evolves R (next a) s) :
    Evolves R (fromOption error value >>= next) s := by
  cases value with
  | none => exact refl_of R s
  | some a => exact rest a rfl

protected theorem Evolves.require_bind {error : ε} {condition : Prop} [Decidable condition]
    {next : Unit → Call ε σ β} (rest : condition → Evolves R (next ()) s) :
    Evolves R (require error condition >>= next) s := by
  by_cases holds : condition
  · have passes : (require error condition : Call ε σ Unit) = pure () := if_pos holds
    rw [passes]
    exact rest holds
  · have stops : (require error condition : Call ε σ Unit) = throw error := if_neg holds
    rw [stops]
    exact refl_of R s

end

/-- `call` takes every state to one that `R` relates to it. -/
structure Always (R : σ → σ → Prop) (call : Call ε σ α) : Prop where
  evolves : ∀ s, Evolves R call s

section

protected theorem Always.ite {condition : Prop} [Decidable condition] {yes no : Call ε σ α}
    (whenYes : Always R yes) (whenNo : Always R no) : Always R (if condition then yes else no) :=
  ⟨fun s => .ite (fun _ => whenYes.evolves s) fun _ => whenNo.evolves s⟩

protected theorem Always.get_bind {next : σ → Call ε σ β} (rest : ∀ s, Evolves R (next s) s) :
    Always R (get >>= next) :=
  ⟨rest⟩

protected theorem Always.bind [IsTrans σ R] {call : Call ε σ α} {next : α → Call ε σ β}
    (first : Always R call) (rest : ∀ a, Always R (next a)) : Always R (call >>= next) :=
  ⟨fun s => .bind (first.evolves s) fun a middle _ => (rest a).evolves middle⟩

theorem Always.evolves_bind [IsTrans σ R] {call : Call ε σ α} {next : α → Call ε σ β} {s : σ}
    (first : Always R call) (rest : ∀ a middle, Evolves R (next a) middle) :
    Evolves R (call >>= next) s :=
  .bind (first.evolves s) fun a middle _ => rest a middle

protected theorem Always.modify {change : σ → σ} (related : ∀ s, R s (change s)) :
    Always R (modify change : Call ε σ PUnit) :=
  ⟨related⟩

protected theorem Always.attempt {call : Call ε σ α} (inner : Always R call) :
    Always R (attempt call : Call ε' σ (Except ε α)) :=
  ⟨inner.evolves⟩

variable [Std.Refl R]

protected theorem Always.pure (a : α) : Always R (pure a : Call ε σ α) :=
  ⟨fun s => refl_of R s⟩

protected theorem Always.throw (error : ε) : Always R (throw error : Call ε σ α) :=
  ⟨fun s => refl_of R s⟩

protected theorem Always.fromExcept (outcome : Except ε α) :
    Always R (fromExcept outcome : Call ε σ α) :=
  ⟨fun s => refl_of R s⟩

protected theorem Always.fromOption (error : ε) (value : Option α) :
    Always R (fromOption error value : Call ε σ α) :=
  ⟨fun s => refl_of R s⟩

protected theorem Always.get : Always R (get : Call ε σ σ) :=
  ⟨fun s => refl_of R s⟩

protected theorem Always.require (error : ε) (condition : Prop) [Decidable condition] :
    Always R (require error condition : Call ε σ Unit) := by
  refine ⟨fun s => ?_⟩
  unfold Evolves
  rw [exec_require]
  exact refl_of R s

protected theorem Always.inTurn_of_mem [IsTrans σ R] {call : α → Call ε σ Unit} {list : List α}
    (each : ∀ a ∈ list, Always R (call a)) : Always R (inTurn call list) := by
  induction list with
  | nil => exact .pure ()
  | cons first rest ih =>
    exact .bind (each first (List.mem_cons_self ..)) fun _ => ih fun a member =>
      each a (List.mem_cons_of_mem _ member)

protected theorem Always.inTurn [IsTrans σ R] {call : α → Call ε σ Unit}
    (each : ∀ a, Always R (call a)) (list : List α) : Always R (inTurn call list) :=
  .inTurn_of_mem fun a _ => each a

end

/-- A call that leaves the state as it is comes first. -/
protected theorem Evolves.reading_bind {R : σ → σ → Prop} [Std.Refl R] {call : Call ε σ α}
    {next : α → Call ε σ β} {s : σ} (reads : Always Eq call)
    (rest : ∀ a, exec call s = (.ok a, s) → Evolves R (next a) s) :
    Evolves R (call >>= next) s := by
  have same : s = (exec call s).2 := reads.evolves s
  unfold Evolves at rest ⊢
  rw [exec_bind]
  rcases outcome : exec call s with ⟨_ | a, after⟩
  · obtain rfl : s = after := by rw [outcome] at same; exact same
    exact refl_of R s
  · obtain rfl : s = after := by rw [outcome] at same; exact same
    exact rest a outcome

/-- `call` ends in `P`: a statement about its outcome together with the state it leaves. -/
def Ends (P : Except ε α × σ → Prop) (call : Call ε σ α) (s : σ) : Prop :=
  P (exec call s)

section

variable {P : Except ε β × σ → Prop} {s : σ}

protected theorem Ends.pure {b : β} (holds : P (.ok b, s)) : Ends P (pure b) s :=
  holds

protected theorem Ends.get_bind {next : σ → Call ε σ β} (rest : Ends P (next s) s) :
    Ends P (get >>= next) s :=
  rest

protected theorem Ends.set_bind {middle : σ} {next : PUnit → Call ε σ β}
    (rest : Ends P (next ⟨⟩) middle) : Ends P (set middle >>= next) s :=
  rest

protected theorem Ends.modify_bind {change : σ → σ} {next : PUnit → Call ε σ β}
    (rest : Ends P (next ⟨⟩) (change s)) : Ends P (modify change >>= next) s :=
  rest

protected theorem Ends.attempt_bind {call : Call ε' σ α} {next : Except ε' α → Call ε σ β}
    (rest : Ends P (next (exec call s).1) (exec call s).2) : Ends P (attempt call >>= next) s :=
  rest

protected theorem Ends.bind {call : Call ε σ α} {next : α → Call ε σ β}
    (fails : ∀ error after, exec call s = (.error error, after) → P (.error error, after))
    (rest : ∀ a after, exec call s = (.ok a, after) → Ends P (next a) after) :
    Ends P (call >>= next) s := by
  unfold Ends
  rw [exec_bind]
  rcases outcome : exec call s with ⟨error | a, after⟩
  · exact fails error after outcome
  · exact rest a after outcome

protected theorem Ends.fromExcept_bind {outcome : Except ε α} {next : α → Call ε σ β}
    (fails : ∀ error, outcome = .error error → P (.error error, s))
    (rest : ∀ a, outcome = .ok a → Ends P (next a) s) : Ends P (fromExcept outcome >>= next) s := by
  cases outcome with
  | error error => exact fails error rfl
  | ok a => exact rest a rfl

protected theorem Ends.fromOption_bind {error : ε} {value : Option α} {next : α → Call ε σ β}
    (fails : value = none → P (.error error, s)) (rest : ∀ a, value = some a → Ends P (next a) s) :
    Ends P (fromOption error value >>= next) s := by
  cases value with
  | none => exact fails rfl
  | some a => exact rest a rfl

protected theorem Ends.require_bind {error : ε} {condition : Prop} [Decidable condition]
    {next : Unit → Call ε σ β} (fails : ¬condition → P (.error error, s))
    (rest : condition → Ends P (next ()) s) : Ends P (require error condition >>= next) s := by
  unfold Ends at rest ⊢
  rw [exec_require_bind]
  split
  · exact rest ‹_›
  · exact fails ‹_›

protected theorem Ends.ite {condition : Prop} [Decidable condition] {yes no : Call ε σ β}
    (whenYes : condition → Ends P yes s) (whenNo : ¬condition → Ends P no s) :
    Ends P (if condition then yes else no) s := by
  split
  · exact whenYes ‹_›
  · exact whenNo ‹_›

end

def Lands (good : α → σ → Prop) (bad : ε → σ → Prop) :
    Except ε α × σ → Prop
  | (.ok a, after) => good a after
  | (.error error, after) => bad error after

section

variable {s : σ} {good : α → σ → Prop} {bad : ε → σ → Prop} {call : Call ε σ α}

/-- What a call is known to land in is all that what comes behind it needs to know. -/
protected theorem Ends.lands_bind {next : α → Call ε σ β} {P : Except ε β × σ → Prop}
    (first : Ends (Lands good bad) call s)
    (fails : ∀ error after, bad error after → P (.error error, after))
    (rest : ∀ a after, good a after → Ends P (next a) after) : Ends P (call >>= next) s := by
  refine .bind (fun error after outcome => fails error after ?_)
    fun a after outcome => rest a after ?_
  · unfold Ends at first
    rwa [outcome] at first
  · unfold Ends at first
    rwa [outcome] at first

protected theorem Ends.lands_attempt_bind {next : Except ε α → Call ε' σ β}
    {P : Except ε' β × σ → Prop} (first : Ends (Lands good bad) call s)
    (fails : ∀ error after, bad error after → Ends P (next (.error error)) after)
    (rest : ∀ a after, good a after → Ends P (next (.ok a)) after) :
    Ends P (attempt call >>= next) s := by
  refine .attempt_bind ?_
  unfold Ends at first
  rcases outcome : exec call s with ⟨error | a, after⟩ <;> rw [outcome] at first
  · exact fails error after first
  · exact rest a after first

protected theorem Ends.lands_imp {good' : α → σ → Prop} {bad' : ε → σ → Prop}
    (ends : Ends (Lands good bad) call s) (better : ∀ a after, good a after → good' a after)
    (worse : ∀ error after, bad error after → bad' error after) :
    Ends (Lands good' bad') call s := by
  unfold Ends at ends ⊢
  rcases outcome : exec call s with ⟨error | a, after⟩ <;> rw [outcome] at ends
  · exact worse error after ends
  · exact better a after ends

protected theorem Ends.lands_and {good' : α → σ → Prop} {bad' : ε → σ → Prop}
    (one : Ends (Lands good bad) call s) (other : Ends (Lands good' bad') call s) :
    Ends (Lands (fun a after => good a after ∧ good' a after)
      fun error after => bad error after ∧ bad' error after) call s := by
  unfold Ends at one other ⊢
  rcases outcome : exec call s with ⟨error | a, after⟩ <;> rw [outcome] at one other
  · exact ⟨one, other⟩
  · exact ⟨one, other⟩

/-- A call that succeeds lands in nothing bad. -/
protected theorem Ends.lands_of_ok {bad' : ε → σ → Prop} {a : α} (ends : Ends
    (Lands good bad) call s) (succeeds : (exec call s).1 = .ok a) :
    Ends (Lands good bad') call s := by
  unfold Ends at ends ⊢
  rcases outcome : exec call s with ⟨error | a, after⟩ <;> rw [outcome] at ends succeeds
  · cases succeeds
  · exact ends

end

theorem related_foldl {R : σ → σ → Prop} [IsTrans σ R] [Std.Refl R] {step : σ → α → σ}
    (each : ∀ s a, R s (step s a)) (list : List α) (s : σ) : R s (list.foldl step s) := by
  induction list generalizing s with
  | nil => exact refl_of R s
  | cons first rest ih => exact trans_of R (each s first) (ih (step s first))

def known (value : Option α) (message : String) : Except String α :=
  value.elim (.error message) .ok

def refuseIf (wrong : Prop) [Decidable wrong] (message : String) : Except String Unit :=
  if wrong then .error message else .ok ()

theorem known_ok {value : Option α} {message : String} {found : α} :
    known value message = .ok found ↔ value = some found := by
  cases value <;> simp [known]

theorem refuseIf_ok {wrong : Prop} [Decidable wrong] {message : String} {done : Unit} :
    refuseIf wrong message = .ok done ↔ ¬wrong := by
  unfold refuseIf
  split <;> simp_all

end FailingCalls

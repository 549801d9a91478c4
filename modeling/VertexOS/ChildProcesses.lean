import VertexOS.FailingCalls

/-!
# The child processes of the supervisor

The supervisor spawns a process for each service, and terminates its children when the activation
or one of them fails.  An activation is taken as any sequence of steps up to the first that fails.
-/

namespace VertexOS.ChildProcesses

open FailingCalls

structure ChildInfo where
  serviceId : String
  pid : Nat

/-- The recorded children, how many processes were spawned, and those whose exit was seen by
a poll or awaited after a kill. -/
structure ChildState where
  children : List ChildInfo := []
  spawned : Nat := 0
  exited : List Nat := []
  calls : Nat := 0

/-- Where the supervisor writes an event: between the spawn of a child and its record, while it
checks the health of one, while it waits for its children, or when it has terminated one. -/
inductive EventPlace where
  | start
  | health
  | wait
  | terminate
deriving DecidableEq

/-- Whether a spawn and the write of an event succeed, and what a poll finds: nothing, or an exit
and whether it was one with success. -/
structure ChildHost where
  spawns : Nat → Bool
  writes : EventPlace → Nat → Bool
  polls : Nat → Option Bool

abbrev ChildCall := Call String ChildState

/-- A service is started, with so many events; its health is checked after some polls; or the
activation stops, at an unknown service or a cycle. -/
inductive ActivationStep where
  | start (serviceId : String) (events : Nat)
  | ready (serviceId : String) (polls : Nat) (healthy : Bool)
  | refuse (error : String)

def ask : ChildCall Nat := do
  let state ← get
  set { state with calls := state.calls + 1 }
  return state.calls

def recordExit (pid : Nat) : ChildCall Unit :=
  modify fun state => { state with exited := pid :: state.exited }

section

variable (host : ChildHost)

def appendRuntimeEvent (place : EventPlace) : ChildCall Unit := do
  let call ← ask
  require "failed to append runtime event" (host.writes place call)

/-- A child is recorded once the events of its start are written. -/
def startService (serviceId : String) (events : Nat) : ChildCall Unit := do
  let call ← ask
  require s!"failed to start {serviceId}" (host.spawns call)
  let state ← get
  set { state with spawned := state.spawned + 1 }
  inTurn (fun _ => appendRuntimeEvent host .start) (List.range events)
  modify fun after => { after with children := after.children ++ [⟨serviceId, state.spawned⟩] }

def pollChild (place : EventPlace) (child : ChildInfo) : ChildCall (Option Bool) := do
  let state ← get
  if child.pid ∈ state.exited then pure none
  else do
    let call ← ask
    match host.polls call with
    | none => pure none
    | some success =>
      recordExit child.pid
      appendRuntimeEvent host place
      pure (some success)

def ensureChildAlive (serviceId : String) : ChildCall Unit := do
  let state ← get
  let child ← fromOption s!"service {serviceId} has no hosted child process"
    (state.children.find? fun child => child.serviceId = serviceId)
  let status ← pollChild host .health child
  require s!"service {serviceId} exited before readiness" (status = none)

def checkServiceHealth (serviceId : String) (polls : Nat) (healthy : Bool) : ChildCall Unit := do
  inTurn (fun _ => ensureChildAlive host serviceId) (List.range polls)
  require s!"service {serviceId} did not become ready" healthy

def ActivationStep.perform : ActivationStep → ChildCall Unit
  | .start serviceId events => startService host serviceId events
  | .refuse error => throw error
  | .ready serviceId polls healthy => do
    let result ← attempt (checkServiceHealth host serviceId polls healthy)
    appendRuntimeEvent host .health
    fromExcept result

/-- The outcome of the kill is not looked at; the wait ends when the child does. -/
def terminateChild (child : ChildInfo) : ChildCall Unit := do
  let state ← get
  if child.pid ∈ state.exited then pure ()
  else do
    recordExit child.pid
    appendRuntimeEvent host .terminate

def terminateRunning : ChildCall Unit := do
  let state ← get
  inTurn (terminateChild host) state.children

/-- Look at every child: whether one was found to have failed. -/
def pollChildren : List ChildInfo → ChildCall Bool
  | [] => pure false
  | child :: rest => do
    let status ← pollChild host .wait child
    let failed ← pollChildren rest
    pure (status = some false || failed)

/-- Wait until every child has exited; the answer is no if this takes more rounds. -/
def waitForChildren : (rounds : Nat) → ChildCall Bool
  | 0 => pure false
  | rounds + 1 => do
    let state ← get
    if state.children.all fun child => child.pid ∈ state.exited then pure true
    else do
      let failed ← pollChildren host state.children
      if failed then do
        terminateRunning host
        throw "a service exited with failure"
      else waitForChildren rounds

def activateServices (steps : List ActivationStep) (rounds : Nat) : ChildCall Bool := do
  match ← attempt (inTurn (fun step => step.perform host) steps) with
  | .ok () => waitForChildren host rounds
  | .error error => do
    terminateRunning host
    throw error

end

def AllExited (state : ChildState) : Prop :=
  ∀ pid < state.spawned, pid ∈ state.exited

def Recorded (state : ChildState) : Prop :=
  ∀ pid < state.spawned, ∃ child ∈ state.children, child.pid = pid

/-- No process was spawned, and exits that were seen stay seen. -/
def Polled (before after : ChildState) : Prop :=
  after.spawned = before.spawned ∧ after.children = before.children ∧
    before.exited ⊆ after.exited

instance : Std.Refl Polled := ⟨fun _ => ⟨rfl, rfl, fun _ => id⟩⟩

instance : IsTrans ChildState Polled := ⟨fun _ _ _ one two =>
  ⟨two.1.trans one.1, two.2.1.trans one.2.1, fun _ member => two.2.2 (one.2.2 member)⟩⟩

section Runs

variable {host : ChildHost} {state : ChildState} {place : EventPlace}

theorem Recorded.polled {after : ChildState} (recorded : Recorded state)
    (polled : Polled state after) : Recorded after := by
  unfold Recorded
  rwa [polled.1, polled.2.1]

theorem polled_ask : Always Polled ask :=
  ⟨fun _ => ⟨rfl, rfl, fun _ => id⟩⟩

theorem polled_recordExit (pid : Nat) : Always Polled (recordExit pid) :=
  ⟨fun _ => ⟨rfl, rfl, fun _ => List.mem_cons_of_mem pid⟩⟩

theorem polled_appendRuntimeEvent : Always Polled (appendRuntimeEvent host place) :=
  .bind polled_ask fun _ => .require ..

theorem polled_pollChild (child : ChildInfo) : Always Polled (pollChild host place child) := by
  refine .bind .get fun _ => .ite (.pure _) (.bind polled_ask fun call => ?_)
  cases host.polls call with
  | none => exact .pure _
  | some success =>
    exact .bind (polled_recordExit _) fun _ => .bind polled_appendRuntimeEvent fun _ => .pure _

theorem polled_checkServiceHealth (serviceId : String) (polls : Nat) (healthy : Bool) :
    Always Polled (checkServiceHealth host serviceId polls healthy) := by
  refine .bind (.inTurn (fun _ => .bind .get fun _ => ?_) _) fun _ => .require ..
  exact .bind (.fromOption ..) fun child => .bind (polled_pollChild child) fun _ => .require ..

def Records (before after : ChildState) : Prop :=
  Recorded before → Recorded after

instance : Std.Refl Records := ⟨fun _ => id⟩

instance : IsTrans ChildState Records := ⟨fun _ _ _ one two recorded => two (one recorded)⟩

theorem records_of_polled {α : Type} {call : ChildCall α} (polled : Always Polled call) :
    Always Records call :=
  ⟨fun state recorded => recorded.polled (polled.evolves state)⟩

variable (writes : ∀ place, place ≠ .health → ∀ call, host.writes place call)

include writes

theorem exec_appendRuntimeEvent (matters : place ≠ .health) :
    exec (appendRuntimeEvent host place) state =
      (.ok (), { state with calls := state.calls + 1 }) := by
  simp [appendRuntimeEvent, ask, exec_bind, writes place matters]

theorem exec_appendRuntimeEvents (state : ChildState) (events : List Nat) : ∃ calls,
    exec (inTurn (fun _ => appendRuntimeEvent host .start) events) state =
      (.ok (), { state with calls }) := by
  induction events generalizing state with
  | nil => exact ⟨_, rfl⟩
  | cons _ rest ih =>
    rw [inTurn, exec_bind, exec_appendRuntimeEvent writes (show EventPlace.start ≠ _ from nofun)]
    exact ih _

theorem records_startService (serviceId : String) (events : Nat) :
    Always Records (startService host serviceId events) := by
  refine .bind (records_of_polled polled_ask) fun _ => .bind (.require ..) fun _ => ?_
  refine ⟨fun state recorded pid below => ?_⟩
  obtain ⟨calls, written⟩ := exec_appendRuntimeEvents writes
    { state with spawned := state.spawned + 1 } (List.range events)
  rw [exec_get_bind, exec_set_bind, exec_bind, written] at below ⊢
  rcases Nat.lt_succ_iff_lt_or_eq.mp below with earlier | rfl
  · obtain ⟨child, member, same⟩ := recorded pid earlier
    exact ⟨child, List.mem_append_left _ member, same⟩
  · exact ⟨_, List.mem_append_right _ (List.mem_singleton_self _), rfl⟩

theorem records_perform (step : ActivationStep) : Always Records (step.perform host) := by
  cases step with
  | start serviceId events => exact records_startService writes serviceId events
  | refuse error => exact .throw error
  | ready serviceId polls healthy =>
    refine .bind (records_of_polled (.attempt (polled_checkServiceHealth ..))) fun _ => ?_
    exact .bind (records_of_polled polled_appendRuntimeEvent) fun _ => .fromExcept _

theorem exec_terminateChild (state : ChildState) (child : ChildInfo) : ∃ after,
    exec (terminateChild host child) state = (.ok (), after) ∧ Polled state after ∧
      child.pid ∈ after.exited := by
  by_cases seen : child.pid ∈ state.exited
  · exact ⟨state, by simp [terminateChild, exec_get_bind, seen], refl_of Polled state, seen⟩
  · refine ⟨{ state with exited := child.pid :: state.exited, calls := state.calls + 1 }, ?_,
      ⟨rfl, rfl, fun _ => List.mem_cons_of_mem child.pid⟩, List.mem_cons_self⟩
    rw [terminateChild, exec_get_bind, if_neg seen, recordExit, exec_modify_bind]
    exact exec_appendRuntimeEvent writes nofun

theorem exec_terminateAll (state : ChildState) (list : List ChildInfo) : ∃ after,
    exec (inTurn (terminateChild host) list) state = (.ok (), after) ∧ Polled state after ∧
      ∀ child ∈ list, child.pid ∈ after.exited := by
  induction list generalizing state with
  | nil => exact ⟨state, rfl, refl_of Polled state, by simp⟩
  | cons child rest ih =>
    obtain ⟨middle, first, polled, gone⟩ := exec_terminateChild writes state child
    obtain ⟨after, others, goesOn, all⟩ := ih middle
    refine ⟨after, ?_, trans_of Polled polled goesOn, ?_⟩
    · rw [inTurn, exec_bind, first]
      exact others
    · exact List.forall_mem_cons.mpr ⟨goesOn.2.2 gone, all⟩

theorem exec_terminateRunning (recorded : Recorded state) : ∃ after,
    exec (terminateRunning host) state = (.ok (), after) ∧ AllExited after := by
  obtain ⟨after, ran, polled, all⟩ := exec_terminateAll writes state state.children
  refine ⟨after, ran, fun pid below => ?_⟩
  obtain ⟨child, member, rfl⟩ := recorded pid (polled.1 ▸ below)
  exact all child member

theorem exec_pollChildren (state : ChildState) (list : List ChildInfo) : ∃ failed after,
    exec (pollChildren host list) state = (.ok failed, after) ∧ Polled state after := by
  induction list generalizing state with
  | nil => exact ⟨_, _, rfl, refl_of Polled state⟩
  | cons child rest ih =>
    have first : ∃ status after, exec (pollChild host .wait child) state = (.ok status, after) := by
      simp only [pollChild, exec_get_bind, exec_ite]
      split
      · exact ⟨_, _, rfl⟩
      · simp only [ask, exec_bind, exec_get, exec_set, exec_pure]
        cases host.polls state.calls with
        | none => exact ⟨_, _, rfl⟩
        | some success =>
          rw [recordExit, exec_modify_bind, exec_bind, exec_appendRuntimeEvent writes
            (show EventPlace.wait ≠ _ from nofun)]
          exact ⟨_, _, rfl⟩
    obtain ⟨status, middle, first⟩ := first
    have polled : Evolves Polled (pollChild host .wait child) state :=
      (polled_pollChild child).evolves state
    rw [Evolves, first] at polled
    obtain ⟨failed, after, others, goesOn⟩ := ih middle
    refine ⟨status = some false || failed, after, ?_, trans_of Polled polled goesOn⟩
    rw [pollChildren, exec_bind, first]
    simp only [exec_bind, others]
    rfl

theorem ends_waitForChildren (recorded : Recorded state) (rounds : Nat) :
    Ends (fun ended => ∀ error, ended.1 = .error error → AllExited ended.2)
      (waitForChildren host rounds) state := by
  induction rounds generalizing state with
  | zero => exact .pure (by simp)
  | succ rounds ih =>
    refine .get_bind (.ite (fun _ => .pure (by simp)) fun _ => ?_)
    obtain ⟨failed, middle, polls, polled⟩ := exec_pollChildren writes state state.children
    have stays := recorded.polled polled
    rw [Ends, exec_bind, polls]
    cases failed with
    | false => exact ih stays
    | true =>
      obtain ⟨after, ran, all⟩ := exec_terminateRunning writes stays
      simp only [if_true, exec_bind, ran]
      exact fun _ _ => all

theorem ends_activateServices (steps : List ActivationStep) (rounds : Nat) :
    Ends (fun ended => ∀ error, ended.1 = .error error → AllExited ended.2)
      (activateServices host steps rounds) {} := by
  have recorded : Recorded (exec (inTurn (fun step => step.perform host) steps) {}).2 :=
    (Always.inTurn (records_perform writes) steps).evolves {} fun pid below => by cases below
  refine .attempt_bind ?_
  cases (exec (inTurn (fun step => step.perform host) steps) {}).1 with
  | ok => exact ends_waitForChildren writes recorded rounds
  | error error =>
    obtain ⟨after, ran, all⟩ := exec_terminateRunning writes recorded
    rw [Ends, exec_bind, ran]
    exact fun _ _ => all

end Runs

/-- A host that fails all writes at one place, and on which every child exits at once. -/
def silentHost (place : EventPlace) : ChildHost :=
  ⟨fun _ => true, fun other _ => other ≠ place, fun _ => some true⟩

theorem spawned_child_lives_on :
    (exec (activateServices (silentHost .start) [.start "svc:a" 1] 0) {}).1 =
      .error "failed to append runtime event" ∧
    (exec (activateServices (silentHost .start) [.start "svc:a" 1] 0) {}).2.spawned = 1 ∧
    (exec (activateServices (silentHost .start) [.start "svc:a" 1] 0) {}).2.exited = [] := by
  exact ⟨rfl, rfl, rfl⟩

/-- At each of the other places a write that fails may leave a process behind. -/
theorem exists_orphan (place : EventPlace) (matters : place ≠ .health) :
    ∃ steps rounds error, (exec (activateServices (silentHost place) steps rounds) {}).1 =
      .error error ∧ ¬AllExited (exec (activateServices (silentHost place) steps rounds) {}).2 := by
  cases place with
  | start =>
    refine ⟨[.start "svc:a" 1], 0, _, rfl, fun all => ?_⟩
    cases all 0 Nat.one_pos
  | health => exact absurd rfl matters
  | wait =>
    refine ⟨[.start "svc:a" 0, .start "svc:b" 0], 1, _, rfl, fun all => ?_⟩
    exact absurd (all 1 Nat.one_lt_two) (by decide)
  | terminate =>
    refine ⟨[.start "svc:a" 0, .start "svc:b" 0, .refuse "unknown service"], 0, _, rfl, fun all => ?_⟩
    exact absurd (all 1 Nat.one_lt_two) (by decide)

/-- A failed activation leaves no process behind, exactly if the only events that can fail to be
written are those of the health checks. -/
theorem no_orphans_iff (mayFail : EventPlace → Prop) :
    (∀ host : ChildHost, (∀ place, ¬mayFail place → ∀ call, host.writes place call) →
      ∀ steps rounds error, (exec (activateServices host steps rounds) {}).1 = .error error →
        AllExited (exec (activateServices host steps rounds) {}).2) ↔
      ∀ place, mayFail place → place = .health := by
  constructor
  · intro keeps place fails
    by_contra matters
    obtain ⟨steps, rounds, error, failed, orphan⟩ := exists_orphan place matters
    refine orphan (keeps (silentHost place) (fun other never call => ?_) steps rounds error failed)
    exact decide_eq_true fun same => never (same ▸ fails)
  · intro only host writes steps rounds
    exact ends_activateServices (fun place matters => writes place (mt (only place) matters))
      steps rounds

end VertexOS.ChildProcesses

import Mathlib.Data.Set.Finite.Lattice
import Mathlib.Logic.Relation
import Mathlib.Order.WellFoundedSet
import VertexOS.ByteStrings

/-!
# How init starts the services of a generation

Init plans an order in which every service comes behind what it starts after, and starts the
services in that order.  All services share one readiness endpoint, so whoever was started may
send there what it likes.
-/

namespace VertexOS.InitActivation

open ByteStrings

/-- What a process starts after are places of the process table, what it requires and
provides are places of the endpoint table. -/
structure ManifestProcess where
  name : Bytes
  initial : Bool
  health : Bytes
  startAfter : List Nat
  requires : List Nat
  provides : List Nat

abbrev ManifestProcesses := List ManifestProcess

namespace ManifestProcesses

variable (processes : ManifestProcesses)

def processName (index : Nat) : Bytes :=
  processes[index]?.elim [] (·.name)

def processInitial (index : Nat) : Bool :=
  processes[index]?.any (·.initial)

def processHasHealth (index : Nat) : Bool :=
  processes[index]?.any fun process => process.health ≠ []

def startAfter (index : Nat) : List Nat :=
  processes[index]?.elim [] (·.startAfter)

def endpointHasProvider (endpoint : Nat) : Bool :=
  processes.any fun process => endpoint ∈ process.provides

def missingProvider : Bool :=
  processes.any fun process =>
    process.requires.any fun endpoint => !processes.endpointHasProvider endpoint

def dependenciesReady (planned : List Nat) (index : Nat) : Bool :=
  (processes.startAfter index).all fun dependency => dependency ∈ planned

/-- A place of the table is looked at: what is planned so far, and the order it came in. -/
def planProcess (plan : List Nat × List Nat) (index : Nat) : List Nat × List Nat :=
  if index ∉ plan.1 ∧ !processes.processInitial index ∧ processes.dependenciesReady plan.1 index then
    (index :: plan.1, plan.2 ++ [index])
  else plan

def planPass (plan : List Nat × List Nat) : List Nat × List Nat :=
  (List.range processes.length).foldl processes.planProcess plan

/-- Passes over the table until `count` services are planned or a pass finds none. -/
def planPasses (count : Nat) : (passes : Nat) → List Nat × List Nat → Option (List Nat)
  | passes, plan =>
    if count ≤ plan.2.length then some plan.2
    else match passes with
      | 0 => none
      | passes + 1 =>
        let next := processes.planPass plan
        if next.2.length = plan.2.length then none else planPasses count passes next

def initials : List Nat :=
  (List.range processes.length).filter (processes.processInitial ·)

def serviceCount : Nat :=
  processes.countP (!·.initial)

def activationPlan : Option (List Nat) :=
  if processes.missingProvider then none
  else processes.planPasses processes.serviceCount processes.serviceCount (processes.initials, [])

end ManifestProcesses

open ManifestProcesses

def readyName (message : Bytes) : Option Bytes :=
  let payloadLen := leNat ((message.drop 4).take 4)
  if 16 ≤ message.length ∧ leNat (message.take 2) = 2 ∧ leNat ((message.drop 2).take 2) = 1 ∧
      payloadLen ≤ message.length - 16 then
    some ((message.drop 16).take payloadLen)
  else none

inductive InitEvent where
  | started (process : Nat)
  | sent (process : Nat) (message : Bytes)
  | observedReady (process : Nat)
deriving DecidableEq

/-- Init between two steps: what it still has to start, whom it waits for, and the messages at
the readiness endpoint with their senders. -/
structure InitState where
  remaining : List Nat
  waiting : Option Nat := none
  queue : List (Nat × Bytes) := []
  failed : Bool := false
  log : List InitEvent := []

/-- What happens next.  Starting a service has many parts that may fail. -/
inductive InitChoice where
  | start (succeeds : Bool)
  | send (process : Nat) (message : Bytes)
  | receive
  | timeout
  | restart (process : Nat)

section

variable (processes : ManifestProcesses)

/-- One step, if it can be taken.  Whoever was started may send anything. -/
def InitState.step (state : InitState) : InitChoice → Option InitState
  | .start succeeds =>
    match state.failed, state.waiting, state.remaining with
    | false, none, process :: rest =>
      if succeeds then
        some { state with
          remaining := rest
          waiting := if processes.processHasHealth process then some process else none
          log := state.log ++ [.started process] }
      else some { state with failed := true }
    | _, _, _ => none
  | .send process message =>
    if .started process ∈ state.log then
      some { state with
        queue := state.queue ++ [(process, message)], log := state.log ++ [.sent process message] }
    else none
  | .receive =>
    match state.failed, state.waiting, state.queue with
    | false, some process, (_, message) :: rest =>
      if readyName message = some (processes.processName process) then
        some { state with
          waiting := none, queue := rest, log := state.log ++ [.observedReady process] }
      else some { state with failed := true, queue := rest }
    | _, _, _ => none
  | .timeout =>
    match state.failed, state.waiting with
    | false, some _ => some { state with failed := true }
    | _, _ => none
  | .restart process =>
    match state.failed, state.waiting, state.remaining with
    | false, none, [] =>
      if .started process ∈ state.log then
        some { state with log := state.log ++ [.started process] }
      else none
    | _, _, _ => none

inductive InitState.Moves (choice : InitChoice) (state : InitState) : InitState → Prop
  | starts {process : Nat} {rest : List Nat} (idle : state.waiting = none)
      (isNext : state.remaining = process :: rest) :
      Moves choice state { state with
        remaining := rest
        waiting := if processes.processHasHealth process then some process else none
        log := state.log ++ [.started process] }
  | sends {process : Nat} {message : Bytes} (isChoice : choice = .send process message)
      (isStarted : .started process ∈ state.log) :
      Moves choice state { state with
        queue := state.queue ++ [(process, message)], log := state.log ++ [.sent process message] }
  | observes {process sender : Nat} {message : Bytes} {rest : List (Nat × Bytes)}
      (waits : state.waiting = some process) (isFirst : state.queue = (sender, message) :: rest)
      (names : readyName message = some (processes.processName process)) :
      Moves choice state { state with
        waiting := none, queue := rest, log := state.log ++ [.observedReady process] }
  | fails {queue : List (Nat × Bytes)} (shorter : queue ⊆ state.queue) :
      Moves choice state { state with failed := true, queue }
  | restarts {process : Nat} (idle : state.waiting = none) (allStarted : state.remaining = [])
      (isStarted : .started process ∈ state.log) :
      Moves choice state { state with log := state.log ++ [.started process] }

theorem InitState.moves_of_step {state after : InitState} {choice : InitChoice}
    (taken : state.step processes choice = some after) : state.Moves processes choice after := by
  cases choice with
  | start succeeds =>
    simp only [InitState.step] at taken
    split at taken
    · rename_i process rest _ idle isNext
      split at taken
      · cases taken
        exact .starts idle isNext
      · cases taken
        exact .fails (List.Subset.refl _)
    · cases taken
  | send process message =>
    simp only [InitState.step] at taken
    split at taken
    · cases taken
      exact .sends rfl ‹_›
    · cases taken
  | receive =>
    simp only [InitState.step] at taken
    split at taken
    · rename_i process sender message rest _ waits isFirst
      split at taken
      · cases taken
        exact .observes waits isFirst ‹_›
      · cases taken
        exact .fails (isFirst ▸ List.subset_cons_self ..)
    · cases taken
  | timeout =>
    simp only [InitState.step] at taken
    split at taken
    · cases taken
      exact .fails (List.Subset.refl _)
    · cases taken
  | restart process =>
    simp only [InitState.step] at taken
    split at taken
    · rename_i _ idle allStarted
      split at taken
      · cases taken
        exact .restarts idle allStarted ‹_›
      · cases taken
    · cases taken

def InitState.run (state : InitState) (choices : List InitChoice) : Option InitState :=
  choices.foldlM (InitState.step processes) state

end

/-- Every service stands behind what it starts after, but for the initial process. -/
inductive Planned (processes : ManifestProcesses) : List Nat → Prop
  | nil : Planned processes []
  | concat {order : List Nat} {index : Nat} (earlier : Planned processes order)
      (inTable : index < processes.length)
      (behind : ∀ dependency ∈ processes.startAfter index,
        processes.processInitial dependency ∨ dependency ∈ order) :
      Planned processes (order ++ [index])

variable {processes : ManifestProcesses}

section

variable {order : List Nat}

/-- What is marked is the initial process and what is in the order, which has services, each
once. -/
structure PlanOk (processes : ManifestProcesses) (plan : List Nat × List Nat) : Prop where
  marked : ∀ index, index ∈ plan.1 ↔ index ∈ processes.initials ∨ index ∈ plan.2
  planned : Planned processes plan.2
  once : plan.2.Nodup
  services : ∀ index ∈ plan.2, processes.processInitial index = false

def Stuck (processes : ManifestProcesses) (planned : List Nat) : Prop :=
  ∀ index < processes.length, index ∉ planned → processes.processInitial index = false →
    ∃ dependency ∈ processes.startAfter index, dependency ∉ planned

variable {plan : List Nat × List Nat}

theorem PlanOk.planProcess {index : Nat} (ok : PlanOk processes plan)
    (inTable : index < processes.length) : PlanOk processes (processes.planProcess plan index) := by
  unfold ManifestProcesses.planProcess
  split
  · rename_i ready
    obtain ⟨unplanned, isService, behind⟩ := ready
    rw [ok.marked, not_or] at unplanned
    refine ⟨fun other => ?_, .concat ok.planned inTable fun dependency isDependency => ?_, ?_, ?_⟩
    · simp only [List.mem_cons, List.mem_append, List.not_mem_nil, ok.marked, or_false]
      rw [or_left_comm, or_comm (a := other = index)]
    · have isMarked := List.all_eq_true.mp behind dependency isDependency
      rw [decide_eq_true_eq, ok.marked] at isMarked
      exact isMarked.imp_left fun isInitial => (List.mem_filter.mp isInitial).2
    · rw [← List.concat_eq_append]
      exact ok.once.concat unplanned.2
    · intro other inOrder
      rcases List.mem_append.mp inOrder with isEarlier | isLast
      · exact ok.services other isEarlier
      · rw [List.mem_singleton.mp isLast]
        simpa using isService
  · exact ok

theorem PlanOk.foldl_planProcess {indices : List Nat} (ok : PlanOk processes plan)
    (inTable : ∀ index ∈ indices, index < processes.length) :
    let after := indices.foldl processes.planProcess plan
    PlanOk processes after ∧ (plan.2.length < after.2.length ∨ after = plan ∧
      ∀ index ∈ indices, index ∉ plan.1 → processes.processInitial index = false →
        ∃ dependency ∈ processes.startAfter index, dependency ∉ plan.1) := by
  induction indices generalizing plan with
  | nil => exact ⟨ok, .inr ⟨rfl, nofun⟩⟩
  | cons first rest ih =>
    obtain ⟨lastOk, progress⟩ := ih (ok.planProcess (inTable first (List.mem_cons_self ..)))
      fun index isLater => inTable index (List.mem_cons_of_mem _ isLater)
    refine ⟨lastOk, ?_⟩
    rw [List.foldl_cons]
    by_cases ready : first ∉ plan.1 ∧ !processes.processInitial first ∧
        processes.dependenciesReady plan.1 first
    · have taken : processes.planProcess plan first = (first :: plan.1, plan.2 ++ [first]) :=
        if_pos ready
      rw [taken] at progress ⊢
      have longer : plan.2.length < (plan.2 ++ [first]).length := by simp
      rcases progress with further | ⟨same, -⟩
      · exact .inl (longer.trans further)
      · rw [same]
        exact .inl longer
    · have passed : processes.planProcess plan first = plan := if_neg ready
      rw [passed] at progress ⊢
      refine progress.imp_right fun ⟨same, unready⟩ =>
        ⟨same, fun index isIndex unplanned isService => ?_⟩
      rcases List.mem_cons.mp isIndex with rfl | isLater
      · simpa [unplanned, isService, dependenciesReady] using ready
      · exact unready index isLater unplanned isService

theorem PlanOk.planPasses {count passes : Nat} (ok : PlanOk processes plan)
    (enough : count ≤ plan.2.length + passes) :
    ∃ last, PlanOk processes last ∧
      (processes.planPasses count passes plan = some last.2 ∧ count ≤ last.2.length ∨
        processes.planPasses count passes plan = none ∧ last.2.length < count ∧
          Stuck processes last.1) := by
  induction passes generalizing plan with
  | zero =>
    unfold planPasses
    rw [if_pos (show count ≤ plan.2.length from enough)]
    exact ⟨plan, ok, .inl ⟨rfl, enough⟩⟩
  | succ passes ih =>
    unfold planPasses
    split
    · exact ⟨plan, ok, .inl ⟨rfl, ‹_›⟩⟩
    rename_i few
    obtain ⟨nextOk, progress⟩ := ok.foldl_planProcess fun _ => List.mem_range.mp
    dsimp only
    split
    · rename_i same
      rcases progress with longer | ⟨-, stuck⟩
      · exact absurd same (Nat.ne_of_gt longer)
      · exact ⟨plan, ok, .inr ⟨rfl, Nat.lt_of_not_le few, fun index inTable =>
          stuck index (List.mem_range.mpr inTable)⟩⟩
    · rename_i different
      have longer : plan.2.length < (processes.planPass plan).2.length :=
        progress.resolve_right fun stuck => different (congrArg (·.2.length) stuck.1)
      exact ih nextOk (by omega)

theorem activationPlan_ends (provided : processes.missingProvider = false) :
    ∃ last, PlanOk processes last ∧
      (processes.activationPlan = some last.2 ∧ processes.serviceCount ≤ last.2.length ∨
        processes.activationPlan = none ∧ last.2.length < processes.serviceCount ∧
          Stuck processes last.1) := by
  unfold activationPlan
  rw [if_neg (by simp [provided])]
  refine PlanOk.planPasses ⟨by simp, .nil, List.nodup_nil, nofun⟩ ?_
  exact Nat.le_add_left ..

theorem planOk_activationPlan (isPlan : processes.activationPlan = some order) :
    processes.missingProvider = false ∧ processes.serviceCount ≤ order.length ∧
      ∃ marked, PlanOk processes (marked, order) := by
  have provided : processes.missingProvider = false := by
    by_contra missing
    simp [activationPlan, missing] at isPlan
  obtain ⟨last, ok, ⟨planned, enough⟩ | ⟨none, -⟩⟩ := activationPlan_ends provided
  · obtain rfl : last.2 = order := Option.some.inj (planned.symm.trans isPlan)
    exact ⟨provided, enough, last.1, ok⟩
  · cases none.symm.trans isPlan

theorem planned_activationPlan (isPlan : processes.activationPlan = some order) :
    Planned processes order := by
  obtain ⟨-, -, _, ok⟩ := planOk_activationPlan isPlan
  exact ok.planned

theorem Planned.behind {order before after : List Nat} {index dependency : Nat}
    (planned : Planned processes order) (split : order = before ++ index :: after)
    (isDependency : dependency ∈ processes.startAfter index) :
    processes.processInitial dependency ∨ dependency ∈ before := by
  induction planned generalizing after with
  | nil => simp at split
  | @concat order last _ _ behind ih =>
    rcases List.eq_nil_or_concat after with rfl | ⟨after, last', rfl⟩
    · obtain ⟨rfl, same⟩ := List.append_inj' split rfl
      obtain rfl := (List.cons.inj same).1
      exact behind dependency isDependency
    · have shorter : order ++ [last] = (before ++ index :: after) ++ [last'] := by simpa using split
      exact ih (List.append_inj' shorter rfl).1

theorem Planned.lt {index : Nat} (planned : Planned processes order) (inOrder : index ∈ order) :
    index < processes.length := by
  induction planned with
  | nil => cases inOrder
  | concat _ inTable _ ih =>
    rcases List.mem_append.mp inOrder with isEarlier | isLast
    · exact ih isEarlier
    · exact List.mem_singleton.mp isLast ▸ inTable

end

/-- Whenever a service is started, whatever it starts after and has a health check has itself
sent its ready message before. -/
def ReadinessHeeded (processes : ManifestProcesses) (log : List InitEvent) : Prop :=
  ∀ before process later, log = before ++ .started process :: later →
    ∀ dependency ∈ processes.startAfter process, processes.processHasHealth dependency →
      ∃ message, .sent dependency message ∈ before ∧
        readyName message = some (processes.processName dependency)

/-- Names tell the processes apart, and nothing waits for a health check of init itself. -/
structure Distinguishable (processes : ManifestProcesses) : Prop where
  names : ∀ one < processes.length, ∀ other < processes.length,
    processes.processName one = processes.processName other → one = other
  initial : ∀ process, ∀ dependency ∈ processes.startAfter process,
    processes.processInitial dependency → processes.processHasHealth dependency = false

/-- A ready message is sent only by the process that it names. -/
def InitChoice.Honest (processes : ManifestProcesses) : InitChoice → Prop
  | .send process message =>
    ∀ name, readyName message = some name → name = processes.processName process
  | _ => True

/-- The state of a run over `order`, of which `done` has been started. -/
structure UnderWay (processes : ManifestProcesses) (order done : List Nat) (state : InitState) :
    Prop where
  split : order = done ++ state.remaining
  started : ∀ process, .started process ∈ state.log → process ∈ done
  ready : ∀ process ∈ done, processes.processHasHealth process →
    state.waiting = some process ∨ .observedReady process ∈ state.log
  queued : ∀ entry ∈ state.queue, .sent entry.1 entry.2 ∈ state.log
  senders : ∀ process message, .sent process message ∈ state.log → .started process ∈ state.log
  own : ∀ process message name, .sent process message ∈ state.log →
    readyName message = some name → name = processes.processName process
  observed : ∀ process, .observedReady process ∈ state.log → ∃ sender message,
    .sent sender message ∈ state.log ∧ readyName message = some (processes.processName process)
  heeded : ReadinessHeeded processes state.log

section Run

variable {order done : List Nat} {state after : InitState}

theorem ReadinessHeeded.concat {log : List InitEvent} (heeded : ReadinessHeeded processes log)
    {event : InitEvent} (last : ∀ process, event = .started process →
      ∀ dependency ∈ processes.startAfter process, processes.processHasHealth dependency →
        ∃ message, .sent dependency message ∈ log ∧
          readyName message = some (processes.processName dependency)) :
    ReadinessHeeded processes (log ++ [event]) := by
  intro before process later split
  rcases List.eq_nil_or_concat later with rfl | ⟨later, event', rfl⟩
  · obtain ⟨rfl, same⟩ := List.append_inj' split rfl
    exact last process (List.cons.inj same).1
  · have shorter : log ++ [event] = (before ++ .started process :: later) ++ [event'] := by
      simpa using split
    exact heeded before process later (List.append_inj' shorter rfl).1

section

variable (underWay : UnderWay processes order done state) (planned : Planned processes order)
  (distinguishable : Distinguishable processes)
include underWay planned distinguishable

/-- While init waits for nobody, whoever has been started with a health check has said itself
that it is ready. -/
theorem UnderWay.sent_of_done (idle : state.waiting = none) {dependency : Nat}
    (isDone : dependency ∈ done) (hasHealth : processes.processHasHealth dependency) :
    ∃ message, .sent dependency message ∈ state.log ∧
      readyName message = some (processes.processName dependency) := by
  have inTable (process : Nat) (isDone : process ∈ done) : process < processes.length :=
    planned.lt (underWay.split ▸ List.mem_append_left _ isDone)
  have isObserved : .observedReady dependency ∈ state.log :=
    (underWay.ready dependency isDone hasHealth).resolve_left (by rw [idle]; exact nofun)
  obtain ⟨sender, message, isSent, names⟩ := underWay.observed dependency isObserved
  have senderDone := underWay.started sender (underWay.senders sender message isSent)
  obtain rfl : dependency = sender := distinguishable.names dependency (inTable _ isDone) sender
    (inTable _ senderDone) (underWay.own sender message _ isSent names)
  exact ⟨message, isSent, names⟩

theorem UnderWay.sent_of_next (idle : state.waiting = none) {process : Nat}
    {before later : List Nat} (split : order = before ++ process :: later) (earlier : before ⊆ done)
    {dependency : Nat} (isDependency : dependency ∈ processes.startAfter process)
    (hasHealth : processes.processHasHealth dependency) :
    ∃ message, .sent dependency message ∈ state.log ∧
      readyName message = some (processes.processName dependency) := by
  rcases planned.behind split isDependency with isInitial | isEarlier
  · rw [distinguishable.initial process dependency isDependency isInitial] at hasHealth
    cases hasHealth
  · exact underWay.sent_of_done planned distinguishable idle (earlier isEarlier) hasHealth

omit planned distinguishable in
theorem UnderWay.log_concat (last : InitEvent)
    (sends : ∀ process message, last = .sent process message → .started process ∈ state.log ∧
      ∀ name, readyName message = some name → name = processes.processName process)
    (observes : ∀ process, last = .observedReady process → ∃ sender message,
      .sent sender message ∈ state.log ∧ readyName message = some (processes.processName process)) :
    (∀ process message, .sent process message ∈ state.log ++ [last] →
      .started process ∈ state.log ++ [last]) ∧
    (∀ process message name, .sent process message ∈ state.log ++ [last] →
      readyName message = some name → name = processes.processName process) ∧
    ∀ process, .observedReady process ∈ state.log ++ [last] → ∃ sender message,
      .sent sender message ∈ state.log ++ [last] ∧
        readyName message = some (processes.processName process) := by
  simp only [List.mem_append, List.mem_singleton]
  refine ⟨fun process message isSent => .inl ?_, fun process message name isSent => ?_,
    fun process isObserved => ?_⟩
  · obtain isSent | isLast := isSent
    · exact underWay.senders process message isSent
    · exact (sends process message isLast.symm).1
  · obtain isSent | isLast := isSent
    · exact underWay.own process message name isSent
    · exact (sends process message isLast.symm).2 name
  · obtain ⟨sender, message, isSent, names⟩ : ∃ sender message, .sent sender message ∈ state.log ∧
        readyName message = some (processes.processName process) := by
      obtain isObserved | isLast := isObserved
      · exact underWay.observed process isObserved
      · exact observes process isLast.symm
    exact ⟨sender, message, .inl isSent, names⟩

theorem UnderWay.step {choice : InitChoice} (honest : choice.Honest processes)
    (moves : state.Moves processes choice after) : ∃ done, UnderWay processes order done after := by
  -- what the log has already stays in it
  have earlier {event last : InitEvent} (inLog : event ∈ state.log) :
      event ∈ state.log ++ [last] := List.mem_append_left _ inLog
  cases moves with
  | @starts process rest idle isNext =>
    have split : order = done ++ process :: rest := isNext ▸ underWay.split
    obtain ⟨senders, own, observed⟩ := underWay.log_concat (.started process) nofun nofun
    refine ⟨done ++ [process], ⟨by simp [split], ?_, ?_, fun entry inQueue =>
      earlier (underWay.queued entry inQueue), senders, own, observed, ?_⟩⟩
    · intro other isStarted
      have := underWay.started other
      simp only [List.mem_append, List.mem_singleton, InitEvent.started.injEq] at isStarted ⊢
      exact isStarted.imp_left this
    · intro other isDone hasHealth
      rcases List.mem_append.mp isDone with isDone | isLast
      · have isObserved := (underWay.ready other isDone hasHealth).resolve_left
          (by rw [idle]; exact nofun)
        exact .inr (earlier isObserved)
      · obtain rfl := List.mem_singleton.mp isLast
        exact .inl (if_pos hasHealth)
    · refine underWay.heeded.concat fun other isOther dependency isDependency hasHealth => ?_
      cases isOther
      exact underWay.sent_of_next planned distinguishable idle split (List.Subset.refl _)
        isDependency hasHealth
  | @sends process message isChoice isStarted =>
    subst isChoice
    obtain ⟨senders, own, observed⟩ :=
      underWay.log_concat (.sent process message)
        (by rintro _ _ ⟨⟩; exact ⟨isStarted, honest⟩) nofun
    refine ⟨done, ⟨underWay.split,
      fun other isOther => underWay.started other (by simpa using isOther),
      fun other isDone hasHealth => (underWay.ready other isDone hasHealth).imp_right earlier,
      ?_, senders, own, observed, underWay.heeded.concat nofun⟩⟩
    intro entry inQueue
    rcases List.mem_append.mp inQueue with inQueue | isLast
    · exact earlier (underWay.queued entry inQueue)
    · obtain rfl := List.mem_singleton.mp isLast
      exact List.mem_append_right _ (List.mem_singleton.mpr rfl)
  | @observes process sender message rest waits isFirst names =>
    have isSent : .sent sender message ∈ state.log :=
      underWay.queued (sender, message) (isFirst ▸ List.mem_cons_self ..)
    obtain ⟨senders, own, observed⟩ :=
      underWay.log_concat (.observedReady process) nofun
        (by rintro _ ⟨⟩; exact ⟨sender, message, isSent, names⟩)
    refine ⟨done, ⟨underWay.split,
      fun other isOther => underWay.started other (by simpa using isOther), ?_,
      fun entry inQueue =>
        earlier (underWay.queued entry (isFirst ▸ List.mem_cons_of_mem _ inQueue)),
      senders, own, observed, underWay.heeded.concat nofun⟩⟩
    intro other isDone hasHealth
    rcases underWay.ready other isDone hasHealth with isWaiting | isObserved
    · obtain rfl := Option.some.inj (waits.symm.trans isWaiting)
      exact .inr (List.mem_append_right _ (List.mem_singleton.mpr rfl))
    · exact .inr (earlier isObserved)
  | fails shorter =>
    exact ⟨done, ⟨underWay.split, underWay.started, underWay.ready,
      fun entry inQueue => underWay.queued entry (shorter inQueue), underWay.senders,
      underWay.own, underWay.observed, underWay.heeded⟩⟩
  | @restarts process idle allStarted isStarted =>
    have isDone := underWay.started process isStarted
    obtain ⟨senders, own, observed⟩ := underWay.log_concat (.started process) nofun nofun
    refine ⟨done, ⟨underWay.split, ?_, fun other isDone hasHealth =>
      (underWay.ready other isDone hasHealth).imp_right earlier, fun entry inQueue =>
      earlier (underWay.queued entry inQueue), senders, own, observed, ?_⟩⟩
    · intro other isOther
      rcases List.mem_append.mp isOther with isOther | isLast
      · exact underWay.started other isOther
      · cases List.mem_singleton.mp isLast
        exact isDone
    · refine underWay.heeded.concat fun other isOther dependency isDependency hasHealth => ?_
      cases isOther
      have allDone : order = done := by rw [underWay.split, allStarted, List.append_nil]
      obtain ⟨before, later, split⟩ := List.append_of_mem isDone
      exact underWay.sent_of_next planned distinguishable idle (allDone.trans split)
        (split ▸ List.subset_append_left ..) isDependency hasHealth

end

theorem underWay_run (planned : Planned processes order)
    (distinguishable : Distinguishable processes) (choices : List InitChoice)
    (honest : ∀ choice ∈ choices, choice.Honest processes)
    (underWay : ∃ done, UnderWay processes order done state)
    (isRun : state.run processes choices = some after) :
    ∃ done, UnderWay processes order done after := by
  induction choices generalizing state with
  | nil =>
    obtain rfl : state = after := Option.some.inj isRun
    exact underWay
  | cons first rest ih =>
    obtain ⟨middle, taken, isRun⟩ := Option.bind_eq_some_iff.mp isRun
    obtain ⟨done, underWay⟩ := underWay
    exact ih (fun choice isLater => honest choice (List.mem_cons_of_mem _ isLater))
      (underWay.step planned distinguishable (honest first (List.mem_cons_self ..))
        (InitState.moves_of_step processes taken)) isRun

theorem underWay_initial (processes : ManifestProcesses) (order : List Nat) :
    UnderWay processes order [] { remaining := order } :=
  ⟨rfl, nofun, nofun, nofun, nofun, nofun, nofun, by
    intro before process later split
    simp at split⟩

/-- If the processes send ready messages in their own names only, init starts a service only
behind the ready messages of everything it starts after. -/
theorem readinessHeeded_of_honest (distinguishable : Distinguishable processes)
    (isPlan : processes.activationPlan = some order) (choices : List InitChoice)
    (honest : ∀ choice ∈ choices, choice.Honest processes)
    (isRun : InitState.run processes { remaining := order } choices = some after) :
    ReadinessHeeded processes after.log := by
  obtain ⟨_, underWay⟩ := underWay_run (planned_activationPlan isPlan) distinguishable choices
    honest ⟨[], underWay_initial processes order⟩ isRun
  exact underWay.heeded

end Run

def readyMessage (name : String) : Bytes :=
  [2, 0, 1, 0] ++ leBytes 4 (utf8 name).length ++ List.replicate 8 0 ++ utf8 name

def service (name : String) (startAfter : List Nat) : ManifestProcess where
  name := utf8 name
  initial := false
  health := utf8 "ready"
  startAfter := startAfter
  requires := []
  provides := []

/-- Init, two services on their own, and one that starts after the second of them. -/
def threeServices : ManifestProcesses :=
  [{ name := utf8 "init", initial := true, health := [], startAfter := [], requires := []
     provides := [] },
    service "left" [], service "right" [], service "user" [2]]

/-- What the kernel asks of the process table of a manifest: one initial process, and
references to places of the tables. -/
def ManifestProcesses.Valid (processes : ManifestProcesses) (endpoints : Nat) : Prop :=
  processes.countP (·.initial) = 1 ∧
    ∀ process ∈ processes, (∀ dependency ∈ process.startAfter, dependency < processes.length) ∧
      (∀ endpoint ∈ process.requires, endpoint < endpoints) ∧
      ∀ endpoint ∈ process.provides, endpoint < endpoints

/-- The first service vouches for the second, which never says a word. -/
def forgedRun : List InitChoice :=
  [.start true, .send 1 (readyMessage "left"), .send 1 (readyMessage "right"), .receive,
    .start true, .receive, .start true]

theorem not_readinessHeeded_of_forged :
    threeServices.Valid 1 ∧ threeServices.activationPlan = some [1, 2, 3] ∧
      ∃ after, InitState.run threeServices { remaining := [1, 2, 3] } forgedRun = some after ∧
        ¬ReadinessHeeded threeServices after.log := by
  have plays : (InitState.run threeServices { remaining := [1, 2, 3] } forgedRun).map (·.log) =
      some ([.started 1, .sent 1 (readyMessage "left"), .sent 1 (readyMessage "right"),
        .observedReady 1, .started 2, .observedReady 2] ++ [.started 3]) := by
    decide +kernel
  obtain ⟨after, isRun, logged⟩ := Option.map_eq_some_iff.mp plays
  refine ⟨⟨by decide +kernel, by decide +kernel⟩, by decide +kernel, after, isRun, fun heeded => ?_⟩
  obtain ⟨message, isSent, -⟩ := heeded _ 3 [] logged 2 (by decide +kernel) (by decide +kernel)
  simp at isSent

theorem distinguishable_threeServices : Distinguishable threeServices := by
  refine ⟨by decide +kernel, fun process dependency isDependency isInitial => ?_⟩
  have inTable : dependency < 4 := by
    by_contra beyond
    have missing : threeServices[dependency]? = none :=
      List.getElem?_eq_none (Nat.le_of_not_lt beyond)
    simp [processInitial, missing] at isInitial
  have quiet : ∀ index < 4, threeServices.processInitial index →
      threeServices.processHasHealth index = false := by
    decide +kernel
  exact quiet dependency inTable isInitial

theorem readinessHeeded_threeServices :
    ∃ after, InitState.run threeServices { remaining := [1, 2, 3] }
        [.start true, .send 1 (readyMessage "left"), .receive, .start true,
          .send 2 (readyMessage "right"), .receive, .start true] = some after ∧
      ReadinessHeeded threeServices after.log := by
  obtain ⟨after, isRun⟩ : ∃ after, InitState.run threeServices { remaining := [1, 2, 3] }
      [.start true, .send 1 (readyMessage "left"), .receive, .start true,
        .send 2 (readyMessage "right"), .receive, .start true] = some after :=
    Option.isSome_iff_exists.mp (by decide +kernel)
  refine ⟨after, isRun, readinessHeeded_of_honest distinguishable_threeServices
    (by decide +kernel) _ ?_ isRun⟩
  have left : readyName (readyMessage "left") = some (threeServices.processName 1) := by
    decide +kernel
  have right : readyName (readyMessage "right") = some (threeServices.processName 2) := by
    decide +kernel
  simp only [List.mem_cons, List.not_mem_nil, or_false]
  rintro choice (rfl | rfl | rfl | rfl | rfl | rfl | rfl)
  all_goals try trivial
  · intro name names
    exact Option.some.inj (names.symm.trans left)
  · intro name names
    exact Option.some.inj (names.symm.trans right)

section

variable {order : List Nat} {endpoints : Nat}

def ManifestProcesses.services (processes : ManifestProcesses) : List Nat :=
  (List.range processes.length).filter fun index => !processes.processInitial index

def Precedes (processes : ManifestProcesses) (dependency index : Nat) : Prop :=
  dependency ∈ processes.startAfter index ∧ dependency ∈ processes.services ∧
    index ∈ processes.services

theorem length_services (processes : ManifestProcesses) :
    processes.services.length = processes.serviceCount := by
  unfold services serviceCount
  rw [← List.countP_eq_length_filter]
  induction processes with
  | nil => rfl
  | cons first rest ih =>
    rw [List.length_cons, List.range_succ_eq_map, List.countP_cons, List.countP_map,
      List.countP_cons, ← ih]
    rfl

theorem PlanOk.subset_services {plan : List Nat × List Nat} (ok : PlanOk processes plan) :
    plan.2 ⊆ processes.services := by
  intro index inOrder
  exact List.mem_filter.mpr
    ⟨List.mem_range.mpr (ok.planned.lt inOrder), by simp [ok.services index inOrder]⟩

theorem perm_services (isPlan : processes.activationPlan = some order) :
    order.Perm processes.services := by
  obtain ⟨-, enough, _, ok⟩ := planOk_activationPlan isPlan
  refine (ok.once.subperm ok.subset_services).perm_of_length_le ?_
  rwa [length_services]

theorem idxOf_lt_of_transGen (isPlan : processes.activationPlan = some order) {one other : Nat}
    (leads : Relation.TransGen (Precedes processes) one other) :
    order.idxOf one < order.idxOf other := by
  obtain ⟨-, -, _, ok⟩ := planOk_activationPlan isPlan
  have step {dependency index : Nat} (precedes : Precedes processes dependency index) :
      order.idxOf dependency < order.idxOf index := by
    obtain ⟨isDependency, isService, inServices⟩ := precedes
    obtain ⟨before, after, split⟩ :=
      List.append_of_mem ((perm_services isPlan).mem_iff.mpr inServices)
    have notInitial : processes.processInitial dependency = false := by
      simpa using (List.mem_filter.mp isService).2
    have behind : dependency ∈ before :=
      (ok.planned.behind split isDependency).resolve_left (by simp [notInitial])
    have once : index ∉ before := by
      have once := ok.once
      rw [split, List.nodup_middle, List.nodup_cons] at once
      exact fun inBefore => once.1 (List.mem_append_left _ inBefore)
    rw [split, List.idxOf_append_of_mem behind, List.idxOf_append_of_notMem once,
      List.idxOf_cons_self]
    exact List.idxOf_lt_length_of_mem behind
  induction leads with
  | single precedes => exact step precedes
  | tail _ precedes ih => exact ih.trans (step precedes)

theorem not_stuck (valid : processes.Valid endpoints)
    (acyclic : ∀ index, ¬Relation.TransGen (Precedes processes) index index)
    {plan : List Nat × List Nat} (ok : PlanOk processes plan)
    (few : plan.2.length < processes.serviceCount) : ¬Stuck processes plan.1 := by
  intro stuck
  let left := {index | index ∈ processes.services ∧ index ∉ plan.2}
  have finite : left.Finite := processes.services.finite_toSet.subset fun _ isLeft => isLeft.1
  have : IsStrictOrder Nat (Relation.TransGen (Precedes processes)) := { irrefl := acyclic }
  have remains : ∃ index, index ∈ left := by
    by_contra nothing
    have all : processes.services ⊆ plan.2 :=
      fun index isService => by_contra fun missing => nothing ⟨index, isService, missing⟩
    have once : processes.services.Nodup := List.nodup_range.filter _
    have shorter := (once.subperm all).length_le
    rw [length_services] at shorter
    omega
  obtain ⟨some, isLeft⟩ := remains
  obtain ⟨⟨index, isService, unplanned⟩, -, minimal⟩ :=
    (finite.wellFoundedOn (r := Relation.TransGen (Precedes processes))).has_min Set.univ
      ⟨⟨some, isLeft⟩, trivial⟩
  obtain ⟨inRange, notInitial⟩ := List.mem_filter.mp isService
  have inTable := List.mem_range.mp inRange
  obtain ⟨dependency, isDependency, unmarked⟩ := stuck index inTable
    (by simp_all [ok.marked, initials]) (by simpa using notInitial)
  rw [ok.marked, not_or] at unmarked
  have known : dependency < processes.length := by
    have listed : processes.startAfter index = (processes.get ⟨index, inTable⟩).startAfter := by
      simp [startAfter, inTable]
    rw [listed] at isDependency
    exact (valid.2 _ (List.get_mem ..)).1 dependency isDependency
  have alsoService : dependency ∈ processes.services := by
    refine List.mem_filter.mpr ⟨List.mem_range.mpr known, ?_⟩
    by_contra isInitial
    exact unmarked.1 (List.mem_filter.mpr ⟨List.mem_range.mpr known, by simpa using isInitial⟩)
  exact minimal ⟨dependency, alsoService, unmarked.2⟩ trivial
    (.single ⟨isDependency, alsoService, isService⟩)

/-- The services of an accepted manifest have a plan exactly if every endpoint that is required
is provided and no services start after each other in a circle.  A plan has every service once,
each behind what it starts after. -/
theorem activationPlan_correct (valid : processes.Valid endpoints) :
    ((∃ order, processes.activationPlan = some order) ↔
      (∀ process ∈ processes, ∀ endpoint ∈ process.requires,
        ∃ provider ∈ processes, endpoint ∈ provider.provides) ∧
      ∀ index, ¬Relation.TransGen (Precedes processes) index index) ∧
    ∀ order, processes.activationPlan = some order → order.Perm processes.services ∧
      ∀ before index after, order = before ++ index :: after →
        ∀ dependency ∈ processes.startAfter index,
          processes.processInitial dependency ∨ dependency ∈ before := by
  have provided : processes.missingProvider = false ↔
      ∀ process ∈ processes, ∀ endpoint ∈ process.requires,
        ∃ provider ∈ processes, endpoint ∈ provider.provides := by
    simp [missingProvider, endpointHasProvider]
  rw [← provided]
  refine ⟨⟨?_, ?_⟩, fun order isPlan => ⟨perm_services isPlan, fun before index after split => ?_⟩⟩
  · rintro ⟨order, isPlan⟩
    exact ⟨(planOk_activationPlan isPlan).1,
      fun index leads => Nat.lt_irrefl _ (idxOf_lt_of_transGen isPlan leads)⟩
  · rintro ⟨provided, acyclic⟩
    obtain ⟨last, ok, ⟨planned, -⟩ | ⟨-, few, stuck⟩⟩ := activationPlan_ends provided
    · exact ⟨last.2, planned⟩
    · exact absurd stuck (not_stuck valid acyclic ok few)
  · exact fun _ => (planned_activationPlan isPlan).behind split

theorem activationPlan_threeServices :
    threeServices.Valid 1 ∧ ∀ order, threeServices.activationPlan = some order →
      order.Perm [1, 2, 3] := by
  have valid : threeServices.Valid 1 := ⟨by decide +kernel, by decide +kernel⟩
  exact ⟨valid, fun order isPlan => ((activationPlan_correct valid).2 order isPlan).1⟩

variable {state after : InitState}

def startedIn (log : List InitEvent) : List Nat :=
  log.filterMap fun
    | .started process => some process
    | _ => none

/-- What was started is what init has done of the plan, or all of it with restarts. -/
structure Follows (processes : ManifestProcesses) (order : List Nat) (state : InitState) :
    Prop where
  planned : Planned processes (startedIn state.log)
  inOrder : order = startedIn state.log ++ state.remaining ∨
    state.remaining = [] ∧ order <+: startedIn state.log

theorem Planned.again {index : Nat} (planned : Planned processes order) (inOrder : index ∈ order) :
    Planned processes (order ++ [index]) := by
  obtain ⟨before, later, split⟩ := List.append_of_mem inOrder
  refine .concat planned (planned.lt inOrder) fun dependency isDependency => ?_
  exact (planned.behind split isDependency).imp_right fun isBefore =>
    split ▸ List.mem_append_left _ isBefore

theorem startedIn_concat (log : List InitEvent) (process : Nat) :
    startedIn (log ++ [.started process]) = startedIn log ++ [process] := by
  simp [startedIn]

theorem Follows.step {choice : InitChoice} (isPlan : Planned processes order)
    (follows : Follows processes order state) (moves : state.Moves processes choice after) :
    Follows processes order after := by
  obtain ⟨planned, inOrder⟩ := follows
  cases moves with
  | @starts process rest _ isNext =>
    obtain split : order = startedIn state.log ++ process :: rest := by simpa [isNext] using inOrder
    refine ⟨?_, .inl (by rw [startedIn_concat, split, List.append_assoc, List.singleton_append])⟩
    rw [startedIn_concat]
    exact .concat planned (isPlan.lt (by simp [split])) fun _ => isPlan.behind split
  | sends | observes => constructor <;> simpa [startedIn]
  | fails => exact ⟨planned, inOrder⟩
  | @restarts process _ allStarted isStarted =>
    have all : order <+: startedIn state.log := by
      rcases inOrder with whole | ⟨-, all⟩
      · rw [whole, allStarted, List.append_nil]
      · exact all
    refine ⟨?_, .inr ⟨allStarted, ?_⟩⟩ <;> rw [startedIn_concat]
    · exact planned.again (List.mem_filterMap.mpr ⟨_, isStarted, rfl⟩)
    · exact all.trans (List.prefix_append ..)

theorem Follows.run (isPlan : Planned processes order) (choices : List InitChoice)
    (follows : Follows processes order state)
    (isRun : state.run processes choices = some after) : Follows processes order after := by
  induction choices generalizing state with
  | nil =>
    obtain rfl : state = after := Option.some.inj isRun
    exact follows
  | cons first rest ih =>
    obtain ⟨middle, taken, isRun⟩ := Option.bind_eq_some_iff.mp isRun
    exact ih (follows.step isPlan (InitState.moves_of_step processes taken)) isRun

/-- Whatever the processes send, forged messages too, init starts the services in the order of
its plan, none of them again before all have been started, and none before what it starts after. -/
theorem starts_follow_plan (isPlan : processes.activationPlan = some order)
    (choices : List InitChoice)
    (isRun : InitState.run processes { remaining := order } choices = some after) :
    Follows processes order after :=
  .run (planned_activationPlan isPlan) choices ⟨.nil, .inl rfl⟩ isRun

theorem starts_follow_plan_forged :
    ∃ after, InitState.run threeServices { remaining := [1, 2, 3] } forgedRun = some after ∧
      Follows threeServices [1, 2, 3] after := by
  obtain ⟨after, isRun⟩ : ∃ after, InitState.run threeServices { remaining := [1, 2, 3] }
      forgedRun = some after := Option.isSome_iff_exists.mp (by decide +kernel)
  exact ⟨after, isRun, starts_follow_plan (by decide +kernel) _ isRun⟩

end

end VertexOS.InitActivation

import VertexOS.Supervisor
import Mathlib.Data.Finset.Card
import Mathlib.Logic.Relation

/-!
# The order in which a hosted generation comes up

The log of an activation is *in order* when every service in it begins once and behind the
services that it needs, each of them begun and found ready.  The walk keeps its log in order,
whatever the host answers, and a cycle of needs stops it.
-/

namespace VertexOS.Supervisor

open FailingCalls VertexIr Relation

/-- What a service depends on besides itself: what it starts after, and whatever service
provides a capability that it requires. -/
def Needs (manifest : GenerationManifest) (serviceId dependency : String) : Prop :=
  ∃ service, manifest.service serviceId = some service ∧ dependency ≠ serviceId ∧
    (dependency ∈ service.startAfter ∨
      ∃ requirement ∈ service.requires, ∃ capability,
        manifest.capability requirement.capability = some capability ∧
          capability.provider = dependency ∧ (manifest.service dependency).isSome)

/-- A service that the start order asks for, directly or through others. -/
def Reachable (manifest : GenerationManifest) (serviceId : String) : Prop :=
  ∃ first ∈ manifest.startOrder, ReflTransGen (Needs manifest) first serviceId

theorem Reachable.tail {manifest : GenerationManifest} {serviceId dependency : String}
    (reachable : Reachable manifest serviceId) (needs : Needs manifest serviceId dependency) :
    Reachable manifest dependency := by
  obtain ⟨first, isFirst, reaches⟩ := reachable
  exact ⟨first, isFirst, reaches.tail needs⟩

/-- The service that the manifest declares under a name which the start order reaches. -/
def Reached (manifest : GenerationManifest) (service : Service) : Prop :=
  manifest.service service.id = some service ∧ Reachable manifest service.id

variable {supervision : Supervision}

namespace Supervision

theorem mem_pushDependency {serviceId dependency other : String} {dependencies : List String} :
    other ∈ pushDependency serviceId dependencies dependency ↔
      other ∈ dependencies ∨ other ≠ serviceId ∧ other = dependency := by
  unfold pushDependency
  split
  · simp only [List.mem_append, List.mem_singleton]
    grind
  · grind

theorem mem_foldl_pushDependency {serviceId other : String} (list dependencies : List String) :
    other ∈ list.foldl (pushDependency serviceId) dependencies ↔
      other ∈ dependencies ∨ other ≠ serviceId ∧ other ∈ list := by
  induction list generalizing dependencies with
  | nil => simp
  | cons first rest ih =>
    rw [List.foldl_cons, ih, mem_pushDependency, List.mem_cons]
    tauto

theorem mem_foldlM_requiredProvider {service : Service} {other : String}
    (list : List CapabilityRequirement) (dependencies result : List String)
    (collected : list.foldlM (supervision.requiredProvider service) dependencies = .ok result) :
    other ∈ result ↔ other ∈ dependencies ∨ other ≠ service.id ∧
      ∃ requirement ∈ list, ∃ capability,
        supervision.manifest.capability requirement.capability = some capability ∧
          capability.provider = other ∧ (supervision.manifest.service other).isSome := by
  induction list generalizing dependencies with
  | nil =>
    obtain rfl : dependencies = result := by simpa [pure, Except.pure] using collected
    simp
  | cons first rest ih =>
    rw [List.foldlM_cons, outcome_bind_ok] at collected
    obtain ⟨middle, added, collected⟩ := collected
    obtain ⟨capability, found, added⟩ := outcome_bind_ok.mp added
    rw [known_ok] at found
    obtain rfl := Except.ok.inj added
    have inMiddle : other ∈ (if (supervision.manifest.service capability.provider).isSome then
          pushDependency service.id dependencies capability.provider else dependencies) ↔
        other ∈ dependencies ∨ other ≠ service.id ∧ capability.provider = other ∧
          (supervision.manifest.service other).isSome := by
      split
      · rw [mem_pushDependency]
        grind
      · grind
    rw [ih _ collected, inMiddle]
    simp only [List.mem_cons, exists_eq_or_imp, found, Option.some.injEq, exists_eq_left']
    tauto

theorem mem_serviceDependencies {serviceId dependency : String} {service : Service}
    {dependencies : List String} (found : supervision.manifest.service serviceId = some service)
    (collected : supervision.serviceDependencies service = .ok dependencies) :
    dependency ∈ dependencies ↔ Needs supervision.manifest serviceId dependency := by
  obtain ⟨-, named⟩ := GenerationManifest.mem_of_service found
  rw [mem_foldlM_requiredProvider _ _ _ collected, mem_foldl_pushDependency, named]
  unfold Needs
  simp only [found, Option.some.injEq, exists_eq_left', List.not_mem_nil, false_or]
  tauto

end Supervision

/-- The service that a step begins: spawned, announced by a dry run, or the root service, which
the supervisor itself stands for. -/
def SupervisorStep.begins : SupervisorStep → Option String
  | .skipsRoot service | .wouldStart service | .spawns service => some service
  | .ready _ => none

def SupervisorStep.readies : SupervisorStep → Option String
  | .skipsRoot service | .ready service => some service
  | .wouldStart _ | .spawns _ => none

def SupervisorStep.spawned : SupervisorStep → Option String
  | .spawns service => some service
  | .skipsRoot _ | .wouldStart _ | .ready _ => none

def begun (steps : List SupervisorStep) : List String :=
  steps.filterMap SupervisorStep.begins

def readied (steps : List SupervisorStep) : List String :=
  steps.filterMap SupervisorStep.readies

def spawned (steps : List SupervisorStep) : List String :=
  steps.filterMap SupervisorStep.spawned

@[simp]
theorem begun_append (steps later : List SupervisorStep) :
    begun (steps ++ later) = begun steps ++ begun later :=
  List.filterMap_append

@[simp]
theorem readied_append (steps later : List SupervisorStep) :
    readied (steps ++ later) = readied steps ++ readied later :=
  List.filterMap_append

@[simp]
theorem begun_ready (serviceId : String) : begun [.ready serviceId] = [] :=
  rfl

theorem begun_singleton {step : SupervisorStep} {serviceId : String}
    (begins : step.begins = some serviceId) : begun [step] = [serviceId] := by
  simp [begun, begins]

/-- Only the root service is skipped, and only a dry run goes without spawning. -/
def SupervisorStep.Suits (supervision : Supervision) : SupervisorStep → Prop
  | .skipsRoot service => service = supervision.manifest.rootService
  | .wouldStart _ => supervision.dryRun = true
  | .spawns _ => supervision.dryRun = false
  | .ready _ => True

/-- Every service begins once, and behind what it needs. -/
inductive InOrder (supervision : Supervision) : List SupervisorStep → Prop
  | nil : InOrder supervision []
  | begins {steps : List SupervisorStep} {step : SupervisorStep} {serviceId : String}
      (earlier : InOrder supervision steps) (begins : step.begins = some serviceId)
      (suits : step.Suits supervision) (fresh : serviceId ∉ begun steps)
      (behind : ∀ dependency, Needs supervision.manifest serviceId dependency →
        dependency ∈ begun steps ∧ dependency ∈ readied steps) :
      InOrder supervision (steps ++ [step])
  | readies {steps : List SupervisorStep} (earlier : InOrder supervision steps)
      (serviceId : String) : InOrder supervision (steps ++ [.ready serviceId])

namespace InOrder

variable {steps before later : List SupervisorStep} {serviceId dependency : String}

theorem spawned_sublist (steps : List SupervisorStep) : (spawned steps).Sublist (begun steps) := by
  induction steps with
  | nil => exact List.Sublist.slnil
  | cons step rest ih =>
    cases step with
    | skipsRoot | wouldStart => exact ih.cons _
    | spawns => exact ih.cons_cons _
    | ready => exact ih

variable (ordered : InOrder supervision steps)
include ordered

theorem nodup_begun : (begun steps).Nodup := by
  induction ordered with
  | nil => exact List.nodup_nil
  | begins _ begins _ fresh _ ih =>
    rw [begun_append, begun_singleton begins]
    exact List.nodup_append.mpr ⟨ih, List.nodup_singleton _, by
      rintro one inSteps other inLast rfl
      exact fresh (List.mem_singleton.mp inLast ▸ inSteps)⟩
  | readies _ _ ih => simpa using ih

theorem nodup_spawned : (spawned steps).Nodup :=
  ordered.nodup_begun.sublist (spawned_sublist steps)

theorem behind_of_begins {step : SupervisorStep} (split : steps = before ++ step :: later)
    (begins : step.begins = some serviceId)
    (needs : Needs supervision.manifest serviceId dependency) :
    dependency ∈ begun before ∧ dependency ∈ readied before := by
  induction ordered generalizing later with
  | nil => simp at split
  | @begins steps last lastId _ lastBegins _ _ behind ih =>
    rcases List.eq_nil_or_concat later with rfl | ⟨later, last', rfl⟩
    · obtain ⟨rfl, same⟩ := List.append_inj' split rfl
      obtain rfl := (List.cons.inj same).1
      obtain rfl : lastId = serviceId := Option.some.inj (lastBegins.symm.trans begins)
      exact behind dependency needs
    · have shorter : steps ++ [last] = (before ++ step :: later) ++ [last'] := by
        simpa using split
      exact ih (List.append_inj' shorter rfl).1
  | @readies steps _ lastId ih =>
    rcases List.eq_nil_or_concat later with rfl | ⟨later, last', rfl⟩
    · obtain ⟨-, same⟩ := List.append_inj' split rfl
      obtain rfl := (List.cons.inj same).1
      cases begins
    · have shorter : steps ++ [.ready lastId] = (before ++ step :: later) ++ [last'] := by
        simpa using split
      exact ih (List.append_inj' shorter rfl).1

theorem suits {step : SupervisorStep} (inSteps : step ∈ steps) : step.Suits supervision := by
  induction ordered with
  | nil => cases inSteps
  | begins _ _ suits _ _ ih =>
    rcases List.mem_append.mp inSteps with isEarlier | isLast
    · exact ih isEarlier
    · exact List.mem_singleton.mp isLast ▸ suits
  | readies _ _ ih =>
    rcases List.mem_append.mp inSteps with isEarlier | isLast
    · exact ih isEarlier
    · exact List.mem_singleton.mp isLast ▸ trivial

theorem spawned_of_begun (real : supervision.dryRun = false)
    (split : steps = before ++ later) {serviceId : String} (isBegun : serviceId ∈ begun before) :
    serviceId ∈ spawned before ∨ serviceId = supervision.manifest.rootService := by
  obtain ⟨step, inBefore, begins⟩ := List.mem_filterMap.mp isBegun
  have suits := ordered.suits (split ▸ List.mem_append_left later inBefore)
  cases step with
  | skipsRoot => exact .inr ((Option.some.inj begins).symm.trans suits)
  | wouldStart => exact absurd (real.symm.trans suits) Bool.false_ne_true
  | spawns => exact .inl (List.mem_filterMap.mpr ⟨_, inBefore, begins⟩)
  | ready => cases begins

theorem begun_of_needs (isBegun : serviceId ∈ begun steps)
    (needs : Needs supervision.manifest serviceId dependency) : dependency ∈ begun steps := by
  obtain ⟨step, inSteps, begins⟩ := List.mem_filterMap.mp isBegun
  obtain ⟨before, later, rfl⟩ := List.append_of_mem inSteps
  rw [begun_append]
  exact List.mem_append_left _ (ordered.behind_of_begins rfl begins needs).1

theorem begun_of_reaches (isBegun : serviceId ∈ begun steps)
    (reaches : ReflTransGen (Needs supervision.manifest) serviceId dependency) :
    dependency ∈ begun steps := by
  induction reaches with
  | refl => exact isBegun
  | tail _ needs ih => exact ordered.begun_of_needs ih needs

/-- No begun service is on a cycle: the last of a cycle to begin would need one that has not. -/
theorem not_cycle {serviceId : String} (isBegun : serviceId ∈ begun steps) :
    ¬TransGen (Needs supervision.manifest) serviceId serviceId := by
  induction ordered with
  | nil => cases isBegun
  | @begins steps step lastId earlier begins _ fresh behind ih =>
    rw [begun_append, begun_singleton begins, List.mem_append, List.mem_singleton] at isBegun
    rcases isBegun with isEarlier | rfl
    · exact ih isEarlier
    · intro cycle
      obtain ⟨dependency, needs, reaches⟩ := TransGen.head'_iff.mp cycle
      exact fresh (earlier.begun_of_reaches (behind dependency needs).1 reaches)
  | readies _ _ ih => exact ih (by simpa using isBegun)

end InOrder

/-! ## Asking the host

Most of what the supervisor does between two steps only asks the host. -/

/-- Nothing happened but that the host was asked. -/
def Unmoved (before after : Activation) : Prop :=
  after = { before with calls := after.calls }

instance : Std.Refl Unmoved := ⟨fun _ => rfl⟩

instance : IsTrans Activation Unmoved :=
  ⟨fun _ _ _ first second => by
    unfold Unmoved at *
    rw [second, first]⟩

/-- The call only asks the host, and whatever error it ends with, the walk was not cut off. -/
structure Asks {α : Type} (call : SupervisorCall α) : Prop where
  unmoved : Always Unmoved call
  finished : ∀ state, (exec call state).1 ≠ .error .unfinished

section

variable {α β : Type}

theorem Asks.of_exec {call : SupervisorCall α} (asks : Asks call) {state after : Activation}
    {outcome : Except ActivationError α} (ends : exec call state = (outcome, after)) :
    Unmoved state after ∧ outcome ≠ .error .unfinished := by
  have unmoved : Unmoved state (exec call state).2 := asks.unmoved.evolves state
  have finished := asks.finished state
  rw [ends] at unmoved finished
  exact ⟨unmoved, finished⟩

protected theorem Asks.pure (a : α) : Asks (pure a : SupervisorCall α) :=
  ⟨.pure a, fun _ => by simp⟩

protected theorem Asks.throw (text : String) : Asks (throw (.message text) : SupervisorCall α) :=
  ⟨.throw _, fun _ => by simp⟩

protected theorem Asks.reported (outcome : Except String α) : Asks (reported outcome) := by
  refine ⟨.fromExcept _, fun state => ?_⟩
  cases outcome with
  | error | ok => simp [reported, Except.mapError]

protected theorem Asks.require (text : String) (condition : Prop) [Decidable condition] :
    Asks (require (.message text) condition) := by
  refine ⟨.require _ _, fun state => ?_⟩
  rw [exec_require]
  split <;> simp

protected theorem Asks.bind {call : SupervisorCall α} {next : α → SupervisorCall β}
    (first : Asks call) (rest : ∀ a, Asks (next a)) : Asks (call >>= next) := by
  refine ⟨.bind first.unmoved fun a => (rest a).unmoved, fun state => ?_⟩
  rw [exec_bind]
  rcases outcome : exec call state with ⟨error | a, after⟩
  · simpa using (first.of_exec outcome).2
  · exact (rest a).finished after

protected theorem Asks.ite {condition : Prop} [Decidable condition] {yes no : SupervisorCall α}
    (whenYes : Asks yes) (whenNo : Asks no) : Asks (if condition then yes else no) := by
  split
  · exact whenYes
  · exact whenNo

protected theorem Asks.get : Asks (get : SupervisorCall Activation) :=
  ⟨.get, fun _ => by simp⟩

protected theorem Asks.inTurn {call : α → SupervisorCall Unit} (each : ∀ a, Asks (call a))
    (list : List α) : Asks (inTurn call list) := by
  induction list with
  | nil => exact .pure ()
  | cons first rest ih => exact .bind (each first) fun _ => ih

variable (supervision) (serviceId : String)

theorem asks_askHost : Asks supervision.askHost where
  unmoved := ⟨fun _ => rfl⟩
  finished := fun state => (Asks.reported _).finished { state with calls := state.calls + 1 }

theorem asks_ensureChildAlive : Asks (supervision.ensureChildAlive serviceId) :=
  .bind .get fun _ => .bind (.require ..) fun _ => asks_askHost supervision

theorem asks_waitForEndpoint : Asks (supervision.waitForEndpoint serviceId) :=
  .bind (asks_ensureChildAlive supervision serviceId) fun _ => asks_askHost supervision

theorem asks_checkServiceHealth (health : Option HealthCheck) :
    Asks (supervision.checkServiceHealth serviceId health) := by
  have waits (target : Except String HostedCapability) :
      Asks (do let _ ← reported target; supervision.waitForEndpoint serviceId) :=
    .bind (.reported target) fun _ => asks_waitForEndpoint supervision serviceId
  cases health with
  | none => exact .pure ()
  | some health =>
    refine .ite (.pure ()) ?_
    refine .ite (asks_ensureChildAlive supervision serviceId) ?_
    refine .ite (waits _) ?_
    exact .ite (waits _) (.throw _)

end

/-- The state that the walk is in between two services. -/
structure Settled (supervision : Supervision) (state : Activation) : Prop where
  inOrder : InOrder supervision state.steps
  started : ∀ serviceId, serviceId ∈ state.started ↔ serviceId ∈ begun state.steps
  ready : ∀ serviceId ∈ state.ready, serviceId ∈ readied state.steps
  children : supervision.dryRun = false →
    ∀ serviceId ∈ state.started, serviceId ∈ state.children ∧
      serviceId ≠ supervision.manifest.rootService ∨ serviceId ∈ state.ready

/-- Services have only been added, and the walk is at the same place. -/
structure Onward (before after : Activation) : Prop where
  started : before.started ⊆ after.started
  ready : before.ready ⊆ after.ready
  starting : after.starting = before.starting

instance : Std.Refl Onward := ⟨fun _ => ⟨List.Subset.refl _, List.Subset.refl _, rfl⟩⟩

instance : IsTrans Activation Onward :=
  ⟨fun _ _ _ first second =>
    ⟨List.Subset.trans first.started second.started,
      List.Subset.trans first.ready second.ready, second.starting.trans first.starting⟩⟩

theorem Unmoved.onward {before after : Activation} (unmoved : Unmoved before after) :
    Onward before after := by
  unfold Unmoved at unmoved
  rw [unmoved]
  exact ⟨List.Subset.refl _, List.Subset.refl _, rfl⟩

/-- An error of the walk itself, behind a log in order. -/
def Stopped (supervision : Supervision) (error : ActivationError) (after : Activation) : Prop :=
  error ≠ .unfinished ∧ InOrder supervision after.steps

variable {serviceId : String} {service : Service} {state : Activation}

section Settled

variable {state after : Activation} {α β : Type} {outcome : Except String α}

theorem Settled.unmoved (settled : Settled supervision state) (unmoved : Unmoved state after) :
    Settled supervision after := by
  unfold Unmoved at unmoved
  rw [unmoved]
  exact ⟨settled.inOrder, settled.started, settled.ready, settled.children⟩

theorem ends_of_asks {α : Type} {call : SupervisorCall α} (asks : Asks call)
    (settled : Settled supervision state) :
    Ends (Lands (fun _ after => Settled supervision after ∧ Unmoved state after)
      (Stopped supervision)) call state := by
  unfold Ends
  rcases outcome : exec call state with ⟨error | a, after⟩ <;>
    obtain ⟨unmoved, finished⟩ := asks.of_exec outcome
  · exact ⟨fun cut => finished (cut ▸ rfl), (settled.unmoved unmoved).inOrder⟩
  · exact ⟨settled.unmoved unmoved, unmoved⟩

/-- A service is begun behind what it needs. -/
structure Begins (supervision : Supervision) (serviceId : String) (state after : Activation) :
    Prop where
  settled : Settled supervision after
  onward : Onward state after
  started : after.started = serviceId :: state.started

/-- The service comes next: what it needs is started and ready. -/
def Due (supervision : Supervision) (state : Activation) (serviceId : String) : Prop :=
  serviceId ∉ state.started ∧ ∀ dependency, Needs supervision.manifest serviceId dependency →
    dependency ∈ state.started ∧ dependency ∈ state.ready

theorem ends_report_bind {next : α → SupervisorCall β}
    {P : Except ActivationError β × Activation → Prop}
    (fails : ∀ text, P (.error (.message text), state))
    (rest : ∀ a, outcome = .ok a → Ends P (next a) state) :
    Ends P (reported outcome >>= next) state := by
  cases outcome with
  | error text => exact fails text
  | ok a => exact rest a rfl

theorem ends_report_of_ok {next : α → SupervisorCall β}
    {P : Except ActivationError β × Activation → Prop} {a : α} (succeeds : outcome = .ok a)
    (rest : Ends P (next a) state) : Ends P (reported outcome >>= next) state := by
  rw [succeeds]
  exact rest

structure Readies (supervision : Supervision) (serviceId : String) (state after : Activation) :
    Prop where
  settled : Settled supervision after
  onward : Onward state after
  started : after.started = state.started
  ready : serviceId ∈ after.ready

theorem Readies.unmoved {middle : Activation} (readies : Readies supervision serviceId state middle)
    (unmoved : Unmoved middle after) : Readies supervision serviceId state after := by
  refine ⟨readies.settled.unmoved unmoved, trans_of Onward readies.onward unmoved.onward, ?_,
    unmoved.onward.ready readies.ready⟩
  rw [unmoved]
  exact readies.started

variable (settled : Settled supervision state)
include settled

theorem Settled.inOrder_begins {step : SupervisorStep} (begins : step.begins = some serviceId)
    (suits : step.Suits supervision) (due : Due supervision state serviceId) :
    InOrder supervision (state.steps ++ [step]) := by
  refine settled.inOrder.begins begins suits (mt (settled.started serviceId).mpr due.1) ?_
  intro dependency needs
  obtain ⟨isStarted, isReady⟩ := due.2 dependency needs
  exact ⟨(settled.started dependency).mp isStarted, settled.ready dependency isReady⟩

theorem mem_started_begins {step : SupervisorStep} (begins : step.begins = some serviceId)
    (other : String) :
    other ∈ serviceId :: state.started ↔ other ∈ begun (state.steps ++ [step]) := by
  rw [begun_append, begun_singleton begins, List.mem_cons, List.mem_append, List.mem_singleton,
    settled.started other]
  exact or_comm

theorem mem_readied_append (step : SupervisorStep) {other : String} (isReady : other ∈ state.ready) :
    other ∈ readied (state.steps ++ [step]) := by
  rw [readied_append]
  exact List.mem_append_left _ (settled.ready other isReady)

theorem ends_skipRoot (isRoot : service.id = supervision.manifest.rootService)
    (due : Due supervision state service.id) :
    Ends (Lands (fun _ => Begins supervision service.id state) (Stopped supervision))
      (supervision.skipRoot service) state := by
  have begins : (SupervisorStep.skipsRoot service.id).begins = some service.id := rfl
  refine .modify_bind (.modify_bind (.modify_bind ?_))
  have skipped : Settled supervision { state with
        started := service.id :: state.started
        ready := service.id :: state.ready
        steps := state.steps ++ [.skipsRoot service.id] } := by
    refine ⟨settled.inOrder_begins begins isRoot due, mem_started_begins settled begins, ?_, ?_⟩
    · intro other isReady
      rcases List.mem_cons.mp isReady with rfl | isReady
      · rw [readied_append]
        exact List.mem_append_right _ (List.mem_singleton.mpr rfl)
      · exact mem_readied_append settled _ isReady
    · intro real other isStarted
      rcases List.mem_cons.mp isStarted with rfl | isStarted
      · exact .inr (List.mem_cons_self ..)
      · exact (settled.children real other isStarted).imp_right (List.mem_cons_of_mem _)
  have logs : Asks (if supervision.dryRun then pure () else supervision.appendRuntimeEvent) :=
    .ite (.pure ()) (asks_askHost supervision)
  refine .lands_imp (ends_of_asks logs skipped) ?_ fun _ _ stopped => stopped
  rintro _ after ⟨settledAfter, unmoved⟩
  refine ⟨settledAfter, ?_, ?_⟩
  · rw [unmoved]
    exact ⟨List.subset_cons_self .., List.subset_cons_self .., rfl⟩
  · rw [unmoved]

theorem ends_spawn (real : supervision.dryRun = false) (due : Due supervision state service.id)
    (notRoot : service.id ≠ supervision.manifest.rootService) (events : Nat) :
    Ends (Lands (fun _ => Begins supervision service.id state) (Stopped supervision))
      (supervision.spawn service events) state := by
  have begins : (SupervisorStep.spawns service.id).begins = some service.id := rfl
  have logs : Asks (inTurn (fun _ => supervision.appendRuntimeEvent) (List.range events)) :=
    .inTurn (fun _ => asks_askHost supervision) _
  refine .lands_bind (ends_of_asks (asks_askHost supervision) settled)
    (fun _ _ stopped => stopped) ?_
  rintro _ asked ⟨settledAsked, moved⟩
  have ordered : InOrder supervision (asked.steps ++ [.spawns service.id]) := by
    refine settledAsked.inOrder_begins begins real ?_
    rw [moved]
    exact due
  -- the service is in the log but not yet among the started ones, so this state is not settled
  refine .modify_bind (.bind ?_ ?_)
  · intro error after outcome
    obtain ⟨unmoved, finished⟩ := logs.of_exec outcome
    refine ⟨fun cut => finished (cut ▸ rfl), ?_⟩
    rw [unmoved]
    exact ordered
  · intro _ after outcome
    obtain ⟨unmoved, -⟩ := logs.of_exec outcome
    refine .modify_bind ?_
    change Begins supervision service.id state _
    rw [unmoved]
    refine ⟨⟨ordered, mem_started_begins settledAsked begins, ?_, ?_⟩, ?_, ?_⟩
    · intro other isReady
      exact mem_readied_append settledAsked _ isReady
    · intro real other isStarted
      rcases List.mem_cons.mp isStarted with rfl | isStarted
      · exact .inl ⟨List.mem_append_right _ (List.mem_singleton.mpr rfl), notRoot⟩
      · exact (settledAsked.children real other isStarted).imp_left
          (.imp_left (List.mem_append_left _))
    · exact ⟨fun _ isStarted => List.mem_cons_of_mem _ (moved.onward.started isStarted),
        moved.onward.ready, moved.onward.starting⟩
    · rw [moved]

theorem ends_reported_bind {next : α → SupervisorCall β} {good : β → Activation → Prop}
    (rest : ∀ a, outcome = .ok a → Ends (Lands good (Stopped supervision)) (next a) state) :
    Ends (Lands good (Stopped supervision)) (reported outcome >>= next) state :=
  ends_report_bind (fun _ => ⟨nofun, settled.inOrder⟩) rest

theorem ends_launch (due : Due supervision state service.id)
    (notRoot : service.id ≠ supervision.manifest.rootService) :
    Ends (Lands (fun _ => Begins supervision service.id state) (Stopped supervision))
      (supervision.launch service) state := by
  have begins : (SupervisorStep.wouldStart service.id).begins = some service.id := rfl
  refine ends_reported_bind settled fun _ _ => ends_reported_bind settled fun grants _ => ?_
  refine ends_reported_bind settled fun _ _ => .get_bind ?_
  refine ends_reported_bind settled fun stateGrants _ => .ite (fun dry => ?_) fun real => ?_
  · refine ⟨⟨settled.inOrder_begins begins dry due, mem_started_begins settled begins,
      ?_, ?_⟩, ⟨List.subset_cons_self .., List.Subset.refl _, rfl⟩, rfl⟩
    · intro other isReady
      exact mem_readied_append settled _ isReady
    · intro real
      rw [dry] at real
      cases real
  · exact ends_spawn settled (by simpa using real) due notRoot _

theorem ends_startService (due : Due supervision state serviceId) :
    Ends (Lands (fun _ => Begins supervision serviceId state) (Stopped supervision))
      (supervision.startService serviceId) state := by
  refine .get_bind (.ite (fun isStarted => absurd isStarted due.1) fun _ => ?_)
  refine ends_reported_bind settled fun service found => ?_
  obtain ⟨-, rfl⟩ := GenerationManifest.mem_of_service (known_ok.mp found)
  exact .ite (fun isRoot => ends_skipRoot settled isRoot due) fun notRoot =>
    ends_launch settled due notRoot

theorem readies_insertReady (serviceId : String) :
    Readies supervision serviceId state
      { state with
        ready := serviceId :: state.ready, steps := state.steps ++ [.ready serviceId] } := by
  refine ⟨⟨settled.inOrder.readies serviceId, ?_, ?_, ?_⟩,
    ⟨List.Subset.refl _, List.subset_cons_self .., rfl⟩, rfl, List.mem_cons_self ..⟩
  · intro other
    rw [begun_append, begun_ready, List.append_nil]
    exact settled.started other
  · intro other isReady
    rcases List.mem_cons.mp isReady with rfl | isReady
    · rw [readied_append]
      exact List.mem_append_right _ (List.mem_singleton.mpr rfl)
    · exact mem_readied_append settled _ isReady
  · intro real other isStarted
    exact (settled.children real other isStarted).imp_right (List.mem_cons_of_mem _)

theorem ends_ensureServiceReady :
    Ends (Lands (fun _ => Readies supervision serviceId state) (Stopped supervision))
      (supervision.ensureServiceReady serviceId) state := by
  have checks := asks_checkServiceHealth supervision serviceId
  have logs : Asks supervision.appendRuntimeEvent := asks_askHost supervision
  refine .get_bind (.ite (fun isReady => ?_) fun _ => .ite (fun _ => ?_) fun _ => ?_)
  · exact ⟨settled, refl_of Onward state, rfl, isReady⟩
  · exact readies_insertReady settled serviceId
  refine ends_reported_bind settled fun service _ => .attempt_bind ?_
  have checked := ends_of_asks (checks service.health) settled
  unfold Ends at checked
  rcases outcome : exec (supervision.checkServiceHealth serviceId service.health) state with
    ⟨error | _, middle⟩ <;> rw [outcome] at checked
  · obtain ⟨unmoved, -⟩ := (checks service.health).of_exec outcome
    refine .lands_bind (ends_of_asks logs (settled.unmoved unmoved)) (fun _ _ stopped => stopped) ?_
    rintro _ after ⟨settledAfter, -⟩
    exact ⟨checked.1, settledAfter.inOrder⟩
  · have found := readies_insertReady checked.1 serviceId
    refine .modify_bind ?_
    refine .lands_imp (ends_of_asks logs found.settled) ?_ fun _ _ stopped => stopped
    rintro _ after ⟨-, unmoved⟩
    have readies := found.unmoved unmoved
    refine ⟨readies.settled, trans_of Onward checked.2.onward readies.onward, ?_, readies.ready⟩
    rw [readies.started, checked.2]

end Settled

section Walk

/-- How many services the walk can still go into. -/
def room (supervision : Supervision) (starting : List String) : Nat :=
  ((supervision.manifest.services.map (·.id)).toFinset \ starting.toFinset).card

theorem room_cons_lt {starting : List String} {service : Service}
    (found : supervision.manifest.service serviceId = some service) (fresh : serviceId ∉ starting) :
    room supervision (serviceId :: starting) < room supervision starting := by
  obtain ⟨inServices, named⟩ := GenerationManifest.mem_of_service found
  refine Finset.card_lt_card (Finset.ssubset_iff_of_subset ?_ |>.mpr ⟨serviceId, ?_, ?_⟩)
  · refine Finset.sdiff_subset_sdiff (Finset.Subset.refl _) ?_
    rw [List.toFinset_cons]
    exact Finset.subset_insert ..
  · rw [Finset.mem_sdiff, List.mem_toFinset, List.mem_toFinset]
    exact ⟨named ▸ List.mem_map_of_mem inServices, fresh⟩
  · simp

theorem room_nil_le (supervision : Supervision) :
    room supervision [] ≤ supervision.manifest.services.length := by
  unfold room
  rw [List.toFinset_nil, Finset.sdiff_empty]
  exact (List.toFinset_card_le _).trans_eq (List.length_map ..)

/-- The walk has come to the end of its targets, and has begun only what they reach. -/
structure Walked (supervision : Supervision) (checked : Prop) (targets : List String)
    (state after : Activation) : Prop where
  settled : Settled supervision after
  onward : Onward state after
  started : targets ⊆ after.started
  ready : checked → targets ⊆ after.ready
  only : ∀ other ∈ after.started, other ∈ state.started ∨
    ∃ target ∈ targets, ReflTransGen (Needs supervision.manifest) target other

/-- The walk was stopped.  If it was cut off, there were more services to go into than it could
go deep. -/
def Broken (supervision : Supervision) (fuel : Nat) (starting : List String)
    (error : ActivationError) (after : Activation) : Prop :=
  InOrder supervision after.steps ∧
    (error = .unfinished → fuel ≤ room supervision starting)

theorem Stopped.broken {error : ActivationError} {after : Activation}
    (stopped : Stopped supervision error after) (fuel : Nat) (starting : List String) :
    Broken supervision fuel starting error after :=
  ⟨stopped.2, fun cut => absurd cut stopped.1⟩

variable {checked : Prop}

theorem walked_nil (settled : Settled supervision state) :
    Walked supervision checked [] state state :=
  ⟨settled, refl_of Onward state, List.nil_subset _, fun _ => List.nil_subset _,
    fun _ isStarted => .inl isStarted⟩

theorem Walked.append {one other : List String} {middle after : Activation}
    (first : Walked supervision checked one state middle)
    (second : Walked supervision checked other middle after) :
    Walked supervision checked (one ++ other) state after := by
  refine ⟨second.settled, trans_of Onward first.onward second.onward, ?_, ?_, ?_⟩
  · exact List.append_subset.mpr
      ⟨List.Subset.trans first.started second.onward.started, second.started⟩
  · intro isChecked
    exact List.append_subset.mpr
      ⟨List.Subset.trans (first.ready isChecked) second.onward.ready, second.ready isChecked⟩
  · intro service isStarted
    rcases second.only service isStarted with inMiddle | ⟨target, inOther, reaches⟩
    · rcases first.only service inMiddle with isEarlier | ⟨target, inOne, reaches⟩
      · exact .inl isEarlier
      · exact .inr ⟨target, List.mem_append_left _ inOne, reaches⟩
    · exact .inr ⟨target, List.mem_append_right _ inOther, reaches⟩

theorem ends_inTurn_walked {call : String → SupervisorCall Unit} {starting : List String}
    {bad : ActivationError → Activation → Prop} (targets : List String)
    (each : ∀ target ∈ targets, ∀ state, Settled supervision state → state.starting = starting →
      Ends (Lands (fun _ => Walked supervision checked [target] state) bad) (call target) state)
    (settled : Settled supervision state) (place : state.starting = starting) :
    Ends (Lands (fun _ => Walked supervision checked targets state) bad) (inTurn call targets)
      state := by
  induction targets generalizing state with
  | nil => exact walked_nil settled
  | cons first rest ih =>
    refine .lands_bind (each first (List.mem_cons_self ..) state settled place)
      (fun _ _ broken => broken) ?_
    intro _ middle walked
    have later := ih (fun target isLater => each target (List.mem_cons_of_mem _ isLater))
      walked.settled (walked.onward.starting.trans place)
    exact .lands_imp later (fun _ _ later => walked.append later) fun _ _ broken => broken

theorem ends_walk_ensureServiceReady {bad : ActivationError → Activation → Prop}
    {call : SupervisorCall Unit}
    (walks : Ends (Lands (fun _ => Walked supervision False [serviceId] state) bad) call state)
    (checks : ∀ middle, Walked supervision False [serviceId] state middle →
      Ends (Lands (fun _ => Readies supervision serviceId middle) bad)
        (supervision.ensureServiceReady serviceId) middle) :
    Ends (Lands (fun _ => Walked supervision True [serviceId] state) bad)
      (do call; supervision.ensureServiceReady serviceId) state := by
  refine .lands_bind walks (fun _ _ broken => broken) ?_
  intro _ middle walked
  refine .lands_imp (checks middle walked) ?_ fun _ _ broken => broken
  intro _ after readies
  refine ⟨readies.settled, trans_of Onward walked.onward readies.onward,
    List.Subset.trans walked.started readies.onward.started, fun _ => ?_, ?_⟩
  · exact List.cons_subset.mpr ⟨readies.ready, List.nil_subset _⟩
  · rw [readies.started]
    exact walked.only

theorem Walked.begins {dependencies : List String} {middle after : Activation}
    (walked : Walked supervision True dependencies state middle)
    (needed : ∀ dependency, dependency ∈ dependencies ↔
      Needs supervision.manifest serviceId dependency)
    (begins : Begins supervision serviceId middle after) :
    Walked supervision False [serviceId] state after := by
  refine ⟨begins.settled, trans_of Onward walked.onward begins.onward, ?_, False.elim, ?_⟩
  · rw [begins.started]
    exact List.cons_subset.mpr ⟨List.mem_cons_self .., List.nil_subset _⟩
  · intro other isStarted
    rw [begins.started, List.mem_cons] at isStarted
    rcases isStarted with rfl | isStarted
    · exact .inr ⟨other, List.mem_singleton.mpr rfl, .refl⟩
    · refine (walked.only other isStarted).imp_right ?_
      rintro ⟨dependency, isNeeded, reaches⟩
      exact ⟨serviceId, List.mem_singleton.mpr rfl, reaches.head ((needed dependency).mp isNeeded)⟩

theorem Walked.not_started {dependencies : List String} {middle : Activation}
    (walked : Walked supervision True dependencies state middle)
    (needed : ∀ dependency, dependency ∈ dependencies ↔
      Needs supervision.manifest serviceId dependency)
    (fresh : serviceId ∉ state.started) : serviceId ∉ middle.started := by
  intro isStarted
  rcases walked.only serviceId isStarted with isEarlier | ⟨dependency, isNeeded, reaches⟩
  · exact fresh isEarlier
  · exact walked.settled.inOrder.not_cycle ((walked.settled.started serviceId).mp isStarted)
      (TransGen.head'_iff.mpr ⟨dependency, (needed dependency).mp isNeeded, reaches⟩)

theorem ends_startServiceTreeInner {fuel : Nat} {walk : String → SupervisorCall Unit}
    (walks : ∀ target state, Settled supervision state →
      Ends (Lands (fun _ => Walked supervision False [target] state)
        (Broken supervision fuel state.starting)) (walk target) state)
    (settled : Settled supervision state) (fresh : serviceId ∉ state.started)
    (notStarting : serviceId ∉ state.starting) :
    Ends (Lands
        (fun _ => Walked supervision False [serviceId]
          { state with starting := serviceId :: state.starting })
        (Broken supervision (fuel + 1) state.starting))
      (supervision.startServiceTreeInner walk serviceId)
      { state with starting := serviceId :: state.starting } := by
  have marked : Settled supervision { state with starting := serviceId :: state.starting } :=
    ⟨settled.inOrder, settled.started, settled.ready, settled.children⟩
  refine ends_report_bind (fun _ => ⟨settled.inOrder, nofun⟩) fun service found => ?_
  refine ends_report_bind (fun _ => ⟨settled.inOrder, nofun⟩) fun dependencies collected => ?_
  rw [known_ok] at found
  have needed (dependency : String) : dependency ∈ dependencies ↔
      Needs supervision.manifest serviceId dependency :=
    Supervision.mem_serviceDependencies found collected
  refine .lands_bind (ends_inTurn_walked dependencies (fun target _ middle settledMiddle place =>
    place ▸ ends_walk_ensureServiceReady (walks target middle settledMiddle) fun _ walked =>
      .lands_imp (ends_ensureServiceReady walked.settled) (fun _ _ readies => readies)
        fun _ _ stopped => stopped.broken fuel _) marked rfl) ?_ ?_
  · rintro error after ⟨ordered, cut⟩
    exact ⟨ordered, fun isCut => (cut isCut).trans_lt (room_cons_lt found notStarting)⟩
  · intro _ middle walked
    have begins : Ends (Lands (fun _ => Begins supervision serviceId middle) (Stopped supervision))
        (supervision.startService serviceId) middle := by
      refine ends_startService walked.settled ⟨walked.not_started needed fresh, ?_⟩
      intro dependency needs
      have isNeeded := (needed dependency).mpr needs
      exact ⟨walked.started isNeeded, walked.ready trivial isNeeded⟩
    exact .lands_imp begins (fun _ _ begins => walked.begins needed begins)
      fun _ _ stopped => stopped.broken _ _

/-- The walk keeps its log in order, and is cut off only where there is more to go into than it
may go deep. -/
theorem ends_startServiceTree (fuel : Nat) (serviceId : String) (state : Activation)
    (settled : Settled supervision state) :
    Ends (Lands (fun _ => Walked supervision False [serviceId] state)
      (Broken supervision fuel state.starting)) (supervision.startServiceTree fuel serviceId) state := by
  induction fuel generalizing serviceId state with
  | zero => exact ⟨settled.inOrder, fun _ => Nat.zero_le _⟩
  | succ fuel ih =>
    refine .get_bind (.ite (fun isStarted => ?_) fun fresh => ?_)
    · exact ⟨settled, refl_of Onward state,
        List.cons_subset.mpr ⟨isStarted, List.nil_subset _⟩, False.elim,
        fun _ isStarted => .inl isStarted⟩
    refine .require_bind (fun _ => ⟨settled.inOrder, nofun⟩) fun notStarting => ?_
    refine .set_bind (.attempt_bind ?_)
    have inner := ends_startServiceTreeInner (fun target middle settledMiddle =>
      ih target middle settledMiddle) settled fresh notStarting
    unfold Ends at inner
    rcases outcome : exec (supervision.startServiceTreeInner
      (supervision.startServiceTree fuel) serviceId)
      { state with starting := serviceId :: state.starting } with ⟨error | _, after⟩ <;>
      rw [outcome] at inner
    · exact inner
    · have restored : after.starting.erase serviceId = state.starting := by
        rw [inner.onward.starting]
        exact List.erase_cons_head ..
      exact ⟨⟨inner.settled.inOrder, inner.settled.started, inner.settled.ready,
          inner.settled.children⟩,
        ⟨inner.onward.started, inner.onward.ready, restored⟩, inner.started, False.elim,
        inner.only⟩

end Walk

/-- Whatever the start order reaches refers only to what is there, and all of it but the root
service, which is neither launched nor checked, launches and is healthy. -/
structure Smooth (supervision : Supervision) : Prop where
  host : ∀ call, supervision.host call = .ok ()
  startOrder : ∀ serviceId ∈ supervision.manifest.startOrder,
    (supervision.manifest.service serviceId).isSome
  startAfter : ∀ service, Reached supervision.manifest service → ∀ serviceId ∈ service.startAfter,
    (supervision.manifest.service serviceId).isSome
  requires : ∀ service, Reached supervision.manifest service →
    ∀ requirement ∈ service.requires,
      (supervision.manifest.capability requirement.capability).isSome
  launches : ∀ service, Reached supervision.manifest service →
    service.id ≠ supervision.manifest.rootService → ∀ state,
      (exec (supervision.launch service) state).1 = .ok ()
  healthy : ∀ service, Reached supervision.manifest service →
    service.id ≠ supervision.manifest.rootService → ∀ state, service.id ∈ state.children →
      (exec (supervision.checkServiceHealth service.id service.health) state).1 = .ok ()

section

variable (smooth : Smooth supervision)

include smooth

theorem Smooth.serviceDependencies (reached : Reached supervision.manifest service) :
    ∃ dependencies, supervision.serviceDependencies service = .ok dependencies := by
  unfold Supervision.serviceDependencies
  have found := smooth.requires service reached
  generalize service.startAfter.foldl (Supervision.pushDependency service.id) [] = start
  generalize service.requires = requirements at found ⊢
  induction requirements generalizing start with
  | nil => exact ⟨start, rfl⟩
  | cons first rest ih =>
    obtain ⟨capability, isCapability⟩ :=
      Option.isSome_iff_exists.mp (found first (List.mem_cons_self ..))
    rw [List.foldlM_cons]
    unfold Supervision.requiredProvider known
    rw [isCapability]
    exact ih _ fun requirement isLater => found requirement (List.mem_cons_of_mem _ isLater)

theorem Smooth.service_of_needs {dependency : String}
    (reachable : Reachable supervision.manifest serviceId)
    (needs : Needs supervision.manifest serviceId dependency) :
    ∃ service, supervision.manifest.service dependency = some service := by
  obtain ⟨service, found, -, isAfter | ⟨_, _, _, _, _, isService⟩⟩ := needs
  · obtain ⟨-, rfl⟩ := GenerationManifest.mem_of_service found
    exact Option.isSome_iff_exists.mp
      (smooth.startAfter service ⟨found, reachable⟩ dependency isAfter)
  · exact Option.isSome_iff_exists.mp isService

theorem Smooth.exec_askHost : (exec supervision.askHost state).1 = .ok () := by
  change (exec (reported (supervision.host state.calls)) _).1 = _
  rw [smooth.host]
  rfl

theorem Smooth.startService (reachable : Reachable supervision.manifest serviceId)
    (found : supervision.manifest.service serviceId = some service) :
    (exec (supervision.startService serviceId) state).1 = .ok () := by
  obtain ⟨-, rfl⟩ := GenerationManifest.mem_of_service found
  change (exec (if service.id ∈ state.started then pure () else _) state).1 = _
  unfold known
  rw [found]
  split
  · rfl
  change (exec (if service.id = supervision.manifest.rootService then _ else _) state).1 = _
  split
  · change (exec (if supervision.dryRun then pure () else supervision.appendRuntimeEvent) _).1 = _
    split
    · rfl
    · exact smooth.exec_askHost
  · next notRoot => exact smooth.launches service ⟨found, reachable⟩ notRoot state

theorem Smooth.ensureServiceReady (settled : Settled supervision state)
    (reachable : Reachable supervision.manifest serviceId)
    (found : supervision.manifest.service serviceId = some service)
    (isStarted : serviceId ∈ state.started) :
    (exec (supervision.ensureServiceReady serviceId) state).1 = .ok () := by
  obtain ⟨-, rfl⟩ := GenerationManifest.mem_of_service found
  have ends : Ends (fun ended => ended.1 = .ok ()) (supervision.ensureServiceReady service.id)
      state := by
    refine .get_bind (.ite (fun _ => rfl) fun notReady => .ite (fun _ => rfl) fun real => ?_)
    refine ends_report_of_ok (known_ok.mpr found) ?_
    -- the root service is ready as soon as it is started, so this one is another
    obtain ⟨isChild, notRoot⟩ :=
      (settled.children (by simpa using real) service.id isStarted).resolve_right notReady
    refine .attempt_bind ?_
    rw [smooth.healthy service ⟨found, reachable⟩ notRoot state isChild]
    exact smooth.exec_askHost
  exact ends

theorem Smooth.startServiceTreeInner {fuel : Nat} (settled : Settled supervision state)
    (reachable : Reachable supervision.manifest serviceId)
    (found : supervision.manifest.service serviceId = some service)
    (walks : ∀ target, Needs supervision.manifest serviceId target → ∀ middle,
      Settled supervision middle → middle.starting = state.starting →
      Ends (Lands (fun _ _ => True) fun error _ => error = .unfinished)
        (supervision.startServiceTree fuel target) middle) :
    Ends (Lands (fun _ _ => True) fun error _ => error = .unfinished)
      (supervision.startServiceTreeInner (supervision.startServiceTree fuel) serviceId) state := by
  obtain ⟨-, rfl⟩ := GenerationManifest.mem_of_service found
  obtain ⟨dependencies, collected⟩ := smooth.serviceDependencies ⟨found, reachable⟩
  refine ends_report_of_ok (known_ok.mpr found) (ends_report_of_ok collected ?_)
  have walked : Ends (Lands (fun _ => Walked supervision True dependencies state)
      fun error _ => error = .unfinished)
      (inTurn (fun dependency => do
        supervision.startServiceTree fuel dependency
        supervision.ensureServiceReady dependency) dependencies) state := by
    refine ends_inTurn_walked dependencies ?_ settled rfl
    intro target isNeeded middle settledMiddle place
    have needs := (Supervision.mem_serviceDependencies found collected).mp isNeeded
    obtain ⟨dependency, isDependency⟩ := smooth.service_of_needs reachable needs
    refine ends_walk_ensureServiceReady ?_ ?_
    · exact .lands_imp (.lands_and (ends_startServiceTree fuel target middle settledMiddle)
        (walks target needs middle settledMiddle place)) (fun _ _ both => both.1)
        fun _ _ both => both.2
    · intro after walked
      exact .lands_of_ok (ends_ensureServiceReady walked.settled)
        (smooth.ensureServiceReady walked.settled (reachable.tail needs) isDependency
          (walked.started (List.mem_singleton.mpr rfl)))
  refine .lands_bind walked (fun _ _ cut => cut) fun _ middle _ => ?_
  have starts : (exec (supervision.startService service.id) middle).1 = .ok () :=
    smooth.startService reachable found
  unfold Ends
  rcases outcome : exec (supervision.startService service.id) middle with ⟨error | _, after⟩
  · rw [outcome] at starts
    cases starts
  · trivial

/-- Where nothing is on a cycle, the walk can only be cut off: every service that is being
started needs the one that the walk is at. -/
theorem Smooth.startServiceTree (acyclic : ∀ serviceId, Reachable supervision.manifest serviceId →
      ¬TransGen (Needs supervision.manifest) serviceId serviceId) (fuel : Nat)
    (serviceId : String) (state : Activation) (settled : Settled supervision state)
    (found : ∃ service, supervision.manifest.service serviceId = some service)
    (reachable : Reachable supervision.manifest serviceId)
    (below : ∀ other ∈ state.starting, TransGen (Needs supervision.manifest) other serviceId) :
    Ends (Lands (fun _ _ => True) fun error _ => error = .unfinished)
      (supervision.startServiceTree fuel serviceId) state := by
  induction fuel generalizing serviceId state with
  | zero => rfl
  | succ fuel ih =>
    obtain ⟨service, found⟩ := found
    have notStarting : serviceId ∉ state.starting := fun isStarting =>
      acyclic serviceId reachable (below serviceId isStarting)
    refine .get_bind (.ite (fun _ => trivial) fun _ => ?_)
    refine .require_bind (fun isStarting => absurd notStarting isStarting) fun _ => ?_
    refine .set_bind (.attempt_bind ?_)
    have inner : Ends (Lands (fun _ _ => True) fun error _ => error = .unfinished)
        (supervision.startServiceTreeInner (supervision.startServiceTree fuel) serviceId)
        { state with starting := serviceId :: state.starting } := by
      refine smooth.startServiceTreeInner
        ⟨settled.inOrder, settled.started, settled.ready, settled.children⟩ reachable
        found ?_
      intro target needs middle settledMiddle place
      refine ih target middle settledMiddle (smooth.service_of_needs reachable needs)
        (reachable.tail needs) ?_
      intro other isStarting
      rw [place, List.mem_cons] at isStarting
      rcases isStarting with rfl | isStarting
      · exact .single needs
      · exact (below other isStarting).tail needs
    unfold Ends at inner
    rcases outcome : exec (supervision.startServiceTreeInner
      (supervision.startServiceTree fuel) serviceId)
      { state with starting := serviceId :: state.starting } with ⟨error | _, after⟩
    · rw [outcome] at inner
      exact inner
    · trivial

end

section

variable (supervision) {after : Activation}

theorem settled_initial : Settled supervision {} :=
  ⟨.nil, fun _ => Iff.rfl, nofun, fun _ => nofun⟩

theorem ends_activateStartOrder :
    Ends (Lands (fun _ => Walked supervision False supervision.manifest.startOrder {})
      (Broken supervision supervision.depth [])) supervision.activateStartOrder {} := by
  have outside : ({} : Activation).starting = [] := rfl
  refine ends_inTurn_walked _ ?_ (settled_initial supervision) outside
  intro target _ state settled place
  have walks := ends_startServiceTree supervision.depth target state settled
  rwa [place] at walks

theorem not_broken_unfinished : ¬Broken supervision supervision.depth [] .unfinished after := by
  rintro ⟨-, cut⟩
  have deep : supervision.depth ≤ room supervision [] := cut rfl
  have small := room_nil_le supervision
  unfold Supervision.depth at deep
  omega

variable {supervision}

theorem Smooth.activateStartOrder (smooth : Smooth supervision)
    (acyclic : ∀ serviceId, Reachable supervision.manifest serviceId →
      ¬TransGen (Needs supervision.manifest) serviceId serviceId) :
    Ends (Lands (fun _ => Walked supervision False supervision.manifest.startOrder {})
      fun _ _ => False) supervision.activateStartOrder {} := by
  have walks : Ends (Lands (fun _ => Walked supervision False supervision.manifest.startOrder {})
      fun error _ => error = .unfinished) supervision.activateStartOrder {} := by
    have outside : ({} : Activation).starting = [] := rfl
    refine ends_inTurn_walked _ ?_ (settled_initial supervision) outside
    intro target isFirst state settled place
    have goes := smooth.startServiceTree acyclic supervision.depth target state settled
      (Option.isSome_iff_exists.mp (smooth.startOrder target isFirst)) ⟨target, isFirst, .refl⟩
      (by rw [place]; exact nofun)
    exact .lands_imp (.lands_and (ends_startServiceTree _ target state settled) goes)
      (fun _ _ both => both.1) fun _ _ both => both.2
  refine .lands_imp (.lands_and walks (ends_activateStartOrder supervision))
    (fun _ _ both => both.1) ?_
  rintro _ _ ⟨rfl, broken⟩
  exact not_broken_unfinished supervision broken

/-- A service on a cycle never begins, so a start order that reaches one does not come up. -/
theorem not_walked_of_cycle {serviceId : String}
    (reachable : Reachable supervision.manifest serviceId)
    (cycle : TransGen (Needs supervision.manifest) serviceId serviceId) :
    ¬Walked supervision False supervision.manifest.startOrder {} after := by
  intro walked
  obtain ⟨first, isFirst, reaches⟩ := reachable
  have isBegun := (walked.settled.started first).mp (walked.started isFirst)
  have ordered := walked.settled.inOrder
  exact ordered.not_cycle (ordered.begun_of_reaches isBegun reaches) cycle

theorem Walked.begun_iff {serviceId : String}
    (walked : Walked supervision False supervision.manifest.startOrder {} after) :
    serviceId ∈ begun after.steps ↔ Reachable supervision.manifest serviceId := by
  constructor
  · intro isBegun
    exact (walked.only serviceId ((walked.settled.started serviceId).mpr isBegun)).resolve_left nofun
  · rintro ⟨first, isFirst, reaches⟩
    exact walked.settled.inOrder.begun_of_reaches
      ((walked.settled.started first).mp (walked.started isFirst)) reaches

variable (supervision)

theorem inOrder_activateStartOrder :
    InOrder supervision (exec supervision.activateStartOrder {}).2.steps := by
  have ends := ends_activateStartOrder supervision
  unfold Ends at ends
  rcases outcome : exec supervision.activateStartOrder {} with ⟨error | _, after⟩ <;>
    rw [outcome] at ends
  · exact ends.1
  · exact ends.settled.inOrder

/-- Whatever the host answers, an activation ends, spawns no service twice, and none before
everything it needs besides itself has been started and found ready.  A cycle of needs is an
error; without any error, exactly what the start order reaches starts. -/
theorem activateStartOrder_spec : let ended := exec supervision.activateStartOrder {}
    ended.1 ≠ .error .unfinished ∧ (spawned ended.2.steps).Nodup ∧
    (∀ before serviceId later, ended.2.steps = before ++ .spawns serviceId :: later →
      ∀ dependency, Needs supervision.manifest serviceId dependency →
        (dependency ∈ spawned before ∨ dependency = supervision.manifest.rootService ∧
          dependency ∈ begun before) ∧ dependency ∈ readied before) ∧
    ((∃ serviceId, Reachable supervision.manifest serviceId ∧
        TransGen (Needs supervision.manifest) serviceId serviceId) →
      ∃ text, ended.1 = .error (.message text)) ∧
    (Smooth supervision → (∀ serviceId, Reachable supervision.manifest serviceId →
        ¬TransGen (Needs supervision.manifest) serviceId serviceId) →
      ended.1 = .ok () ∧
        ∀ serviceId, serviceId ∈ begun ended.2.steps ↔
          Reachable supervision.manifest serviceId) := by
  have ordered := inOrder_activateStartOrder supervision
  have ends := ends_activateStartOrder supervision
  have smoothly := @Smooth.activateStartOrder supervision
  unfold Ends at ends smoothly
  generalize exec supervision.activateStartOrder {} = ended at ordered ends smoothly ⊢
  refine ⟨?_, ordered.nodup_spawned, ?_, ?_, ?_⟩
  · intro cut
    obtain ⟨outcome, after⟩ := ended
    obtain rfl : outcome = .error .unfinished := cut
    exact not_broken_unfinished supervision ends
  · intro before serviceId later split dependency needs
    have inSteps : SupervisorStep.spawns serviceId ∈ ended.2.steps :=
      split ▸ List.mem_append_right _ (List.mem_cons_self ..)
    have real : supervision.dryRun = false := ordered.suits inSteps
    obtain ⟨isBegun, isReady⟩ := ordered.behind_of_begins split rfl needs
    exact ⟨(ordered.spawned_of_begun real split isBegun).imp_right fun isRoot => ⟨isRoot, isBegun⟩,
      isReady⟩
  · rintro ⟨serviceId, reachable, cycle⟩
    rcases ended with ⟨(text | _) | _, after⟩
    · exact ⟨text, rfl⟩
    · exact absurd ends (not_broken_unfinished supervision)
    · exact absurd ends (not_walked_of_cycle reachable cycle)
  · intro smooth acyclic
    have walked := smoothly smooth acyclic
    rcases ended with ⟨_ | _, after⟩
    · cases walked
    · exact ⟨rfl, fun serviceId => walked.begun_iff⟩

end

def obligingHost (manifest : GenerationManifest) : Supervision where
  manifest := manifest
  dryRun := false
  stateRoot := ["state"]
  runtimeDir := ["run"]
  files _ := openFiles
  host _ := .ok ()

/-- The second owner starts after `dependency`. -/
def ownersInOrder (dependency : String) : GenerationManifest :=
  { twoOwners "state:x" "state:y" with
    services := [volumeOwner "svc:left" "state:x",
      { volumeOwner "svc:right" "state:y" with startAfter := [dependency] }] }

/-- A service may name itself among what it starts after, and is spawned all the same. -/
theorem spawns_ownersInOrder_self :
    let ended := exec (obligingHost (ownersInOrder "svc:right")).activateStartOrder {}
    ((ownersInOrder "svc:right").service "svc:right").map (·.startAfter) = some ["svc:right"] ∧
      ended.1.isOk ∧ ended.2.steps = [.skipsRoot "svc:left", .spawns "svc:right"] := by
  decide +kernel

theorem smooth_ownersInOrder : Smooth (obligingHost (ownersInOrder "svc:left")) := by
  have declared : ∀ service, Reached (ownersInOrder "svc:left") service →
      service ∈ (ownersInOrder "svc:left").services := fun service reached =>
    (GenerationManifest.mem_of_service reached.1).1
  refine ⟨fun _ => rfl, by decide +kernel, ?_, ?_, ?_, ?_⟩ <;> intro service reached <;>
    rcases List.mem_pair.mp (declared service reached) with rfl | rfl
  · decide +kernel
  · decide +kernel
  · decide +kernel
  · decide +kernel
  · exact fun _ _ => rfl
  · exact fun _ _ => rfl
  · exact fun _ _ _ => rfl
  · exact fun _ _ _ => rfl

theorem needs_ownersInOrder {serviceId dependency : String}
    (needs : Needs (ownersInOrder "svc:left") serviceId dependency) :
    serviceId = "svc:right" ∧ dependency = "svc:left" := by
  obtain ⟨service, found, -, isNeeded⟩ := needs
  obtain ⟨declared, rfl⟩ := GenerationManifest.mem_of_service found
  rcases List.mem_pair.mp declared with rfl | rfl
  · simp [volumeOwner] at isNeeded
  · simpa [volumeOwner] using isNeeded

theorem activateStartOrder_ownersInOrder :
    (exec (obligingHost (ownersInOrder "svc:left")).activateStartOrder {}).1 = .ok () := by
  obtain ⟨-, -, -, -, starts⟩ := activateStartOrder_spec (obligingHost (ownersInOrder "svc:left"))
  refine (starts smooth_ownersInOrder ?_).1
  intro serviceId _ cycle
  obtain ⟨dependency, needs, reaches⟩ := TransGen.head'_iff.mp cycle
  obtain ⟨rfl, rfl⟩ := needs_ownersInOrder needs
  rcases reaches.cases_head with same | ⟨_, needs, -⟩
  · exact absurd same (by decide)
  · exact absurd (needs_ownersInOrder needs).1 (by decide)

end VertexOS.Supervisor

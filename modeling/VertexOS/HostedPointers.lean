import VertexOS.HostedGrants

/-!
# The activation pointers of a hosted state root

Two files under the state root of a host name the current activation and the previous one.  An
activation is committed, and rolled back, by writing one file after the other.
-/

namespace VertexOS.Hosted

open FailingCalls Supervisor

structure ActivationPointer where
  activationId : String
  generationId : String
  manifestPath : String
  activatedUtcMs : Nat
  deriving DecidableEq

structure ActivationRecord where
  activationId : String
  generationId : String
  storedManifestPath : String
  activatedUtcMs : Nat

def ActivationRecord.pointer (record : ActivationRecord) : ActivationPointer where
  activationId := record.activationId
  generationId := record.generationId
  manifestPath := record.storedManifestPath
  activatedUtcMs := record.activatedUtcMs

structure PointerFiles where
  current : Option ActivationPointer
  previous : Option ActivationPointer
  deriving DecidableEq

/-- Which steps of a commitment or a rollback succeed.  Those that write no pointer are
taken together. -/
structure PointerHost where
  createRoot : Bool := true
  readPrevious : Bool := true
  loadManifest : Bool := true
  restoreSnapshots : Bool := true
  runSupervisor : Bool := true
  readCurrent : Bool := true
  writeCurrent : Bool := true
  writePrevious : Bool := true
  appendHistory : Bool := true

abbrev PointerCall := Call String PointerFiles

def currentPath (stateRoot : HostPath) : HostPath := stateRoot ++ ["current.json"]

def previousPath (stateRoot : HostPath) : HostPath := stateRoot ++ ["previous.json"]

def historyPath (stateRoot : HostPath) : HostPath := stateRoot ++ ["history.jsonl"]

section

variable (host : PointerHost) (stateRoot : HostPath) (restoreState : Bool)

/-- A pointer becomes the current one, and after that the one that was current the previous
one. -/
def makeCurrent (pointer : ActivationPointer) : PointerCall Unit := do
  require s!"failed to read {display (currentPath stateRoot)}" host.readCurrent
  let before ← get
  require s!"failed to write {display (currentPath stateRoot)}" host.writeCurrent
  modify fun files => { files with current := some pointer }
  if before.current.isSome then do
    require s!"failed to write {display (previousPath stateRoot)}" host.writePrevious
    modify fun files => { files with previous := before.current }
  else pure ()
  require s!"failed to open {display (historyPath stateRoot)}" host.appendHistory

def commitActivation (record : ActivationRecord) : PointerCall Unit :=
  makeCurrent host stateRoot record.pointer

def rollback : PointerCall Unit := do
  require s!"failed to create {display stateRoot}" host.createRoot
  require s!"failed to read {display (previousPath stateRoot)}" host.readPrevious
  let files ← get
  let previous ← fromOption s!"no previous generation recorded under {display stateRoot}"
    files.previous
  require "manifest has errors" host.loadManifest
  require "failed to restore snapshots" (!restoreState || host.restoreSnapshots)
  require "supervisor exited with failure" host.runSupervisor
  makeCurrent host stateRoot previous

end

def PointsTo (activation : ActivationPointer) (files : PointerFiles) : Prop :=
  files.current = some activation ∨ files.previous = some activation

section

variable {stateRoot : HostPath} {host : PointerHost} {activation pointer : ActivationPointer}
  {previous : Option ActivationPointer}

theorem makeCurrent_cases (host : PointerHost) (stateRoot : HostPath)
    (activation pointer : ActivationPointer) (previous : Option ActivationPointer) :
    (exec (makeCurrent host stateRoot pointer) ⟨some activation, previous⟩).2 ∈
      ([⟨some activation, previous⟩, ⟨some pointer, previous⟩, ⟨some pointer, some activation⟩] :
        List PointerFiles) := by
  simp only [makeCurrent, exec_bind, exec_require, exec_get, exec_modify]
  cases host.readCurrent <;> cases host.writeCurrent <;> cases host.writePrevious <;>
    cases host.appendHistory <;> simp [exec_bind]

theorem pointsTo_makeCurrent (known : pointer = activation ∨ previous = some activation) :
    PointsTo activation
      (exec (makeCurrent host stateRoot pointer) ⟨some activation, previous⟩).2 := by
  have written := makeCurrent_cases host stateRoot activation pointer previous
  simp only [List.mem_cons, List.not_mem_nil, or_false] at written
  rcases written with same | same | same <;> rw [same] <;> simp_all [PointsTo]

/-- The host lets one pointer be written and fails then. -/
def halfWritten : PointerHost := { writePrevious := false }

theorem exec_makeCurrent_halfWritten :
    (exec (makeCurrent halfWritten stateRoot pointer) ⟨some activation, previous⟩).2 =
      ⟨some pointer, previous⟩ :=
  rfl

theorem exec_rollback_halfWritten (restoreState : Bool) :
    (exec (rollback halfWritten stateRoot restoreState) ⟨some activation, some pointer⟩).2 =
      ⟨some pointer, some pointer⟩ := by
  cases restoreState <;> rfl

end

/-- The activation that is current stays known, wherever a commitment or a rollback is cut off,
exactly if it is also the one that is made current, or the previous one. -/
theorem pointers_survive_iff (stateRoot : HostPath) (restoreState : Bool)
    (activation : ActivationPointer) (previous : Option ActivationPointer)
    (record : ActivationRecord) :
    ((∀ host, PointsTo activation
        (exec (commitActivation host stateRoot record) ⟨some activation, previous⟩).2) ↔
      record.pointer = activation ∨ previous = some activation) ∧
    ((∀ host, PointsTo activation
        (exec (rollback host stateRoot restoreState) ⟨some activation, previous⟩).2) ↔
      ∀ target, previous = some target → target = activation) := by
  refine ⟨⟨fun survives => ?_, fun known host => pointsTo_makeCurrent known⟩,
    fun survives target found => ?_, fun known host => ?_⟩
  · have cut := survives halfWritten
    rw [commitActivation, exec_makeCurrent_halfWritten] at cut
    simpa [PointsTo] using cut
  · subst found
    have cut := survives halfWritten
    rw [exec_rollback_halfWritten] at cut
    simpa [PointsTo] using cut
  · -- before the pointers are written every failure leaves them alone
    refine (?_ : Ends (fun ended => PointsTo activation ended.2) _ _)
    refine .require_bind (fun _ => .inl rfl) fun _ => .require_bind (fun _ => .inl rfl) fun _ => ?_
    refine .get_bind (.fromOption_bind (fun _ => .inl rfl) fun target found => ?_)
    refine .require_bind (fun _ => .inl rfl) fun _ => .require_bind (fun _ => .inl rfl) fun _ => ?_
    refine .require_bind (fun _ => .inl rfl) fun _ => ?_
    exact pointsTo_makeCurrent (.inl (known target found))

/-- A commitment and a rollback that are cut off lose the second of three activations. -/
theorem second_pointer_lost : let first : ActivationPointer :=
      ⟨"1-base", "base", "/s/activations/1-base/manifest.vertex.json", 1⟩
    let second : ActivationPointer :=
      ⟨"2-next", "next", "/s/activations/2-next/manifest.vertex.json", 2⟩
    let third : ActivationRecord :=
      ⟨"3-other", "other", "/s/activations/3-other/manifest.vertex.json", 3⟩
    (exec (commitActivation halfWritten ["s"] third) ⟨some second, some first⟩).2 =
      ⟨some third.pointer, some first⟩ ∧
    (exec (rollback halfWritten ["s"] false) ⟨some second, some first⟩).2 =
      ⟨some first, some first⟩ ∧
    ¬PointsTo second ⟨some third.pointer, some first⟩ ∧
    ¬PointsTo second ⟨some first, some first⟩ := by
  refine ⟨rfl, rfl, ?_, ?_⟩ <;> simp [PointsTo, ActivationRecord.pointer]

end VertexOS.Hosted

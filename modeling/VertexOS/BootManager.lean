import VertexOS.BootConfig

/-!
# The boot manager

The record of the selected, the previous and the last good generation, and of failures.
-/

namespace VertexOS

structure BootManagerState where
  selectedGeneration : String
  previousGeneration : String
  knownGoodGeneration : String
  lastFailedGeneration : String
  lastFailureReason : String
  lastFailureService : String
  lastFailureDependency : String
  lastFailurePolicy : String
  lastStateMigrationState : String
  lastStateMigrationError : String
  lastStateMigrationStatus : String
  lastTransactionState : String
  lastTransactionTarget : String
  transactionCounter : Nat
  bootAttemptCounter : Nat
deriving DecidableEq, Repr

/-- Why a generation may not follow the running one: a state volume stands against it. -/
structure StateTransitionError where
  state : String
  previousSchema : String
  targetSchema : String
  reason : String
  oldStateReadable : Bool
deriving DecidableEq, Repr

namespace BootManagerState

variable (manager : BootManagerState)

def new : BootManagerState where
  selectedGeneration := ""
  previousGeneration := ""
  knownGoodGeneration := ""
  lastFailedGeneration := ""
  lastFailureReason := ""
  lastFailureService := ""
  lastFailureDependency := ""
  lastFailurePolicy := ""
  lastStateMigrationState := ""
  lastStateMigrationError := ""
  lastStateMigrationStatus := "clean"
  lastTransactionState := "idle"
  lastTransactionTarget := ""
  transactionCounter := 0
  bootAttemptCounter := 0

/-- A runtime is installed; its generation is selected only where none was. -/
def startBoot (generationId : String) : BootManagerState :=
  { manager with
    selectedGeneration :=
      if manager.selectedGeneration = "" then generationId else manager.selectedGeneration
    bootAttemptCounter := manager.bootAttemptCounter + 1 }

def clearStateMigrationFailure : BootManagerState :=
  { manager with
    lastStateMigrationState := ""
    lastStateMigrationError := ""
    lastStateMigrationStatus := "clean" }

def clearFailure : BootManagerState :=
  { manager with
    lastFailureReason := ""
    lastFailureService := ""
    lastFailureDependency := ""
    lastFailurePolicy := "" }.clearStateMigrationFailure

def installSelected (previous selected : String) :
    BootManagerState :=
  { manager.clearFailure with
    previousGeneration := previous
    selectedGeneration := selected
    lastTransactionState := "commit"
    lastTransactionTarget := selected
    transactionCounter := manager.transactionCounter + 1
    bootAttemptCounter := manager.bootAttemptCounter + 1 }

def installPrepare (previous target : String) : BootManagerState :=
  { manager with
    previousGeneration := previous
    lastTransactionState := "prepare"
    lastTransactionTarget := target
    transactionCounter := manager.transactionCounter + 1 }

/-- What a failure hangs on, and the policy that it falls under. -/
def failureDetail : String → String × String
  | "verification-failed" => ("store-closure", "installable-generation")
  | "runtime-build-failed" => ("service-readiness", "activation")
  | "rollback-build-failed" => ("rollback-runtime", "known-good-rollback")
  | "state-migration-failed" => ("state-schema", "state-migration")
  | _ => ("unknown", "activation")

def installAbort (target reason : String) : BootManagerState :=
  { manager with
    lastFailedGeneration := target
    lastFailureReason := reason
    lastFailureService := target
    lastFailureDependency := (failureDetail reason).1
    lastFailurePolicy := (failureDetail reason).2
    lastTransactionState := "abort"
    lastTransactionTarget := target
    transactionCounter := manager.transactionCounter + 1 }

def installStateMigrationAbort (target : String)
    (error : StateTransitionError) : BootManagerState :=
  { manager with
    lastStateMigrationState := error.state
    lastStateMigrationError := error.reason
    lastStateMigrationStatus := "failed" }.installAbort target "state-migration-failed"

def markKnownGood (generationId : String) : BootManagerState :=
  { manager.clearFailure with
    knownGoodGeneration := generationId
    selectedGeneration := generationId }

def markFailedAndFallback (failed fallback : String) :
    BootManagerState :=
  { manager.clearStateMigrationFailure with
    lastFailedGeneration := failed
    lastFailureReason := "activation-failed"
    lastFailureService := failed
    lastFailureDependency := "service-readiness"
    lastFailurePolicy := "known-good-rollback"
    previousGeneration := failed
    selectedGeneration := fallback
    lastTransactionState := "rollback"
    lastTransactionTarget := fallback
    transactionCounter := manager.transactionCounter + 1 }

def recoverFromDisk
    (selected previous knownGood transaction target failureReason : String) : BootManagerState :=
  let culprit := if transaction = "rollback" ∧ previous ≠ "" then previous else target
  let recovered := { manager with
    selectedGeneration := selected
    previousGeneration := previous
    knownGoodGeneration := knownGood
    lastFailureReason := failureReason
    lastTransactionState := transaction
    lastTransactionTarget := target }
  if failureReason = "" then recovered
  else
    { recovered with
      lastFailureService := culprit
      lastFailureDependency :=
        if transaction = "rollback" then "service-readiness" else "store-closure"
      lastFailurePolicy :=
        if transaction = "rollback" then "known-good-rollback" else "activation"
      lastFailedGeneration := culprit }

end BootManagerState

end VertexOS

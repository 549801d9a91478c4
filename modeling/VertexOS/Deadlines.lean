import VertexOS.Scheduler

/-!
# Deadlines of the clock

The scheduler compares two readings of the clock by the sign of their difference, so that
a deadline more than half of all readings ahead looks like one that has passed.
-/

namespace VertexOS

open ByteStrings

theorem deadlineReached_iff {now deadline : Tsc} : deadlineReached now deadline ↔
    deadline.toNat ≤ now.toNat ∧ now.toNat < deadline.toNat + 2 ^ 63 ∨
      now.toNat + 2 ^ 63 < deadline.toNat := by
  have nowFits := now.isLt
  have deadlineFits := deadline.isLt
  rw [deadlineReached, decide_eq_true_eq, BitVec.toInt_eq_toNat_cond, BitVec.toNat_sub]
  split <;> omega

theorem toNat_deadlineAfterMs (machine : Machine) (milliseconds : Nat) :
    (deadlineAfterMs machine milliseconds).toNat =
      min ((machine.clock 3).toNat + milliseconds * machine.ticksPerMs) (2 ^ 64 - 1) := by
  rw [deadlineAfterMs, BitVec.toNat_ofNat]
  omega

theorem Process.wakeTimed_ready_iff {process : Process} {now deadline : Tsc}
    (waits : process.deadline = some deadline) :
    (process.wakeTimed now).state = .ready ↔ deadlineReached now deadline := by
  unfold Process.deadline at waits
  unfold Process.wakeTimed Process.timedOut
  split at waits
  all_goals cases waits
  all_goals
    rename_i waiting
    by_cases reached : deadlineReached now deadline
    · simp [waiting, reached, Process.wakeWith]
    · simp [waiting, reached]

/-- The clock never wakes a process before its time exactly when the time is at most one tick
more than half of all readings ahead and the clock can show its end, or when the clock is at its
last reading already. -/
theorem never_woken_early_iff {machine : Machine} {milliseconds index : Nat}
    {runtime : RuntimeState} {process : Process}
    (here : runtime.processes.processes[index]? = some process)
    (waits : process.deadline = some (deadlineAfterMs machine milliseconds)) :
    (∀ now : Tsc, (machine.clock 3).toNat < now.toNat →
      now.toNat < (machine.clock 3).toNat + milliseconds * machine.ticksPerMs →
      ((runtime.wakeTimedProcesses now).processes.processes[index]?.map Process.state) ≠
        some .ready) ↔
    (machine.clock 3).toNat = 2 ^ 64 - 1 ∨
      milliseconds * machine.ticksPerMs ≤ 2 ^ 63 + 1 ∧
        (machine.clock 3).toNat + milliseconds * machine.ticksPerMs < 2 ^ 64 := by
  have later (now : Tsc) : (runtime.wakeTimedProcesses now).processes.processes[index]?.map
      Process.state = some .ready ↔ deadlineReached now (deadlineAfterMs machine milliseconds) := by
    rw [← Process.wakeTimed_ready_iff waits]
    simp [RuntimeState.wakeTimedProcesses, RuntimeState.updateProcesses,
      ProcessTable.wakeTimedProcesses, ProcessTable.updateAll, here]
  have startFits := (machine.clock 3).isLt
  simp only [ne_eq, later, deadlineReached_iff, toNat_deadlineAfterMs]
  generalize milliseconds * machine.ticksPerMs = ticks at *
  constructor
  · intro never
    -- the next reading of all looks past a far deadline, the last one past a cut one
    have atNext := never (BitVec.ofNat 64 ((machine.clock 3).toNat + 1))
    have atEnd := never (BitVec.ofNat 64 (2 ^ 64 - 1))
    simp only [BitVec.toNat_ofNat] at atNext atEnd
    omega
  · rintro (atLast | ⟨near, shown⟩) now later early
    · have nowFits := now.isLt
      omega
    · omega

def sleeper (milliseconds : Nat) : Process :=
  Process.new ⟨1⟩ "sleeper" ⟨1, 0, 0⟩ 0 0 (.sleeping (deadlineAfterMs (.holding []) milliseconds))
    .new ⟨utf8 "/", rootPath_le⟩

def withSleeper (milliseconds : Nat) : RuntimeState :=
  { RuntimeState.new with processes := ⟨[sleeper milliseconds], none, 2⟩ }

theorem never_woken_early_five :
    ((withSleeper 5).wakeTimedProcesses 4).processes.processes[0]?.map Process.state ≠
      some .ready := by
  have here : (withSleeper 5).processes.processes[0]? = some (sleeper 5) := rfl
  exact (never_woken_early_iff here rfl).mpr (by decide) 4 (by decide) (by decide)

/-- A sleep of more than half of all readings ends at the next of them. -/
theorem exists_woken_early : let machine := Machine.holding []
    (machine.clock 3).toNat < (1 : Tsc).toNat ∧
      (1 : Tsc).toNat < (machine.clock 3).toNat + (2 ^ 63 + 2) * machine.ticksPerMs ∧
      ((withSleeper (2 ^ 63 + 2)).wakeTimedProcesses 1).processes.processes[0]?.map Process.state =
        some .ready := by
  decide

end VertexOS

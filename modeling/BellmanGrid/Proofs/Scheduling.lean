import BellmanGrid.Proofs.SweepAgreement
import BellmanGrid.Proofs.Tracking

/-!
Blocks and their order do not show in the result of a solve.
-/

namespace BellmanGrid

namespace Schedule

/-- The last block of each time comes first. -/
def reversed : Schedule :=
  fun _ blocks => blocks.reverse

theorem reversed_reorders : reversed.Reorders :=
  fun _ blocks => List.reverse_perm blocks

end Schedule

namespace GridProblem

variable {α : Type} [Number α]

/-- One worker that takes all states as one block. -/
def oneBlock (task : GridProblem α) : Execution :=
  ⟨1, task.states.size, Nat.one_pos, task.states.size_pos⟩

/-- The cover is a single block of all states. -/
theorem cover_oneBlock (task : GridProblem α) :
    Block.cover task.states.size task.oneBlock.chunkSize = [⟨0, task.states.size⟩] := by
  have hstates := task.states.size_pos
  have hcount : (task.states.size + task.states.size - 1) / task.states.size = 1 := by
    rw [Nat.add_sub_assoc hstates, Nat.add_div_left _ hstates, Nat.div_eq_of_lt (by omega)]
  show Block.cover task.states.size task.states.size = _
  rw [Block.cover, hcount]
  simp

/-- A solve succeeds with any workers, any block size and any order of the blocks of each time
exactly when it succeeds with a single block, and with the same table.  Only a problem that is
evaluated in blocks must act entry by entry. -/
theorem solveScheduled_eq_ok_iff_oneBlock {task : GridProblem α}
    (helementwise : task.problem.vectorized = true → ∃ result, task.problem.ActsAs result)
    (execution : Execution) {schedule : Schedule} (hschedule : schedule.Reorders) (horizon : Nat)
    (table : Table α task.states.size horizon) :
    task.solveScheduled execution.chunkSize schedule horizon = .ok table ↔
      task.solve task.oneBlock horizon = .ok table := by
  obtain ⟨result, hacts⟩ := Problem.exists_actsAs helementwise
  rw [solve, solveScheduled_eq_ok_iff hacts execution.chunkSize_pos hschedule,
    solveScheduled_eq_ok_iff hacts task.oneBlock.chunkSize_pos Schedule.sequential_reorders]

/-- Blocks of two states, the last block first. -/
theorem exists_solveScheduled_reversed : Schedule.reversed.Reorders ∧
    ∃ table, (Tracking.task true).solveScheduled 2 .reversed 2 = .ok table ∧
      (Tracking.task true).solve (Tracking.task true).oneBlock 2 = .ok table := by
  refine ⟨Schedule.reversed_reorders, ?_⟩
  have hsucceeds : ((Tracking.task true).solveScheduled 2 .reversed 2).isOk = true := by
    decide +kernel
  cases hsolve : (Tracking.task true).solveScheduled 2 .reversed 2 with
  | error error => simp [hsolve, Except.isOk, Except.toBool] at hsucceeds
  | ok table =>
      exact ⟨table, rfl, (solveScheduled_eq_ok_iff_oneBlock
        (fun _ => ⟨_, (Tracking.system Float).problem_actsAs true⟩) ⟨2, 2, by decide, by decide⟩
        Schedule.reversed_reorders 2 table).mp hsolve⟩

end GridProblem

end BellmanGrid

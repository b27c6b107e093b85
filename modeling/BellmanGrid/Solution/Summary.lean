import BellmanGrid.Decimal.Aligned
import BellmanGrid.Solution.Basic

/-!
The summary of a solution.
-/

namespace BellmanGrid

namespace Solution

variable {task : GridProblem Float}

/-- Horizon, grids, trajectory and costs, one to a line. -/
def summary (solution : Solution Float task) : Except (TrajectoryError Float) String := do
  let realized ← solution.realizedCost
  return "\n".intercalate [
    s!"Horizon           : {solution.horizon}",
    s!"State grid        : {task.states.description}",
    s!"Control grid      : {task.controls.description}",
    s!"Optimal controls  : {Decimal.aligned solution.trajectory.controls}",
    s!"Optimal states    : {Decimal.aligned solution.trajectory.states}",
    s!"Total optimal cost: {Decimal.fixed 6 solution.trajectory.cost}",
    s!"Realized cost     : {Decimal.fixed 6 realized}"]

end Solution

end BellmanGrid

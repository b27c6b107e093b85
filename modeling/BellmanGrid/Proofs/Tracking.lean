import BellmanGrid.LinearQuadratic.Basic
import BellmanGrid.Proofs.PointResults
import BellmanGrid.Sweep.Solve

/-!
The linear-quadratic tracking problem as a family of point results, and a small instance of it.
-/

namespace BellmanGrid

namespace LinearQuadratic

variable {α : Type} [Number α]

/-- What the callbacks of the tracking problem have to say at a point. -/
def pointResult (system : LinearQuadratic α) : PointResult α :=
  Problem.functionResult (fun _ => system.next) (fun _ => system.stageCost)
    (fun _ => system.terminalCost)

theorem problem_actsAs (system : LinearQuadratic α) (vectorized : Bool) :
    (system.problem vectorized).ActsAs system.pointResult :=
  Problem.ofFunctions_actsAs _ _ _ _ _

theorem pointResult_problem (system : LinearQuadratic α) (vectorized : Bool) :
    (system.problem vectorized).pointResult = system.pointResult := by
  funext role state control time
  cases role <;> cases control <;> rfl

theorem problem_actsAs_pointResult (system : LinearQuadratic α) (vectorized : Bool) :
    (system.problem vectorized).ActsAs (system.problem vectorized).pointResult := by
  rw [system.pointResult_problem vectorized]
  exact system.problem_actsAs vectorized

theorem pointResult_alwaysAnswers (system : LinearQuadratic α) :
    system.pointResult.AlwaysAnswers :=
  Problem.functionResult_alwaysAnswers _ _ _

end LinearQuadratic

namespace Tracking

/-- Three doubles around zero. -/
def points : Array Float :=
  #[Number.ofInt (-1), Number.ofInt 0, Number.ofInt 1]

def grid : Grid Float where
  name := "grid"
  points := points
  nonempty := by decide
  finite := by
    have hfinite : ∀ index, (h : index < points.size) →
        Number.isFinite points[index] = true := by decide +kernel
    exact hfinite
  increasing := by
    have hrises : risesFrom points 0 = true := by decide +kernel
    exact fun index hnext => less_of_risesFrom hrises index (Nat.zero_le _) hnext

/-- The same three points as rationals. -/
def rationalGrid : Grid Rat where
  name := "grid"
  points := #[-1, 0, 1]
  nonempty := by decide
  finite := fun _ _ => rfl
  increasing := by
    have hrises : risesFrom (#[-1, 0, 1] : Array Rat) 0 = true := by decide +kernel
    exact fun index hnext => less_of_risesFrom hrises index (Nat.zero_le _) hnext

/-- Unit weights, and a target beyond the grid. -/
def system (α : Type) [Number α] : LinearQuadratic α :=
  { a := Number.ofInt 1, b := Number.ofInt 1, q := Number.ofInt 1, r := Number.ofInt 1,
    terminalWeight := Number.ofInt 1, target := Number.ofInt 2 }

/-- An exception that holds an integer too long to be written. -/
def tooLong : Raised :=
  .unwritten FailureKind.value.name (.ofError ConversionError.unwritable)

/-- The tracking problem on three states and three controls. -/
def task (vectorized : Bool) : GridProblem Float :=
  ⟨(system Float).problem vectorized, grid, grid⟩

/-- The lowest state. -/
def lowest (vectorized : Bool) : Fin (task vectorized).states.size :=
  ⟨0, (task vectorized).states.size_pos⟩

end Tracking

end BellmanGrid

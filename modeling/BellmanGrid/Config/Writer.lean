import BellmanGrid.Config.Basic

/-!
The configuration of a run as a value: five mappings with all of their keys.
-/

namespace BellmanGrid

/-- A mapping with text keys. -/
def Value.record (entries : List (String × Value)) : Value :=
  .mapping (entries.map fun (key, item) => (.text key, item))

def RangeSettings.toValue (range : RangeSettings) : Value :=
  .record [("min", .real range.lower), ("max", .real range.upper), ("step", .real range.step)]

/-- The configuration of a run as a mapping of sections. -/
def RunConfig.toValue (config : RunConfig) : Value :=
  .record [
    ("problem", .record [
      ("a", .real config.problem.a), ("b", .real config.problem.b),
      ("q", .real config.problem.q), ("r", .real config.problem.r),
      ("p_terminal", .real config.problem.terminalWeight),
      ("x_target", .real config.problem.target), ("x0", .real config.problem.initial),
      ("horizon", .integer config.problem.horizon)]),
    ("state_grid", config.states.toValue),
    ("control_grid", config.controls.toValue),
    ("solver", .record [
      ("workers", .integer config.execution.workers),
      ("chunk_size", .integer config.execution.chunkSize)]),
    ("output", .record [
      ("directory", .text config.output.directory), ("plot", .boolean config.output.figure)])]

end BellmanGrid

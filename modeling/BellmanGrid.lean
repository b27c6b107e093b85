import BellmanGrid.Config.Writer
import BellmanGrid.LinearQuadratic.OfValues
import BellmanGrid.Main
import BellmanGrid.Problem.Source
import BellmanGrid.Table.Request
import BellmanGrid.Proofs.PointResults
import BellmanGrid.Proofs.FirstMinimum
import BellmanGrid.Proofs.Recursion
import BellmanGrid.Proofs.StageAgreement
import BellmanGrid.Proofs.BlockWrites
import BellmanGrid.Proofs.SweepAgreement
import BellmanGrid.Proofs.Scheduling
import BellmanGrid.Proofs.Tracking
import BellmanGrid.Proofs.ModeAgreement
import BellmanGrid.Proofs.Optimality
import BellmanGrid.Proofs.ExactNumber
import BellmanGrid.Proofs.ClosedFormOptimality
import BellmanGrid.Proofs.CostBounds
import BellmanGrid.Proofs.Rounding
import BellmanGrid.Proofs.DoubleOrder
import BellmanGrid.Proofs.DoubleStorage
import BellmanGrid.Proofs.DoubleAddition
import BellmanGrid.Proofs.FloatLaws
import BellmanGrid.Proofs.HorizonSplit
import BellmanGrid.Proofs.NearestPoint
import BellmanGrid.Proofs.GridAgainstClosedForm
import BellmanGrid.Proofs.FirstOffence
import BellmanGrid.Proofs.DifferenceLaws
import BellmanGrid.Proofs.DoubleSubtraction
import BellmanGrid.Proofs.OrderedSnapping
import BellmanGrid.Proofs.RealizedCost
import BellmanGrid.Proofs.GridRefinement
import BellmanGrid.Proofs.Outcomes
import BellmanGrid.Proofs.EvaluationOutcomes
import BellmanGrid.Proofs.Admission
import BellmanGrid.Proofs.ChoiceOutcomes
import BellmanGrid.Proofs.BlockCover
import BellmanGrid.Proofs.SweepOutcomes
import BellmanGrid.Proofs.TableWrites
import BellmanGrid.Proofs.TableHistory
import BellmanGrid.Proofs.UncaughtErrors
import BellmanGrid.Proofs.BellmanEquations
import BellmanGrid.Proofs.ReplayPath
import BellmanGrid.Proofs.FilledShare
import BellmanGrid.Proofs.SelectedCells
import BellmanGrid.Proofs.FileWrites
import BellmanGrid.Proofs.CommandOutcome
import BellmanGrid.Proofs.LexicographicPolicy
import BellmanGrid.Proofs.CostComparison
import BellmanGrid.Proofs.AffineCosts
import BellmanGrid.Proofs.CheckOrder
import BellmanGrid.Proofs.FirstFailure
import BellmanGrid.Proofs.WellPosedness
import BellmanGrid.Proofs.IntegerDoubles
import BellmanGrid.Proofs.UniformRange
import BellmanGrid.Proofs.StoredCells
import BellmanGrid.Proofs.SelectionSizes
import BellmanGrid.Proofs.FailedWrites
import BellmanGrid.Proofs.AcceptedConfigurations
import BellmanGrid.Proofs.KeywiseConfiguration
import BellmanGrid.Proofs.ExportedTrajectory

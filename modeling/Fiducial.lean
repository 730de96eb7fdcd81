import Fiducial.Camera.Points
import Fiducial.Command
import Fiducial.Gate.Raw
import Fiducial.Main
import Fiducial.PoseLog.Draft
import Fiducial.Proofs.ReplayEnding
import Fiducial.Proofs.SnapshotSimulation
import Fiducial.Sample.Files
import Fiducial.Proofs.MalformedEvents
import Fiducial.Proofs.FuserLedger
import Fiducial.Proofs.SessionAccounts
import Fiducial.Proofs.ReplayAccounts
import Fiducial.Proofs.ExactArithmetic
import Fiducial.Proofs.RigidTransforms
import Fiducial.Proofs.PoseRecovery
import Fiducial.Proofs.MapRelocation
import Fiducial.Proofs.FrameRoutes
import Fiducial.Proofs.FrameConsistency
import Fiducial.Proofs.WorkerConservation
import Fiducial.Worker.Frames
import Fiducial.Proofs.WorkerRecord
import Fiducial.Proofs.WorkerOrder
import Fiducial.Proofs.WorkerFailure
import Fiducial.Proofs.RotationFormulas
import Fiducial.Proofs.PublishedPoses
import Fiducial.Proofs.Failures
import Fiducial.Proofs.YamlScanFaults
import Fiducial.Proofs.YamlFaults
import Fiducial.Proofs.CommandAnswers
import Fiducial.Proofs.GateMonotonicity
import Fiducial.Proofs.FiniteDoubles
import Fiducial.Proofs.AcceptedConfigs
import Fiducial.Proofs.PublishedBounds
import Fiducial.Proofs.TrimmedText
import Fiducial.Proofs.SpelledIds
import Fiducial.Proofs.FileTrees
import Fiducial.Proofs.EventLines
import Fiducial.Proofs.BrokenEvents
import Fiducial.Proofs.ConfigChecks
import Fiducial.Proofs.FrameOrder
import Fiducial.Proofs.UsableConfigs
import Fiducial.Proofs.ConfigRefusals
import Fiducial.Proofs.MarkerDetections
import Fiducial.Proofs.WrittenConfigs
import Fiducial.Proofs.RegistryBuilding
import Fiducial.Proofs.LandmarkRefusals
import Fiducial.Proofs.DoubleRounding
import Fiducial.Proofs.DoubleMagnitudes
import Fiducial.Proofs.FiniteRotations
import Fiducial.Proofs.LandmarkPoses
import Fiducial.Proofs.OutputFiles
import Fiducial.Proofs.CovarianceGrowth
import Fiducial.Proofs.WrittenLines
import Fiducial.Proofs.LogBookkeeping
import Fiducial.Proofs.RotationVectors
import Fiducial.Proofs.SampleScene
import Fiducial.Proofs.SampleDocuments
import Fiducial.Proofs.SampleReplay
import Fiducial.Proofs.TransformLaws
import Fiducial.Proofs.AxisRotations
import Fiducial.Proofs.UnitQuaternions
import Fiducial.Proofs.SampleFiles
import Fiducial.Proofs.CellWrites
import Fiducial.Proofs.ReprojectionErrors

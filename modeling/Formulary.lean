import Formulary.Main
import Formulary.Proofs.CheckSoundness
import Formulary.Proofs.Height
import Formulary.Proofs.OrderIndependence
import Formulary.Proofs.References
import Formulary.Proofs.RoundTrip
import Formulary.Proofs.Finite.Run
import Formulary.Proofs.PrimaryKeys
import Formulary.Proofs.InputAgreement
import Formulary.Proofs.OutcomeShape
import Formulary.Proofs.Interleaving
import Formulary.Proofs.SnapshotIsolation
import Formulary.Proofs.DeclaredOrder
import Formulary.Proofs.CallEffects
import Formulary.Proofs.WiderLimits
import Formulary.Proofs.Defaults
import Formulary.Proofs.StableOrder
import Formulary.Proofs.ReportedCycles
import Formulary.Proofs.Sandbox
import Formulary.Proofs.Conformance
import Formulary.Proofs.PartialResults
import Formulary.Proofs.Breakdowns
import Formulary.Proofs.Pattern.Anchored
import Formulary.Proofs.PreviewStability
import Formulary.Proofs.Calendar.DateText
import Formulary.Proofs.Tiling
import Formulary.Proofs.Samples
import Formulary.Proofs.Lossless
import Formulary.Proofs.StageRecords
import Formulary.Proofs.FirstFault
import Formulary.Proofs.Parser.Discipline
import Formulary.Proofs.Numerals

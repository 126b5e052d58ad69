import FeatureFlags.Scenario.Run
import FeatureFlags.Wire.Decode
import FeatureFlags.Proofs.Annals.Discreet
import FeatureFlags.Proofs.Annals.Overdue
import FeatureFlags.Proofs.Context.Layers
import FeatureFlags.Proofs.Evaluation.Contexts
import FeatureFlags.Proofs.Evaluation.Endings
import FeatureFlags.Proofs.Evaluation.Interleaved
import FeatureFlags.Proofs.Evaluation.Isolated
import FeatureFlags.Proofs.Evaluation.Judged
import FeatureFlags.Proofs.Evaluation.Typed
import FeatureFlags.Proofs.Evaluation.Undisclosed
import FeatureFlags.Proofs.Evaluation.Verdict
import FeatureFlags.Proofs.Events.Registrations
import FeatureFlags.Proofs.Lifecycle.Calm
import FeatureFlags.Proofs.Lifecycle.Readiness
import FeatureFlags.Proofs.Memory.Replaced
import FeatureFlags.Proofs.Multi.Joint
import FeatureFlags.Proofs.Multi.Nested
import FeatureFlags.Proofs.Multi.Registered
import FeatureFlags.Proofs.Scenario.Discreet
import FeatureFlags.Proofs.Wire.Reread

import ActionDispatch.TypeName
import ActionDispatch.Error
import ActionDispatch.Event
import ActionDispatch.LogRecord
import ActionDispatch.Channel
import ActionDispatch.Table
import ActionDispatch.Settings.File
import ActionDispatch.Settings.UsualTree
import ActionDispatch.Vocabulary
import ActionDispatch.Step
import ActionDispatch.Handler.Table
import ActionDispatch.Validator.Factory
import ActionDispatch.Validator.Registry
import ActionDispatch.Program
import ActionDispatch.Run
import ActionDispatch.Dispatcher.Request
import ActionDispatch.Builder
import ActionDispatch.Scenario.Report
import ActionDispatch.Proofs.Rollback
import ActionDispatch.Proofs.Cancellation
import ActionDispatch.Proofs.Chronicle
import ActionDispatch.Proofs.Episode
import ActionDispatch.Proofs.Life
import ActionDispatch.Proofs.View
import ActionDispatch.Proofs.Protocol
import ActionDispatch.Proofs.Account
import ActionDispatch.Proofs.Answers
import ActionDispatch.Proofs.Isolation
import ActionDispatch.Proofs.Comparison
import ActionDispatch.Proofs.Depth
import ActionDispatch.Proofs.Decisions
import ActionDispatch.Proofs.Attempts
import ActionDispatch.Proofs.Observers
import ActionDispatch.Proofs.Twins
import ActionDispatch.Proofs.Shapes
import ActionDispatch.Proofs.Provenance
import ActionDispatch.Proofs.Sequences
import ActionDispatch.Proofs.Causes
import ActionDispatch.Proofs.Retention
import ActionDispatch.Proofs.Forests
import ActionDispatch.Proofs.SelfReversal
import ActionDispatch.Proofs.Creations
import ActionDispatch.Proofs.Transparency
import ActionDispatch.Proofs.Issuance
import ActionDispatch.Proofs.Wiring
import ActionDispatch.Proofs.Replacement
import ActionDispatch.Proofs.ShortNames
import ActionDispatch.Proofs.Keying
import ActionDispatch.Proofs.SettingsLines

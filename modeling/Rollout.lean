import Rollout.Dict
import Rollout.Binary64.Shortest
import Rollout.Binary64.Reading
import Rollout.Text.Casing
import Rollout.Text.Blank
import Rollout.Digest
import Rollout.Json.Token
import Rollout.Json.Reading
import Rollout.User
import Rollout.Payload
import Rollout.IdList
import Rollout.Catalog
import Rollout.Entity
import Rollout.Pattern
import Rollout.Pattern.Reading
import Rollout.Spec.Operator
import Rollout.Override
import Rollout.Sticky
import Rollout.EventLog
import Rollout.ClientPayload
import Rollout.Settings
import Rollout.Http.Wire
import Rollout.Registry
import Rollout.Proofs.WriteThrough
import Rollout.Proofs.FlushDelivery
import Rollout.Proofs.IdListMirror
import Rollout.Proofs.StickyRuns
import Rollout.Proofs.Nesting
import Rollout.Proofs.Halting
import Rollout.Proofs.Independence
import Rollout.Proofs.Interleaving
import Rollout.Proofs.ShutdownRace
import Rollout.Proofs.OverrideRuns
import Rollout.Proofs.StickyReuse
import Rollout.Proofs.StickySlots
import Rollout.Proofs.Repetition
import Rollout.Proofs.FlushSignal
import Rollout.Proofs.StartOutcome
import Rollout.Proofs.Handover
import Rollout.Proofs.ClientEntries
import Rollout.Proofs.TwinEngines
import Rollout.Proofs.EntryFaults
import Rollout.Proofs.StaleStart
import Rollout.Proofs.StorageCalls
import Rollout.Proofs.ShareRaise
import Rollout.Proofs.ParameterReads
import Rollout.Proofs.ExplicitConjunction
import Rollout.Proofs.FileRefresh
import Rollout.Proofs.ClientFilters
import Rollout.Proofs.FullAnswers
import Rollout.Proofs.LayerAttribution
import Rollout.Proofs.ForcedGroup
import Rollout.Proofs.NegatedForms
import Rollout.Proofs.IntegerTests
import Rollout.Proofs.UserRoundTrip
import Rollout.Proofs.VersionOrder

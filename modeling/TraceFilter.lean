import TraceFilter.Binary64.Decimal
import TraceFilter.Binary64.Shortest
import TraceFilter.Fault
import TraceFilter.Numeral.Ascii
import TraceFilter.Problem
import TraceFilter.Proofs.ArgumentTypes
import TraceFilter.Proofs.BuildOutcome
import TraceFilter.Proofs.Clamp
import TraceFilter.Proofs.DirectConstruction
import TraceFilter.Proofs.FirstViolation
import TraceFilter.Proofs.LowerCase
import TraceFilter.Proofs.ObtainedRequest
import TraceFilter.Proofs.Rebuild
import TraceFilter.Proofs.SettingsFailure
import TraceFilter.Proofs.ValueEquality
import TraceFilter.Request.Display
import TraceFilter.Request.Validation
import TraceFilter.Session.Step
import TraceFilter.Settings.Environment
import TraceFilter.Observation.CallRecord
import TraceFilter.Text.Blank
import TraceFilter.Text.DecimalDigit
import TraceFilter.Text.LowerCase
import TraceFilter.Text.Quoted
import TraceFilter.Value.Display
import TraceFilter.Value.Order
import TraceFilter.Proofs.WindowBounds
import TraceFilter.Proofs.WritableValues
import TraceFilter.Proofs.ClauseParameters
import TraceFilter.Proofs.ClauseReading
import TraceFilter.Proofs.RowSelection
import TraceFilter.Proofs.BuildEvents
import TraceFilter.Proofs.SessionAccounts
import TraceFilter.Proofs.ValueEquivalence
import TraceFilter.Proofs.KeyedEntries
import TraceFilter.Proofs.AcceptedRequest
import TraceFilter.Proofs.PairSets
import TraceFilter.Proofs.RequestEquality
import TraceFilter.Proofs.AlikeCandidates
import TraceFilter.Proofs.Interchange
import TraceFilter.Proofs.DraftRuns
import TraceFilter.Proofs.SessionDrafts
import TraceFilter.Proofs.StoredRows
import TraceFilter.Proofs.BuildDependence
import TraceFilter.Proofs.RecordThresholds
import TraceFilter.Proofs.SessionThresholds
import TraceFilter.Proofs.WrittenIntegers
import TraceFilter.Proofs.PolicyNames
import TraceFilter.Proofs.SettingsReading
import TraceFilter.Proofs.LetterCase
import TraceFilter.Proofs.NameCase
import TraceFilter.Proofs.DefaultBounds
import TraceFilter.Proofs.PresentInstant
import TraceFilter.Proofs.BareNumerals
import TraceFilter.Proofs.WrittenBounds
import TraceFilter.Proofs.WindowReading
import TraceFilter.Proofs.MemberInvariants
import TraceFilter.Proofs.SessionInvariants
import TraceFilter.Proofs.HeldRequests
import TraceFilter.Proofs.WritableSessions
import TraceFilter.Proofs.CellBounds
import TraceFilter.Proofs.QuotedText
import TraceFilter.Proofs.CallArguments
import TraceFilter.Proofs.ClauseFilling
import TraceFilter.Proofs.WindowClauses

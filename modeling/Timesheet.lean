import Timesheet.Main
import Timesheet.Net.Script
import Timesheet.Tracker.InMemory
import Timesheet.Sync.History
import Timesheet.Proofs.Leads
import Timesheet.Proofs.Table
import Timesheet.Proofs.Accounts
import Timesheet.Proofs.Holdback
import Timesheet.Proofs.Orphans
import Timesheet.Proofs.Refusal
import Timesheet.Proofs.LocalResult
import Timesheet.Proofs.Mirror
import Timesheet.Proofs.Recovery
import Timesheet.Proofs.Issuers
import Timesheet.Proofs.Addressing
import Timesheet.Proofs.Pairing
import Timesheet.Proofs.Conversation
import Timesheet.Proofs.Removals
import Timesheet.Proofs.Erasure
import Timesheet.Proofs.Credentials
import Timesheet.Proofs.Survival
import Timesheet.Proofs.Classes
import Timesheet.Proofs.Isolation
import Timesheet.Proofs.Blindness
import Timesheet.Proofs.Tokens
import Timesheet.Proofs.Alerts
import Timesheet.Proofs.Identity
import Timesheet.Proofs.TicketKeys
import Timesheet.Proofs.Validity
import Timesheet.Proofs.Upkeep
import Timesheet.Proofs.Queries
import Timesheet.Proofs.Spans
import Timesheet.Proofs.KeyLists
import Timesheet.Proofs.Acceptance
import Timesheet.Proofs.Refreshes
import Timesheet.Proofs.Sweep
import Timesheet.Proofs.DigitRuns
import Timesheet.Proofs.NaturalOrder
import Timesheet.Proofs.FacingRuns
import Timesheet.Proofs.Readiness
import Timesheet.Proofs.Collection
import Timesheet.Proofs.Amounts
import Timesheet.Proofs.Resolution
import Timesheet.Proofs.DateRanges
import Timesheet.Proofs.BulkDays
import Timesheet.Proofs.Rest
import Timesheet.Proofs.Resaving
import Timesheet.Proofs.MeantDays
import Timesheet.Proofs.Discovery
import Timesheet.Proofs.Durations
import Timesheet.Proofs.Reclassification
import Timesheet.Proofs.MainTickets
import Timesheet.Proofs.Creation
import Timesheet.Sync.Narrow
import Timesheet.Proofs.Narrow

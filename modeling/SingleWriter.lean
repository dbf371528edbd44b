import SingleWriter.Deployment
import SingleWriter.Display
import SingleWriter.Main
import SingleWriter.Proofs.Collections
import SingleWriter.Proofs.Rows
import SingleWriter.Proofs.Election
import SingleWriter.Proofs.Readers
import SingleWriter.Proofs.Plans
import SingleWriter.Proofs.Writes
import SingleWriter.Proofs.Admin
import SingleWriter.Proofs.Ledger
import SingleWriter.Proofs.Realisation
import SingleWriter.Proofs.Handover
import SingleWriter.Proofs.Passes
import SingleWriter.Proofs.PartialPasses
import SingleWriter.Proofs.Overrides
import SingleWriter.Proofs.Runs
import SingleWriter.Proofs.Cutover
import SingleWriter.Proofs.Places
import SingleWriter.Proofs.Targets
import SingleWriter.Proofs.WriterReads
import SingleWriter.Proofs.Pins
import SingleWriter.Proofs.Steady
import SingleWriter.Proofs.SecondPass
import SingleWriter.Proofs.Blacklists
import SingleWriter.Proofs.Incumbents
import SingleWriter.Proofs.PinnedRuns
import SingleWriter.Proofs.Footprint
import SingleWriter.Proofs.Availability
import SingleWriter.Proofs.Release
import SingleWriter.Proofs.ProbeOrder
import SingleWriter.Proofs.Matching
import SingleWriter.Proofs.TableOrder
import SingleWriter.Proofs.SeedChoice
import SingleWriter.Proofs.StatusVariables
import SingleWriter.Proofs.Accounts
import SingleWriter.Proofs.Rekeying
import SingleWriter.Proofs.AccountRuns
import SingleWriter.Proofs.OverriddenRows
import SingleWriter.Proofs.Literals
import SingleWriter.Proofs.Statements
import SingleWriter.Proofs.Replacements
import SingleWriter.Proofs.Trimming
import SingleWriter.Proofs.JsonTokens
import SingleWriter.Proofs.JsonTexts
import SingleWriter.Proofs.JsonPrinting
import SingleWriter.Proofs.Comments
import SingleWriter.Proofs.WrittenRows
import SingleWriter.Proofs.Sessions
import SingleWriter.Proofs.Operations
import SingleWriter.Proofs.Replies
import SingleWriter.Proofs.Seeds
import SingleWriter.Proofs.Addresses
import SingleWriter.Proofs.HostLists

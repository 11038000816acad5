import TrackedSettings.Cache.Summary
import TrackedSettings.Draft
import TrackedSettings.Session.Run
import TrackedSettings.Proofs.Bumps
import TrackedSettings.Proofs.Lookup
import TrackedSettings.Proofs.Service
import TrackedSettings.Proofs.Generations
import TrackedSettings.Proofs.Copies
import TrackedSettings.Proofs.Terms
import TrackedSettings.Proofs.Operations
import TrackedSettings.Proofs.Acts
import TrackedSettings.Proofs.Desk
import TrackedSettings.Proofs.Conduct
import TrackedSettings.Proofs.Discipline
import TrackedSettings.Proofs.Custody
import TrackedSettings.Proofs.Vouching
import TrackedSettings.Proofs.Fronts
import TrackedSettings.Proofs.Course
import TrackedSettings.Proofs.Moments
import TrackedSettings.Proofs.System
import TrackedSettings.Proofs.Runs
import TrackedSettings.Proofs.Freshness
import TrackedSettings.Proofs.Sessions
import TrackedSettings.Proofs.Reports
import TrackedSettings.Proofs.Veil
import TrackedSettings.Proofs.Secrecy
import TrackedSettings.Proofs.Alone
import TrackedSettings.Proofs.Neighbours
import TrackedSettings.Proofs.Steps
import TrackedSettings.Proofs.Economy
import TrackedSettings.Proofs.Outcalls
import TrackedSettings.Proofs.Provenance
import TrackedSettings.Proofs.Observers
import TrackedSettings.Proofs.Undisturbed
import TrackedSettings.Proofs.Scope
import TrackedSettings.Proofs.Dialogue
import TrackedSettings.Proofs.Replacement
import TrackedSettings.Proofs.Subsets
import TrackedSettings.Proofs.Rereading
import TrackedSettings.Proofs.Resets
import TrackedSettings.Proofs.Batches
import TrackedSettings.Proofs.Bytes
import TrackedSettings.Proofs.HeldStore
import TrackedSettings.Proofs.Views
import TrackedSettings.Proofs.Watching
import TrackedSettings.Proofs.Touches

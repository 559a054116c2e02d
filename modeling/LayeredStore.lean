import LayeredStore.Host
import LayeredStore.Base64
import LayeredStore.Proofs.Outcome
import LayeredStore.Proofs.Pushing
import LayeredStore.Proofs.Overlay
import LayeredStore.Proofs.Enumeration
import LayeredStore.Proofs.Writes
import LayeredStore.Proofs.Flush
import LayeredStore.Proofs.Soundness
import LayeredStore.Proofs.Verdicts
import LayeredStore.Proofs.Steps
import LayeredStore.Proofs.Paths
import LayeredStore.Proofs.Commands
import LayeredStore.Proofs.Runs
import LayeredStore.Proofs.Units
import LayeredStore.Proofs.Transitions
import LayeredStore.Proofs.PutBack
import LayeredStore.Proofs.Resolution
import LayeredStore.Proofs.Routes
import LayeredStore.Proofs.Permanence
import LayeredStore.Proofs.Generation
import LayeredStore.Proofs.Nesting
import LayeredStore.Proofs.Lineage
import LayeredStore.Proofs.Provenance
import LayeredStore.Proofs.Settlement
import LayeredStore.Proofs.Durability
import LayeredStore.Proofs.Views
import LayeredStore.Proofs.Readers
import LayeredStore.Proofs.Rollback
import LayeredStore.Proofs.RoundTrip
import LayeredStore.Proofs.Canonical
import LayeredStore.Proofs.Recovery
import LayeredStore.Proofs.PlainModel
import LayeredStore.Proofs.Abstraction
import LayeredStore.Proofs.Simulation.Basic
import LayeredStore.Proofs.Simulation.Sessions
import LayeredStore.Proofs.Simulation.Operations
import LayeredStore.Proofs.Agreement
import LayeredStore.Proofs.Standstill
import LayeredStore.Proofs.Leftovers
import LayeredStore.Proofs.WriteEffect
import LayeredStore.Proofs.Acknowledged
import LayeredStore.Proofs.Retrospect
import LayeredStore.Proofs.Chronicle
import LayeredStore.Proofs.Recounting
import LayeredStore.Proofs.OnePoint
import LayeredStore.Proofs.Upkeep
import LayeredStore.Proofs.Limits
import LayeredStore.Proofs.Forcing
import LayeredStore.Proofs.Enabling
import LayeredStore.Proofs.Salvage
import LayeredStore.Proofs.Newest
import LayeredStore.Proofs.Draining
import LayeredStore.Proofs.Refusals
import LayeredStore.Proofs.Shutdown
import LayeredStore.Proofs.Retelling
import LayeredStore.Proofs.Narration
import LayeredStore.Proofs.Parallel.Basic
import LayeredStore.Proofs.Parallel.Rules
import LayeredStore.Proofs.Parallel.Operations
import LayeredStore.Proofs.Guests.Basic
import LayeredStore.Proofs.Guests.Rules
import LayeredStore.Proofs.Guests.Flush
import LayeredStore.Proofs.Guests.Operations
import LayeredStore.Proofs.Guests.Registration
import LayeredStore.Proofs.Isolation
import LayeredStore.Proofs.Interlude
import LayeredStore.Proofs.Popping
import LayeredStore.Proofs.Digests
import LayeredStore.Proofs.Tampering
import LayeredStore.Proofs.Silence
import LayeredStore.Proofs.Commitments
import LayeredStore.Proofs.Damage
import LayeredStore.Proofs.Traffic
import LayeredStore.Proofs.Walking
import LayeredStore.Proofs.Standing
import LayeredStore.Proofs.Grouping
import LayeredStore.Proofs.Guarded.Basic
import LayeredStore.Proofs.Guarded.Operations
import LayeredStore.Proofs.Guarded.Rules
import LayeredStore.Proofs.Guarded.Safety
import LayeredStore.Proofs.Guarded.Runs

import WriteBarrier.Session.Event
import WriteBarrier.Proofs.CardSets
import WriteBarrier.Proofs.CardCount
import WriteBarrier.Proofs.CardRegions
import WriteBarrier.Proofs.Precision
import WriteBarrier.Proofs.Eager
import WriteBarrier.Proofs.Atomicity
import WriteBarrier.Proofs.FailedAttach
import WriteBarrier.Proofs.Detachment
import WriteBarrier.Proofs.Permanence
import WriteBarrier.Proofs.Inertness
import WriteBarrier.Proofs.Interleaving
import WriteBarrier.Proofs.Separation
import WriteBarrier.Proofs.Neighbours
import WriteBarrier.Proofs.FlushOrder
import WriteBarrier.Proofs.EntryOrder
import WriteBarrier.Proofs.LostObligations
import WriteBarrier.Proofs.FailedDetach
import WriteBarrier.Proofs.Configuration
import WriteBarrier.Proofs.OptionHistory
import WriteBarrier.Proofs.BulkText
import WriteBarrier.Proofs.Rounding

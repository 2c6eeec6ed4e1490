import PropertyMangling.Main
import PropertyMangling.Proofs.Mapping.Collisions
import PropertyMangling.Proofs.Mapping.Rounds
import PropertyMangling.Proofs.Property.Collection
import PropertyMangling.Proofs.Review
import PropertyMangling.Proofs.Mapping.Eligibility
import PropertyMangling.Proofs.Mapping.Decisions
import PropertyMangling.Proofs.Pipeline
import PropertyMangling.Proofs.Property.Labels
import PropertyMangling.Proofs.Property.Interface
import PropertyMangling.Proofs.TokenFile.Revisions
import PropertyMangling.Proofs.TokenFile.Pairing
import PropertyMangling.Proofs.Printout
import PropertyMangling.Proofs.Script.Refusal
import PropertyMangling.Proofs.Script.Trivia
import PropertyMangling.Proofs.Script.Leading
import PropertyMangling.Proofs.Output
import PropertyMangling.Proofs.Packing
import PropertyMangling.Proofs.Mapping.Loading
import PropertyMangling.Proofs.Mapping.Tables
import PropertyMangling.Proofs.Mapping.Reloading
import PropertyMangling.Proofs.Mapping.Outcome
import PropertyMangling.Proofs.Mapping.Batches
import PropertyMangling.Proofs.Mapping.Annotations
import PropertyMangling.Proofs.Mapping.Readers
import PropertyMangling.Proofs.ShortName.Allocation
import PropertyMangling.Proofs.Property.Survival
import PropertyMangling.Proofs.Property.Agreement
import PropertyMangling.Proofs.Property.Reversal
import PropertyMangling.Proofs.Embedded.Parsed
import PropertyMangling.Proofs.Property.Embedding
import PropertyMangling.Proofs.Property.Order

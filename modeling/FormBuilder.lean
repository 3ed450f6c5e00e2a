import FormBuilder.Main
import FormBuilder.Proofs.Command.Completion
import FormBuilder.Proofs.Command.Scaffold
import FormBuilder.Proofs.Except
import FormBuilder.Proofs.Field.Acceptance
import FormBuilder.Proofs.Field.Composition
import FormBuilder.Proofs.Field.Document
import FormBuilder.Proofs.Field.Schema
import FormBuilder.Proofs.Json.Brackets
import FormBuilder.Proofs.Json.Number
import FormBuilder.Proofs.Json.Reading
import FormBuilder.Proofs.Json.RoundTrip
import FormBuilder.Proofs.Number.Rounding
import FormBuilder.Proofs.Number.Shortest
import FormBuilder.Proofs.Number.Spelling
import FormBuilder.Proofs.Preview.Following
import FormBuilder.Proofs.Preview.Names
import FormBuilder.Proofs.Preview.Outcome
import FormBuilder.Proofs.Preview.Submission
import FormBuilder.Proofs.Preview.Survival
import FormBuilder.Proofs.Preview.Validation
import FormBuilder.Proofs.Source.Containment
import FormBuilder.Proofs.Source.Indentation
import FormBuilder.Proofs.Source.Literal
import FormBuilder.Proofs.Source.Notation
import FormBuilder.Proofs.Source.Order
import FormBuilder.Proofs.Store.Allocation
import FormBuilder.Proofs.Store.Draw
import FormBuilder.Proofs.Store.Frame
import FormBuilder.Proofs.Store.Identity
import FormBuilder.Proofs.Store.Insertion
import FormBuilder.Proofs.Store.Interleaving
import FormBuilder.Proofs.Store.Move
import FormBuilder.Proofs.Store.Options
import FormBuilder.Proofs.Store.Randomness
import FormBuilder.Proofs.Store.Reachable
import FormBuilder.Proofs.Store.Refusal
import FormBuilder.Proofs.Text.Search

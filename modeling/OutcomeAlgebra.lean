import OutcomeAlgebra.Act.Basic
import OutcomeAlgebra.Act.Borrow
import OutcomeAlgebra.Shown.Hidden
import OutcomeAlgebra.Shown.Quoted
import OutcomeAlgebra.Shown.Tree
import OutcomeAlgebra.Failure.Capture
import OutcomeAlgebra.Failure.Integer
import OutcomeAlgebra.Failure.Empty
import OutcomeAlgebra.Either.Basic
import OutcomeAlgebra.Either.Sequence
import OutcomeAlgebra.Either.Order
import OutcomeAlgebra.Optional.Basic
import OutcomeAlgebra.Try.Cell
import OutcomeAlgebra.Try.Basic
import OutcomeAlgebra.Try.Once
import OutcomeAlgebra.Try.InPlace
import OutcomeAlgebra.Try.Sequence
import OutcomeAlgebra.Outcome.Basic
import OutcomeAlgebra.Outcome.InPlace
import OutcomeAlgebra.Outcome.Printing
import OutcomeAlgebra.Steps.Basic
import OutcomeAlgebra.Algebra.Semigroup
import OutcomeAlgebra.Algebra.Monoid
import OutcomeAlgebra.Algebra.Scalar
import OutcomeAlgebra.Algebra.Accumulate
import OutcomeAlgebra.Algebra.Function
import OutcomeAlgebra.Iter.Basic
import OutcomeAlgebra.Json.Tree
import OutcomeAlgebra.Json.Codec
import OutcomeAlgebra.Json.Scan
import OutcomeAlgebra.Json.Read
import OutcomeAlgebra.Script.Spec
import OutcomeAlgebra.Script.Value
import OutcomeAlgebra.Script.Copy
import OutcomeAlgebra.Script.Equal
import OutcomeAlgebra.Script.Order
import OutcomeAlgebra.Script.Show
import OutcomeAlgebra.Script.Meaning
import OutcomeAlgebra.Script.Written
import OutcomeAlgebra.Script.FunctionCount
import OutcomeAlgebra.Script.Combining
import OutcomeAlgebra.Script.Command
import OutcomeAlgebra.Script.Callback
import OutcomeAlgebra.Script.Uses
import OutcomeAlgebra.Script.Looks
import OutcomeAlgebra.Script.Chain
import OutcomeAlgebra.Script.Perform
import OutcomeAlgebra.Script.Conversion
import OutcomeAlgebra.Script.Request
import OutcomeAlgebra.Proofs.Act.Run
import OutcomeAlgebra.Proofs.Try.Evaluation
import OutcomeAlgebra.Proofs.Try.Collecting
import OutcomeAlgebra.Proofs.Steps.Nesting
import OutcomeAlgebra.Proofs.Iter.Chaining
import OutcomeAlgebra.Proofs.Algebra.Laws
import OutcomeAlgebra.Proofs.Algebra.Instances
import OutcomeAlgebra.Proofs.Algebra.Language
import OutcomeAlgebra.Proofs.Try.Observation
import OutcomeAlgebra.Proofs.Try.Starting
import OutcomeAlgebra.Proofs.Try.Consuming
import OutcomeAlgebra.Proofs.Try.Lifecycle
import OutcomeAlgebra.Proofs.Try.Storing
import OutcomeAlgebra.Proofs.Outcome.Binding
import OutcomeAlgebra.Proofs.Outcome.Path
import OutcomeAlgebra.Proofs.Try.Timing
import OutcomeAlgebra.Proofs.Act.Tally
import OutcomeAlgebra.Proofs.Try.Keeping
import OutcomeAlgebra.Proofs.Try.Program
import OutcomeAlgebra.Proofs.Act.Foretelling
import OutcomeAlgebra.Proofs.Outcome.Passing
import OutcomeAlgebra.Proofs.Outcome.Absorbing
import OutcomeAlgebra.Proofs.Outcome.Failing
import OutcomeAlgebra.Proofs.Try.Demand
import OutcomeAlgebra.Proofs.Outcome.Agreeing
import OutcomeAlgebra.Proofs.Outcome.Traversing
import OutcomeAlgebra.Proofs.Act.Audit
import OutcomeAlgebra.Proofs.Act.Code
import OutcomeAlgebra.Proofs.Act.Lent
import OutcomeAlgebra.Proofs.Try.Sight
import OutcomeAlgebra.Proofs.Try.Call
import OutcomeAlgebra.Proofs.Try.Deed
import OutcomeAlgebra.Proofs.Try.Reporting
import OutcomeAlgebra.Proofs.Outcome.Deriving
import OutcomeAlgebra.Proofs.Failure.Cause
import OutcomeAlgebra.Proofs.Json.Token
import OutcomeAlgebra.Proofs.Json.Agreement
import OutcomeAlgebra.Proofs.Json.Nesting
import OutcomeAlgebra.Proofs.Shape.Basic
import OutcomeAlgebra.Proofs.Shape.Holding
import OutcomeAlgebra.Proofs.Shape.Comparing
import OutcomeAlgebra.Proofs.Shape.Deciding
import OutcomeAlgebra.Proofs.Shape.Settling
import OutcomeAlgebra.Proofs.Shape.Looking
import OutcomeAlgebra.Proofs.Shape.Watching
import OutcomeAlgebra.Proofs.Shape.Equality
import OutcomeAlgebra.Proofs.Try.Rescuing
import OutcomeAlgebra.Proofs.Algebra.Calling
import OutcomeAlgebra.Proofs.Algebra.Gathering
import OutcomeAlgebra.Proofs.Algebra.Reading
import OutcomeAlgebra.Proofs.Algebra.Repeating
import OutcomeAlgebra.Proofs.Algebra.Wrapping
import OutcomeAlgebra.Proofs.Algebra.Bracketing
import OutcomeAlgebra.Proofs.Algebra.Cloning
import OutcomeAlgebra.Proofs.Algebra.Choosing
import OutcomeAlgebra.Proofs.Algebra.Applying
import OutcomeAlgebra.Proofs.Either.Pulling
import OutcomeAlgebra.Proofs.Iter.Asking
import OutcomeAlgebra.Proofs.Iter.Polling
import OutcomeAlgebra.Proofs.Iter.Serving
import OutcomeAlgebra.Proofs.Algebra.Skipping
import OutcomeAlgebra.Proofs.Algebra.Flattening
import OutcomeAlgebra.Proofs.Algebra.Separating
import OutcomeAlgebra.Proofs.Algebra.Alternating
import OutcomeAlgebra.Proofs.Either.Mirroring
import OutcomeAlgebra.Proofs.Outcome.Printing
import OutcomeAlgebra.Proofs.Outcome.Peeking

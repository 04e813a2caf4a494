import ArrayTypes.Text.Blank
import ArrayTypes.Text.Split
import ArrayTypes.Text.Continuation
import ArrayTypes.Text.Alphanumeric
import ArrayTypes.Text.Digit
import ArrayTypes.Text.Capacity
import ArrayTypes.Decimal.Binary
import ArrayTypes.Decimal.Shortest
import ArrayTypes.Decimal.Layout
import ArrayTypes.Decimal.Numeral
import ArrayTypes.Kind
import ArrayTypes.Value
import ArrayTypes.TypeLiteral
import ArrayTypes.TypeLiteral.Token
import ArrayTypes.TypeLiteral.Place
import ArrayTypes.TypeLiteral.Grammar
import ArrayTypes.TypeLiteral.Reader
import ArrayTypes.TypeLiteral.Sized
import ArrayTypes.Descriptor
import ArrayTypes.Failure
import ArrayTypes.Registry
import ArrayTypes.Registry.Resolve
import ArrayTypes.Registry.Chain
import ArrayTypes.Hierarchy
import ArrayTypes.Assignability.Judgement
import ArrayTypes.Assignability.Checked
import ArrayTypes.NamePool
import ArrayTypes.Interner
import ArrayTypes.Concurrency
import ArrayTypes.Call
import ArrayTypes.Session
import ArrayTypes.Interned
import ArrayTypes.Interned.Process
import ArrayTypes.Log
import ArrayTypes.Pattern.Mode
import ArrayTypes.Pattern.Escape
import ArrayTypes.Pattern.Bracket
import ArrayTypes.Pattern.Validity
import ArrayTypes.Log.Filter
import ArrayTypes.Command.Arguments
import ArrayTypes.Command.Declaration
import ArrayTypes.Command.Run
import ArrayTypes.KindTable.Spacing
import ArrayTypes.KindTable.Quoted
import ArrayTypes.KindTable.Literal
import ArrayTypes.KindTable.Token
import ArrayTypes.KindTable.Entry
import ArrayTypes.KindTable.Item
import ArrayTypes.KindTable.Derive
import ArrayTypes.KindTable.Expansion
import ArrayTypes.Main
import ArrayTypes.Proofs.NamePool
import ArrayTypes.Proofs.FirstError
import ArrayTypes.Proofs.Registry.Growth
import ArrayTypes.Proofs.Registry.Consistency
import ArrayTypes.Proofs.Registry.Denotation
import ArrayTypes.Proofs.Session.Run
import ArrayTypes.Proofs.Session.Identity
import ArrayTypes.Proofs.Concurrency.WholeCall
import ArrayTypes.Proofs.Concurrency.Demand
import ArrayTypes.Proofs.Concurrency.Linearization
import ArrayTypes.Proofs.Concurrency.Names
import ArrayTypes.Proofs.Assignability.ClosedForm
import ArrayTypes.Proofs.Hierarchy.Reachability
import ArrayTypes.Proofs.Assignability.Transitivity
import ArrayTypes.Proofs.TypeLiteral.Lexing
import ArrayTypes.Proofs.TypeLiteral.Acceptance
import ArrayTypes.Proofs.TypeLiteral.FirstFault
import ArrayTypes.Proofs.TypeLiteral.Names
import ArrayTypes.Proofs.TypeLiteral.Unspaced
import ArrayTypes.Proofs.TypeLiteral.Parts
import ArrayTypes.Proofs.TypeLiteral.Sized
import ArrayTypes.Proofs.Registry.Naming
import ArrayTypes.Proofs.Hierarchy.OrderLaws
import ArrayTypes.Proofs.Hierarchy.Worklist
import ArrayTypes.Proofs.Registry.Queries
import ArrayTypes.Proofs.Registry.Levels
import ArrayTypes.Proofs.Assignability.Checks
import ArrayTypes.Proofs.Assignability.Stores
import ArrayTypes.Proofs.Registry.Foreign
import ArrayTypes.Proofs.Session.ForeignHandles
import ArrayTypes.Proofs.Session.SharedNames
import ArrayTypes.Proofs.Session.SharedCalls
import ArrayTypes.Proofs.Session.Isolation
import ArrayTypes.Proofs.Registry.Twins
import ArrayTypes.Proofs.Concurrency.Together
import ArrayTypes.Proofs.Registry.Holdings
import ArrayTypes.Proofs.Registry.TwinCalls
import ArrayTypes.Proofs.Session.Preloading
import ArrayTypes.Proofs.Related
import ArrayTypes.Proofs.Command.Declarations
import ArrayTypes.Proofs.Command.Outcome
import ArrayTypes.Proofs.Command.Describe
import ArrayTypes.Proofs.Command.Assignable
import ArrayTypes.Proofs.Text.Pieces
import ArrayTypes.Proofs.Command.Supertypes
import ArrayTypes.Proofs.KindTable.Entries
import ArrayTypes.Proofs.KindTable.Acceptance
import ArrayTypes.Proofs.KindTable.Expansion

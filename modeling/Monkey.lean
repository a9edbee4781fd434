import Monkey.Eval.Evaluator
import Monkey.Proofs.Syntax.Derivation
import Monkey.Proofs.Parse.Outcome
import Monkey.Proofs.Parse.Success
import Monkey.Proofs.Parse.Soundness
import Monkey.Proofs.Parse.Completeness
import Monkey.Proofs.Parse.Forward
import Monkey.Proofs.Parse.Recognition
import Monkey.Proofs.Syntax.Writable
import Monkey.Proofs.Syntax.Canonical
import Monkey.Proofs.Syntax.CanonicalText
import Monkey.Proofs.Parse.Rendering
import Monkey.Proofs.Parse.Height
import Monkey.Proofs.Token.Braces
import Monkey.Proofs.Parse.Balance
import Monkey.Proofs.Parse.Bounds
import Monkey.Proofs.Parse.Seam
import Monkey.Proofs.Parse.Locality
import Monkey.Proofs.Parse.Leak
import Monkey.Proofs.Syntax.StatementRest
import Monkey.Proofs.Parse.BrokenBlock
import Monkey.Proofs.Eval.Contents
import Monkey.Proofs.Eval.Throwing
import Monkey.Proofs.Eval.Exceptions
import Monkey.Proofs.Syntax.ReturnPlace
import Monkey.Proofs.Eval.Wrapping
import Monkey.Proofs.Eval.Containment
import Monkey.Proofs.Eval.AbruptReturn
import Monkey.Proofs.Eval.ReturnSafety
import Monkey.Proofs.Eval.Machine
import Monkey.Proofs.Eval.Frame
import Monkey.Proofs.Eval.Links
import Monkey.Proofs.Eval.Restoring
import Monkey.Proofs.Eval.Renaming
import Monkey.Proofs.Eval.Alike
import Monkey.Proofs.Eval.Lexical
import Monkey.Proofs.Eval.Settings
import Monkey.Proofs.Eval.Stepwise
import Monkey.Proofs.Eval.Termination
import Monkey.Proofs.Parse.Concatenation
import Monkey.Proofs.Eval.Session
import Monkey.Proofs.Eval.Arithmetic
import Monkey.Proofs.Eval.Reset
import Monkey.Proofs.Value.Scoping
import Monkey.Proofs.Token.Lexer
import Monkey.Proofs.Token.Layout
import Monkey.Proofs.Parse.Fueled
import Monkey.Proofs.Parse.Correspondence
import Monkey.Proofs.Parse.Traversal
import Monkey.Proofs.Parse.Placement
import Monkey.Proofs.Parse.NestingLimit
import Monkey.Proofs.Parse.Totality
import Monkey.Proofs.Token.Order
import Monkey.Proofs.Parse.ErrorPlaces
import Monkey.Proofs.Eval.Bodies
import Monkey.Proofs.Parse.IdleRules
import Monkey.Proofs.Text.CheckedDecimal
import Monkey.Proofs.Eval.Literals

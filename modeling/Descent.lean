import Descent.Outcome
import Descent.Atom.CharClass
import Descent.Cursor.Text
import Descent.Cursor.Elements
import Descent.Pattern.Engine
import Descent.Pattern.Standard
import Descent.Leaf
import Descent.Grammar
import Descent.Value.Grammar
import Descent.Forward.Command
import Descent.Proofs.Cursor.Walk
import Descent.Proofs.Leaf.Walk
import Descent.Proofs.Grammar.Induction
import Descent.Proofs.Grammar.Suffix
import Descent.Proofs.Grammar.Budget
import Descent.Proofs.Grammar.Termination
import Descent.Proofs.Grammar.Evaluation
import Descent.Proofs.Grammar.LastError
import Descent.Proofs.Forward.Tally
import Descent.Proofs.Forward.Ownership
import Descent.Proofs.Forward.LifeCycle
import Descent.Proofs.Forward.Recursion
import Descent.Proofs.Cursor.InStep
import Descent.Proofs.Cursor.Line
import Descent.Proofs.Grammar.Simulation
import Descent.Proofs.Leaf.Alike
import Descent.Proofs.Grammar.TextAsElements
import Descent.Proofs.Grammar.Remaining
import Descent.Proofs.Grammar.Outcomes
import Descent.Proofs.Grammar.Context
import Descent.Proofs.Cursor.Order
import Descent.Proofs.Grammar.Rounds
import Descent.Proofs.Grammar.Separated
import Descent.Proofs.Grammar.EmptyRounds
import Descent.Proofs.Grammar.Repetitions
import Descent.Proofs.Pattern.Threads
import Descent.Proofs.Pattern.Placement
import Descent.Proofs.Pattern.Trailing
import Descent.Proofs.Pattern.TrailingClass
import Descent.Proofs.Pattern.TrailingStep
import Descent.Proofs.Pattern.Reading
import Descent.Proofs.Pattern.Anchoring
import Descent.Proofs.Pattern.Standard
import Descent.Proofs.Leaf.AnchoredMatch
import Descent.Proofs.Forward.LettingGo
import Descent.Proofs.Forward.Renumbering
import Descent.Proofs.Forward.Growth
import Descent.Proofs.Forward.Refusal
import Descent.Proofs.Cursor.Passage
import Descent.Proofs.Leaf.Passage
import Descent.Proofs.Grammar.Undoing
import Descent.Proofs.Language.NestedLists
import Descent.Proofs.Language.Arithmetic
import Descent.Proofs.Language.Records
import Descent.Proofs.Language.Parentheses
import Descent.Proofs.Pattern.LongestRun
import Descent.Proofs.Language.Numbers
import Descent.Proofs.Leaf.TagAndLiteral
import Descent.Proofs.Grammar.ErrorLocation
import Descent.Proofs.Grammar.Congruence
import Descent.Proofs.Grammar.Thunks
import Descent.Proofs.Grammar.Bracketing
import Descent.Proofs.Cursor.LineOrder
import Descent.Proofs.Cursor.FaithfulWalk
import Descent.Proofs.Leaf.SuffixOrder
import Descent.Proofs.Grammar.Spelling

import Predictive.Grammar.Derivation
import Predictive.Lexer
import Predictive.Main
import Predictive.Proofs.Analysis.Loops
import Predictive.Proofs.CommandLine.Input
import Predictive.Proofs.Grammar.Listing
import Predictive.Proofs.Grammar.Reading
import Predictive.Proofs.Latex.Rows
import Predictive.Proofs.Lexer.Policy
import Predictive.Proofs.Lexer.WholeWords
import Predictive.Proofs.Parser.Agreement
import Predictive.Proofs.Parser.EarliestError
import Predictive.Proofs.Parser.Labels
import Predictive.Proofs.Parser.Visible
import Predictive.Proofs.Parser.Yield
import Predictive.Proofs.Table.Alignment
import Predictive.Proofs.Table.Conflict
import Predictive.Proofs.Table.Grid
import Predictive.Proofs.Table.LeftRecursion
import Predictive.Proofs.Table.Separation
import Predictive.Proofs.Tree.Children
import Predictive.Proofs.Tree.Recursion
import Predictive.Proofs.Tree.Root
import Predictive.Proofs.Variants.Epsilon
import Predictive.Proofs.Variants.Order
import Predictive.Report

import ParserCombinators.Grammar.Character
import ParserCombinators.Main
import ParserCombinators.Proofs.Arithmetic.Nesting
import ParserCombinators.Proofs.Csv.Format
import ParserCombinators.Proofs.CubeGame.Format
import ParserCombinators.Proofs.Grammar.Calm
import ParserCombinators.Proofs.Grammar.Input
import ParserCombinators.Proofs.Grammar.Joining
import ParserCombinators.Proofs.Grammar.Lossless
import ParserCombinators.Proofs.Grammar.Mismatch
import ParserCombinators.Proofs.Grammar.Position
import ParserCombinators.Proofs.Grammar.Tracing
import ParserCombinators.Proofs.Grammar.Wording
import ParserCombinators.Proofs.Parser.Alternation
import ParserCombinators.Proofs.Parser.Literal
import ParserCombinators.Proofs.Parser.Lookahead
import ParserCombinators.Proofs.Parser.Numeral
import ParserCombinators.Proofs.Repetition.Collector
import ParserCombinators.Proofs.Repetition.Ending
import ParserCombinators.Proofs.Repetition.Mapping
import ParserCombinators.Proofs.Repetition.Occurrence
import ParserCombinators.Proofs.Repetition.Scan
import ParserCombinators.Proofs.Repetition.Separators
import ParserCombinators.Proofs.Repetition.Stall
import ParserCombinators.Session

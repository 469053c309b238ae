import KeywordFilter.Foreign
import KeywordFilter.Selection
import KeywordFilter.Suite
import KeywordFilter.Proofs.Grammar
import KeywordFilter.Proofs.Reading
import KeywordFilter.Proofs.Parsing
import KeywordFilter.Proofs.LeftmostProblem
import KeywordFilter.Proofs.TokenPlaces
import KeywordFilter.Proofs.Unicode.Lowercase
import KeywordFilter.Proofs.Folding
import KeywordFilter.Proofs.NumericKeywords
import KeywordFilter.Proofs.RoundTrip
import KeywordFilter.Proofs.Composition
import KeywordFilter.Proofs.SelectionHistory
import KeywordFilter.Proofs.Tree.Keywords
import KeywordFilter.Proofs.Tree.Loop
import KeywordFilter.Proofs.Tree.Worklist
import KeywordFilter.Proofs.Tree.Normalization
import KeywordFilter.Proofs.Vocabulary
import KeywordFilter.Proofs.ListFilter
import KeywordFilter.Proofs.ListExpression
import KeywordFilter.Proofs.Equality
import KeywordFilter.Proofs.AccentRoundTrip
import KeywordFilter.Proofs.CaseInsensitivity
import KeywordFilter.Proofs.SavedSelection
import KeywordFilter.Proofs.SameWords
import KeywordFilter.Proofs.Polarity
import KeywordFilter.Proofs.BottomUp

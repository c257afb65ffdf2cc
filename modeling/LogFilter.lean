import LogFilter.Calendar.Printer
import LogFilter.Calendar.Reader
import LogFilter.CommandLine.Run
import LogFilter.Condition.Eval
import LogFilter.Condition.Parser
import LogFilter.Condition.Tokenizer
import LogFilter.Condition.Tokens
import LogFilter.Decimal.Printer
import LogFilter.Decimal.Reader
import LogFilter.Event.Lines
import LogFilter.Event.Printer
import LogFilter.Event.Reader
import LogFilter.Filter.Chain
import LogFilter.Filter.Config
import LogFilter.Json.Printer
import LogFilter.Json.Reader
import LogFilter.Layout.Template
import LogFilter.Main
import LogFilter.Method.Registry
import LogFilter.Method.Standard
import LogFilter.Text.Blank
import LogFilter.Text.Letter
import LogFilter.Text.Lowercase
import LogFilter.Text.Split
import LogFilter.Text.Visible
import LogFilter.Toml.Reader
import LogFilter.Value.Compare
import LogFilter.Warning
import LogFilter.Proofs.Decimal.Rounding
import LogFilter.Proofs.Condition.Words
import LogFilter.Proofs.Decimal.ReadBack
import LogFilter.Proofs.Condition.Grammar
import LogFilter.Proofs.Condition.Steps
import LogFilter.Proofs.Condition.Operands
import LogFilter.Proofs.Condition.Completeness
import LogFilter.Proofs.Condition.Lexing
import LogFilter.Proofs.Condition.Spelling
import LogFilter.Proofs.Layout.Template
import LogFilter.Proofs.Condition.Canonical
import LogFilter.Proofs.Condition.Reproduction
import LogFilter.Proofs.Value.Comparison
import LogFilter.Proofs.Value.Coherence
import LogFilter.Proofs.Method.Registrations
import LogFilter.Proofs.Method.Accepted
import LogFilter.Proofs.Method.Resolution
import LogFilter.Proofs.Method.Intervals
import LogFilter.Proofs.Method.ArityErrors
import LogFilter.Proofs.Condition.Calls
import LogFilter.Proofs.Condition.Embedding
import LogFilter.Proofs.Condition.Stepping
import LogFilter.Proofs.Condition.Sentence
import LogFilter.Proofs.Condition.EagerEvaluation
import LogFilter.Proofs.Condition.Relevance
import LogFilter.Proofs.Value.Zeros
import LogFilter.Proofs.Condition.Congruence
import LogFilter.Proofs.Condition.Synonyms
import LogFilter.Proofs.Text.Runs
import LogFilter.Proofs.Text.Lowercase
import LogFilter.Proofs.Method.IgnoringCase
import LogFilter.Proofs.Calendar.ReadBack
import LogFilter.Proofs.Json.Readers
import LogFilter.Proofs.Json.Normal
import LogFilter.Proofs.Json.ReadBack
import LogFilter.Proofs.Event.Readers
import LogFilter.Proofs.Event.RoundTrip
import LogFilter.Proofs.Event.Lines
import LogFilter.Proofs.CommandLine.Filtering
import LogFilter.Proofs.CommandLine.Reading
import LogFilter.Proofs.Value.Preorder
import LogFilter.Proofs.Filter.Decision
import LogFilter.Proofs.Text.Cuts
import LogFilter.Proofs.Layout.Placeholder
import LogFilter.Proofs.Layout.Pieces
import LogFilter.Proofs.Condition.Folding
import LogFilter.Proofs.Filter.Building
import LogFilter.Proofs.Event.Numbering
import LogFilter.Proofs.Method.Searches
import LogFilter.Proofs.Value.OwnText
import LogFilter.Proofs.Condition.Failures
import LogFilter.Proofs.Event.Exceptions
import LogFilter.Proofs.Condition.CallOrder
import LogFilter.Proofs.Condition.ErrorPlaces
import LogFilter.Proofs.Condition.Rebinding
import LogFilter.Proofs.Condition.WholeNumbers
import LogFilter.Proofs.Condition.Laws
import LogFilter.Proofs.Method.PatternOptions
import LogFilter.Proofs.Condition.Machine
import LogFilter.Proofs.Condition.MachineAnswers
import LogFilter.Proofs.Condition.Advancing
import LogFilter.Proofs.Condition.Termination
import LogFilter.Proofs.Condition.Joining
import LogFilter.Proofs.Condition.WellFormed

import Dialogue.Agent.Call
import Dialogue.Agent.Evaluate
import Dialogue.Agent.Evaluation
import Dialogue.Agent.Loading
import Dialogue.Agent.Redirect
import Dialogue.Agent.Setup
import Dialogue.Agent.State
import Dialogue.Agent.Turn
import Dialogue.Calendar.Layout
import Dialogue.Calendar.Moment
import Dialogue.Category
import Dialogue.Draws
import Dialogue.Fault
import Dialogue.Files
import Dialogue.Intent
import Dialogue.Json.Decoder
import Dialogue.Json.Printer
import Dialogue.Json.Reader
import Dialogue.Json.Value
import Dialogue.Knowledge.Maps
import Dialogue.Knowledge.Profile
import Dialogue.Knowledge.Substitutions
import Dialogue.Knowledge.WordSets
import Dialogue.Memory.History
import Dialogue.Memory.Predicates
import Dialogue.Notice
import Dialogue.Numeral
import Dialogue.Pattern.Key
import Dialogue.Pattern.Normalizer
import Dialogue.Pattern.Reference
import Dialogue.Pattern.Token
import Dialogue.Proofs.Evaluation.Calls
import Dialogue.Proofs.Evaluation.Congruence
import Dialogue.Proofs.Evaluation.Course
import Dialogue.Proofs.Evaluation.Isolation
import Dialogue.Proofs.Evaluation.Loops
import Dialogue.Proofs.Evaluation.Steps
import Dialogue.Proofs.Evaluation.Transport
import Dialogue.Proofs.Repertoire.Conversation
import Dialogue.Proofs.Repertoire.Layers
import Dialogue.Proofs.Store.Derivation
import Dialogue.Proofs.Store.FiniteMap
import Dialogue.Proofs.Store.FirstMatch
import Dialogue.Proofs.Store.Listing
import Dialogue.Proofs.Store.Passages
import Dialogue.Proofs.Store.Validity
import Dialogue.Settings
import Dialogue.Store.Basic
import Dialogue.Store.Captures
import Dialogue.Store.Edge
import Dialogue.Store.Forest
import Dialogue.Store.ForestLaws
import Dialogue.Store.Repertoire
import Dialogue.Store.Search
import Dialogue.Table
import Dialogue.Template.Basic
import Dialogue.Template.Form
import Dialogue.Text.Blank
import Dialogue.Text.CaseTable
import Dialogue.Text.Casing
import Dialogue.Text.GlyphTable
import Dialogue.Text.LetterTable
import Dialogue.Text.Name
import Dialogue.Text.Quoted
import Dialogue.Text.Run
import Dialogue.Text.Sentence
import Dialogue.Text.Style
import Dialogue.Proofs.Evaluation.Recursion
import Dialogue.Proofs.Evaluation.Chronicle
import Dialogue.Proofs.Evaluation.Accounts
import Dialogue.Proofs.Evaluation.Limits
import Dialogue.Proofs.Evaluation.Thresholds
import Dialogue.Proofs.Evaluation.Termination
import Dialogue.Proofs.Memory.Ledger
import Dialogue.Proofs.Json.Lossless
import Dialogue.Proofs.Json.Forms
import Dialogue.Proofs.Store.Locality
import Dialogue.Proofs.Store.CatchAll
import Dialogue.Proofs.Memory.InputSequence
import Dialogue.Proofs.Knowledge.Arrangement
import Dialogue.Proofs.Knowledge.Delivery
import Dialogue.Proofs.Store.Capturing
import Dialogue.Proofs.Text.Words
import Dialogue.Proofs.Pattern.Agreement
import Dialogue.Proofs.Pattern.Lessons
import Dialogue.Proofs.Evaluation.Closing
import Dialogue.Proofs.Text.Sentences
import Dialogue.Proofs.Evaluation.Distribution
import Dialogue.Proofs.Evaluation.Reentry
import Dialogue.Proofs.Text.Lowering
import Dialogue.Proofs.Pattern.Markup
import Dialogue.Proofs.Pattern.Spelling
import Dialogue.Proofs.Memory.Watching
import Dialogue.Proofs.Knowledge.Tiling
import Dialogue.Proofs.Text.CaseMapping
import Dialogue.Proofs.Text.Restyling
import Dialogue.Proofs.Evaluation.Restyled
import Dialogue.Proofs.Knowledge.NumberSets
import Dialogue.Proofs.Evaluation.Consulting
import Dialogue.Proofs.Knowledge.Corpus
import Dialogue.Proofs.Knowledge.Counting
import Dialogue.Proofs.Knowledge.IntentModels

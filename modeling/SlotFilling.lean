import SlotFilling.Main
import SlotFilling.Sequence
import SlotFilling.Proofs.Search.Extension
import SlotFilling.Proofs.Search.Limit
import SlotFilling.Proofs.Search.MoreRules
import SlotFilling.Proofs.Search.Schedule
import SlotFilling.Proofs.Search.Soundness
import SlotFilling.Proofs.Tagger.CapturedValues
import SlotFilling.Proofs.Tagger.DefaultSearch
import SlotFilling.Proofs.Search.InPlace
import SlotFilling.Proofs.Search.LeftContext
import SlotFilling.Proofs.Json.Bytes
import SlotFilling.Proofs.Json.Patterns
import SlotFilling.Proofs.Tagger.LongestMatch
import SlotFilling.Proofs.Lexicon.Reachable
import SlotFilling.Proofs.Report.Cases
import SlotFilling.Proofs.Report.Options
import SlotFilling.Proofs.RuleFile.ListingOrder
import SlotFilling.Proofs.Search.Transitions
import SlotFilling.Proofs.Search.LetterCase
import SlotFilling.Proofs.Tagger.Bounds
import SlotFilling.Proofs.Tagger.Dates
import SlotFilling.Proofs.Tagger.Lookahead
import SlotFilling.Proofs.Tagger.WordForms
import SlotFilling.Proofs.Tagger.Years
import SlotFilling.Proofs.Lexicon.NormalForm
import SlotFilling.Proofs.Lexicon.Merge
import SlotFilling.Proofs.RuleFile.Categories
import SlotFilling.Proofs.RuleFile.Places
import SlotFilling.Proofs.RuleFile.Loading
import SlotFilling.Proofs.Rule.MatchState
import SlotFilling.Proofs.Report.ShownNumbers
import SlotFilling.Proofs.Number.Precision

import SlotFilling.Calendar.Month
import SlotFilling.Lexicon.English
import SlotFilling.Number.Decimal
import SlotFilling.Tagger.WordClass
import SlotFilling.Text.Alphabetic
import SlotFilling.Text.Uppercase
import SlotFilling.Token

/-!
# Tagging a sentence

A text is split into words, trailing punctuation is taken off, and the words are
grouped into tokens from left to right. At each word the tagger tries a date of
two words, then the longest phrase of the lexicon, then an infinitive, and
otherwise tags the single word. The token texts joined with spaces are the words
joined with spaces, whatever the lexicon.
-/
namespace SlotFilling

/-- A lexicon and the year of dates that are written without one. -/
structure Tagger where
  lexicon : Lexicon
  year : Int

/-- Punctuation that is taken off the end of a word. -/
def isTrailingPunctuation (character : Char) : Bool :=
  [',', '.', '!', '?', ';', ':'].contains character

/-- A word without trailing punctuation, unless nothing else is left of it. -/
def stripWord (word : List Char) : List Char :=
  let stripped := Text.dropTrailing isTrailingPunctuation word
  if stripped = [] then word else stripped

/-- The words of a text as the tagger sees them. -/
def strippedWords (text : String) : List String :=
  (Text.words text.toList).map fun word => String.ofList (stripWord word)

/-- Words with single spaces between them. -/
def joinWords (words : List String) : String :=
  String.ofList ([' '].intercalate (words.map String.toList))

/-- A token with the categories of a lexicon entry. -/
def Token.ofEntry (text : String) (entry : String × List String) : Token :=
  entry.2.foldl Token.withCategory (Token.of text entry.1)

namespace Tagger

/-- A token, and how many words after the first one it covers. -/
structure Step where
  token : Token
  extra : Nat

/-- The day and the month that two words name, in either order. -/
def dayAndMonth? (first second : String) : Option (Nat × Nat) :=
  match dayNumber? first, monthNumber? second with
  | some day, some month => some (day, month)
  | _, _ =>
    match monthNumber? first, dayNumber? second with
    | some month, some day => some (day, month)
    | _, _ => none

/-- The date of the tagger's year that two words name. -/
def dateOf? (tagger : Tagger) (first second : String) : Option Date :=
  (dayAndMonth? first second).bind fun (day, month) => Date.of? tagger.year month day

def dateToken (first second : String) (date : Date) : Token :=
  ((Token.of (joinWords [first, second]) "Date").withCategory "Noun").withEntity (.date date)

/-- The longest phrase of two or more words at the start, looked for from
`longest` words down. -/
def phraseAt? (tagger : Tagger) (longest : Nat) (word : String) (later : List String) :
    Option Step :=
  (List.range' 1 (min longest (later.length + 1) - 1)).reverse.findSome? fun extra =>
    let text := joinWords (word :: later.take extra)
    (tagger.lexicon.entry? text).map fun entry => ⟨Token.ofEntry text entry, extra⟩

/-- The token of a single word at a position in the sentence. -/
def wordToken (tagger : Tagger) (position : Nat) (word : String) : Token :=
  let lower := Text.lower word
  if isEmail word.toList then (Token.of word "Email").withCategory "Noun"
  else if isNumber word.toList then (Token.of word "Value").withCategory "Number"
  else if tagger.lexicon.currencies.contains lower then
    if word.toList.all Text.isAlphabetic then (Token.of word "Noun").withCategory "Currency"
    else Token.of word "Currency"
  else match tagger.lexicon.entry? word with
    | some entry => Token.ofEntry word entry
    | none =>
      if tagger.lexicon.names.contains lower ||
          (word.toList.head?.any Text.isUppercase && decide (0 < position)) then
        (Token.of word "Person").withCategory "Noun"
      else Token.of word "Noun"

/-- What two words at the start give when they are a date or an infinitive. -/
def dateAt? (tagger : Tagger) (word : String) : List String → Option Step
  | [] => none
  | second :: _ => (tagger.dateOf? word second).map fun date => ⟨dateToken word second date, 1⟩

/-- The word "to" followed by a verb is one verb. -/
def infinitiveAt? (tagger : Tagger) (word : String) : List String → Option Step
  | [] => none
  | second :: _ =>
    if Text.sameIgnoringCase word "to" && tagger.lexicon.isVerb second then
      some ⟨Token.of (joinWords [word, second]) "Verb", 1⟩
    else none

/-- The token that starts at a word, looking at no more than `longest` words for a phrase. -/
def next (tagger : Tagger) (longest position : Nat) (word : String) (later : List String) : Step :=
  match tagger.dateAt? word later with
  | some step => step
  | none => match tagger.phraseAt? longest word later with
    | some step => step
    | none => match tagger.infinitiveAt? word later with
      | some step => step
      | none => ⟨tagger.wordToken position word, 0⟩

/-- Tag words from a position on. -/
def tagWords (tagger : Tagger) (longest position : Nat) : List String → List Token
  | [] => []
  | word :: later =>
    let step := tagger.next longest position word later
    step.token :: tagger.tagWords longest (position + step.extra + 1) (later.drop step.extra)
termination_by words => words.length
decreasing_by
  simp only [List.length_drop, List.length_cons]
  omega

/-- The tokens of a text. -/
def tokenize (tagger : Tagger) (text : String) : List Token :=
  tagger.tagWords tagger.lexicon.longestPhrase 0 (strippedWords text)

end Tagger

end SlotFilling

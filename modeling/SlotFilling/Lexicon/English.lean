import SlotFilling.Lexicon.Basic

/-!
# The built-in English lexicon

Everyday words with their categories, the usual currencies and a few names.
-/
namespace SlotFilling.Lexicon

/-- Words and phrases with their categories, the primary one first. -/
def englishWords : List (String × List String) :=
  [("the", ["Determiner"]), ("a", ["Determiner"]), ("an", ["Determiner"]),
   ("this", ["Determiner"]), ("that", ["Determiner"]), ("these", ["Determiner"]),
   ("those", ["Determiner"]), ("my", ["Determiner", "Possessive"]),
   ("your", ["Determiner", "Possessive"]), ("his", ["Determiner", "Possessive"]),
   ("her", ["Determiner", "Possessive", "Pronoun"]), ("our", ["Determiner", "Possessive"]),
   ("their", ["Determiner", "Possessive"]), ("some", ["Determiner"]), ("every", ["Determiner"]),
   ("no", ["Determiner"]), ("i", ["Pronoun", "Noun"]), ("you", ["Pronoun", "Noun"]),
   ("he", ["Pronoun", "Noun"]), ("she", ["Pronoun", "Noun"]), ("it", ["Pronoun", "Noun"]),
   ("we", ["Pronoun", "Noun"]), ("they", ["Pronoun", "Noun"]), ("me", ["Pronoun", "Noun"]),
   ("him", ["Pronoun", "Noun"]), ("us", ["Pronoun", "Noun"]), ("them", ["Pronoun", "Noun"]),
   ("is", ["Verb", "Copula"]), ("are", ["Verb", "Copula"]), ("was", ["Verb", "Copula"]),
   ("were", ["Verb", "Copula"]), ("be", ["Verb", "Copula"]), ("am", ["Verb", "Copula"]),
   ("will", ["Modal", "Verb"]), ("would", ["Modal", "Verb"]), ("can", ["Modal", "Verb"]),
   ("could", ["Modal", "Verb"]), ("should", ["Modal", "Verb"]), ("must", ["Modal", "Verb"]),
   ("do", ["Verb"]), ("does", ["Verb"]), ("did", ["Verb"]), ("have", ["Verb"]),
   ("has", ["Verb"]), ("had", ["Verb"]), ("call", ["Verb", "Noun"]), ("leave", ["Verb", "Noun"]),
   ("want", ["Verb"]), ("need", ["Verb", "Noun"]), ("pay", ["Verb", "Noun"]),
   ("book", ["Verb", "Noun"]), ("send", ["Verb"]), ("meet", ["Verb"]), ("buy", ["Verb"]),
   ("play", ["Verb", "Noun"]), ("stop", ["Verb", "Noun"]), ("remind", ["Verb"]),
   ("tell", ["Verb"]), ("give", ["Verb"]), ("go", ["Verb"]), ("write", ["Verb"]),
   ("split", ["Verb", "Noun"]), ("cost", ["Verb", "Noun"]), ("costs", ["Verb", "Noun"]),
   ("check", ["Noun", "Verb"]), ("tip", ["Noun", "Verb"]), ("bill", ["Noun", "Verb"]),
   ("email", ["Noun", "Verb"]), ("mail", ["Noun", "Verb"]), ("order", ["Noun", "Verb"]),
   ("total", ["Noun", "Adjective"]), ("blue", ["Adjective", "Noun"]),
   ("red", ["Adjective", "Noun"]), ("green", ["Adjective", "Noun"]),
   ("black", ["Adjective", "Noun"]), ("white", ["Adjective", "Noun"]),
   ("yellow", ["Adjective", "Noun"]), ("big", ["Adjective"]), ("small", ["Adjective"]),
   ("new", ["Adjective"]), ("old", ["Adjective"]), ("fast", ["Adjective", "Adverb"]),
   ("cheap", ["Adjective"]), ("expensive", ["Adjective"]), ("of", ["Preposition"]),
   ("on", ["Preposition"]), ("in", ["Preposition"]), ("at", ["Preposition"]),
   ("to", ["Preposition"]), ("for", ["Preposition"]), ("with", ["Preposition"]),
   ("from", ["Preposition"]), ("by", ["Preposition"]), ("about", ["Preposition"]),
   ("and", ["Conjunction"]), ("or", ["Conjunction"]), ("but", ["Conjunction"]),
   ("not", ["Adverb"]), ("tomorrow", ["Adverb", "Noun"]), ("today", ["Adverb", "Noun"]),
   ("please", ["Adverb"]), ("ice cream", ["Noun"]), ("credit card", ["Noun"])]

def englishCurrencies : List String :=
  ["dollar", "dollars", "euro", "euros", "pound", "pounds", "yen", "cent", "cents", "bucks", "$",
   "€", "£", "¥"]

def englishNames : List String :=
  ["jack", "john", "mary", "anna", "paul", "guido"]

def english : Lexicon := ⟨Dictionary.ofList englishWords, englishCurrencies, englishNames⟩

end SlotFilling.Lexicon

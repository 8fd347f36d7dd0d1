/-!
# Command line arguments

Options have long names, some have a letter, and letters can stand together behind
one hyphen. The value of an option is the next word, or follows in the same word:
after an equals sign, or right behind the letter. A value that is a word of its own
does not start with a hyphen, a single hyphen excepted. There are no other
arguments. The words are read from left to right, and the first one that is out of
place refuses the whole command line, unless the version or the help was asked for
before it.
-/
namespace SlotFilling.CommandLine

/-- What a run is told. -/
structure Arguments where
  rules : Option String := none
  text : Option String := none
  rule : List String := []
  tokens : Bool := false
  lexicon : Option String := none
  year : Option Int := none
  skipMismatch : Bool := false
  suppressOverlap : Bool := false
  limit : Option Nat := none
  output : Option String := none
  quiet : Bool := false
  verbose : Bool := false
  deriving DecidableEq, Repr

/-- What a command line asks for. -/
inductive Request where
  | run (arguments : Arguments)
  | version
  | help
  deriving DecidableEq, Repr

/-- Options without a value. -/
inductive Flag where
  | tokens
  | skipMismatch
  | suppressOverlap
  | quiet
  | verbose
  deriving DecidableEq, Repr

/-- Options with a value. -/
inductive Setting where
  | rules
  | text
  | rule
  | lexicon
  | year
  | limit
  | output
  deriving DecidableEq, Repr

inductive Choice where
  | flag (flag : Flag)
  | setting (setting : Setting)
  | version
  | help
  deriving DecidableEq, Repr

def Choice.ofName? : String → Option Choice
  | "rules" => some (.setting .rules)
  | "text" => some (.setting .text)
  | "rule" => some (.setting .rule)
  | "tokens" => some (.flag .tokens)
  | "lexicon" => some (.setting .lexicon)
  | "year" => some (.setting .year)
  | "skip-mismatch" => some (.flag .skipMismatch)
  | "suppress-overlap" => some (.flag .suppressOverlap)
  | "limit" => some (.setting .limit)
  | "output" => some (.setting .output)
  | "quiet" => some (.flag .quiet)
  | "verbose" => some (.flag .verbose)
  | "version" => some .version
  | "help" => some .help
  | _ => none

def Choice.ofLetter? : Char → Option Choice
  | 't' => some (.setting .text)
  | 'r' => some (.setting .rule)
  | 'o' => some (.setting .output)
  | 'q' => some (.flag .quiet)
  | 'v' => some (.flag .verbose)
  | 'V' => some .version
  | 'h' => some .help
  | _ => none

/-! ### Values -/

/-- Decimal digits, at least one. -/
def readDigits? (text : List Char) : Option Nat :=
  if text ≠ [] ∧ text.all Char.isDigit then
    some (text.foldl (fun value digit => value * 10 + (digit.toNat - '0'.toNat)) 0)
  else none

/-- A year of 32 bits, with an optional sign. -/
def readYear? (text : String) : Option Int :=
  let year : Option Int := match text.toList with
    | '-' :: digits => (readDigits? digits).map fun value => -value
    | '+' :: digits => (readDigits? digits).map fun value => value
    | digits => (readDigits? digits).map fun value => value
  year.filter fun year => decide (-0x80000000 ≤ year) && decide (year < 0x80000000)

/-- A count of 64 bits; a plus sign may stand before it. -/
def readLimit? (text : String) : Option Nat :=
  let limit := match text.toList with
    | '+' :: digits => readDigits? digits
    | digits => readDigits? digits
  limit.filter fun limit => decide (limit < 0x10000000000000000)

/-- A path has a character. -/
def readPath? (text : String) : Option String := if text.isEmpty then none else some text

/-- Give a value to a place that has none yet. -/
def fill? {α : Type} (place : Option α) (value : Option α) : Option (Option α) :=
  if place.isSome then none else value.map some

namespace Arguments

/-- Set a flag, which can be done once. -/
def withFlag? (arguments : Arguments) : Flag → Option Arguments
  | .tokens => if arguments.tokens then none else some { arguments with tokens := true }
  | .skipMismatch =>
    if arguments.skipMismatch then none else some { arguments with skipMismatch := true }
  | .suppressOverlap =>
    if arguments.suppressOverlap then none else some { arguments with suppressOverlap := true }
  | .quiet => if arguments.quiet then none else some { arguments with quiet := true }
  | .verbose => if arguments.verbose then none else some { arguments with verbose := true }

/-- Take the value of an option, which only rules can have more than once. -/
def withValue? (arguments : Arguments) (value : String) : Setting → Option Arguments
  | .rules => (fill? arguments.rules (readPath? value)).map fun rules => { arguments with rules }
  | .text => (fill? arguments.text value).map fun text => { arguments with text }
  | .rule => some { arguments with rule := arguments.rule ++ [value] }
  | .lexicon =>
    (fill? arguments.lexicon (readPath? value)).map fun lexicon => { arguments with lexicon }
  | .year => (fill? arguments.year (readYear? value)).map fun year => { arguments with year }
  | .limit => (fill? arguments.limit (readLimit? value)).map fun limit => { arguments with limit }
  | .output =>
    (fill? arguments.output (readPath? value)).map fun output => { arguments with output }

end Arguments

/-! ### Words -/

/-- What a word has done. -/
inductive Progress where
  /-- The arguments after the word. -/
  | ready (arguments : Arguments)
  /-- The word ends with an option whose value is the next word. -/
  | awaiting (arguments : Arguments) (setting : Setting)
  | stop (request : Request)

/-- An option by its long name, perhaps with a value behind an equals sign. -/
def readLong? (arguments : Arguments) (word : List Char) : Option Progress := do
  let name := word.takeWhile (· ≠ '=')
  let value := (word.dropWhile (· ≠ '=')).tail?.map String.ofList
  match ← Choice.ofName? (String.ofList name), value with
  | .flag flag, none => return .ready (← arguments.withFlag? flag)
  | .setting setting, some value => return .ready (← arguments.withValue? value setting)
  | .setting setting, none => return .awaiting arguments setting
  | .version, none => return .stop .version
  | .help, none => return .stop .help
  | _, some _ => none

/-- Letters of options; one that has a value takes the rest of the word for it. -/
def readLetters? (arguments : Arguments) : List Char → Option Progress
  | [] => some (.ready arguments)
  | letter :: rest => do
    match ← Choice.ofLetter? letter, rest with
    | .flag flag, _ => readLetters? (← arguments.withFlag? flag) rest
    | .setting setting, [] => return .awaiting arguments setting
    | .setting setting, '=' :: value =>
      return .ready (← arguments.withValue? (String.ofList value) setting)
    | .setting setting, value =>
      return .ready (← arguments.withValue? (String.ofList value) setting)
    | .version, _ => return .stop .version
    | .help, _ => return .stop .help

/-- Read the words that follow. Two hyphens end the options, and then nothing may
follow. -/
def readWords? (arguments : Arguments) (pending : Option Setting) : List String → Option Request
  | [] => if pending.isSome then none else some (.run arguments)
  | word :: rest =>
    match pending with
    | some setting =>
      if word.startsWith "-" && word != "-" then none
      else do readWords? (← arguments.withValue? word setting) none rest
    | none => do
      -- A word that is no option has no place here, since every value is taken above.
      let progress ← match word.toList with
        | ['-', '-'] => if rest = [] then some (.ready arguments) else none
        | '-' :: '-' :: long => readLong? arguments long
        | '-' :: letter :: letters => readLetters? arguments (letter :: letters)
        | _ => none
      match progress with
      | .ready arguments => readWords? arguments none rest
      | .awaiting arguments setting => readWords? arguments (some setting) rest
      | .stop request => return request

/-- Read a command line; absent if it is not usable. -/
def Request.ofWords? (words : List String) : Option Request := readWords? {} none words

end SlotFilling.CommandLine

import SlotFilling.CommandLine.Arguments
import SlotFilling.Json.Encode
import SlotFilling.Lexicon.English
import SlotFilling.Lexicon.Yaml
import SlotFilling.Report.Json
import SlotFilling.Report.Summary
import SlotFilling.RuleFile.Folder
import SlotFilling.Tagger.Basic

/-!
# Runs of the command line

A run is computed from its arguments and from what the named files hold. Its result
lists what is printed and saved, in order, and tells whether the run fails at the
end. With a folder of rules the tests of all rule files are run, otherwise rules are
matched against one sentence.
-/
namespace SlotFilling.CommandLine

/-- What a run does, in order. -/
inductive Effect where
  /-- A line on standard output. -/
  | print (line : String)
  /-- A line on standard error. -/
  | note (line : String)
  | save (path : String) (content : Json)

structure Run where
  effects : List Effect
  /-- The reason why the run fails after its effects. -/
  failure : Option String := none

/-- What the files that the arguments name hold, or why they cannot be opened. -/
structure Sources where
  lexicon : Except String (List UInt8)
  rules : Except String (List (String × FileTree))

/-- A run that does nothing but fail. -/
def Run.failed (reason : String) : Run := ⟨[], some reason⟩

def Run.ofExcept : Except String Run → Run
  | .ok run => run
  | .error reason => .failed reason

/-- The lines of some effects on standard output. -/
def Effect.printed? : Effect → Option String
  | print line => some line
  | _ => none

/-- The lines of some effects on standard error. -/
def Effect.noted? : Effect → Option String
  | note line => some line
  | _ => none

/-- The exit code of a run. -/
def Run.code (run : Run) : Nat := if run.failure.isSome then 1 else 0

/-- Everything on standard output. -/
def Run.printed (run : Run) : List String := run.effects.filterMap Effect.printed?

/-- Everything on standard error. -/
def Run.noted (run : Run) : List String :=
  run.effects.filterMap Effect.noted? ++ (run.failure.map ("Error: " ++ ·)).toList

/-- What was last saved under one of the wanted paths. -/
def Run.saved? (run : Run) (wanted : String → Bool) : Option Json :=
  run.effects.reverse.findSome? fun effect => match effect with
    | .save path content => if wanted path then some content else none
    | _ => none

/-- The line that tells the version. -/
def versionLine : String := "slotmatch 0.1.0"

def usage : List String :=
  ["Usage:",
   "  slotmatch --rules <dir>                          Run rule file tests",
   "  slotmatch -t <sentence> -r <rule> [-r <rule>...] Match rules against a sentence",
   "  slotmatch -t <sentence> --tokens                 Show the tagged tokens",
   "",
   "Rule syntax:",
   "  check[noun]            literal \"check\" tagged as a noun",
   "  [number]->total        any number, captured as \"total\"",
   "  [currency]             any currency, not captured",
   "",
   "Options:",
   "  --lexicon <file.yaml>  Extra lexicon entries",
   "  --skip-mismatch        Skip tokens whose value cannot be read",
   "  --suppress-overlap     Drop overlapping alignments",
   "  --limit <n>            Return at most n alignments",
   "  -o <file.json>         Save results to JSON file"]

namespace Arguments

def searchOptions (arguments : Arguments) : SearchOptions where
  onMismatch := if arguments.skipMismatch then .skipToken else .abort
  overlap := if arguments.suppressOverlap then .suppress else .keep
  limit := arguments.limit

/-- The tagger of a run: the words of a lexicon file are added to the English ones. -/
def tagger (arguments : Arguments) (sources : Sources) (currentYear : Int) :
    Except String Tagger := do
  let lexicon ← match arguments.lexicon with
    | none => .ok Lexicon.english
    | some path => do
      match Lexicon.ofYaml (← sources.lexicon) with
      | .ok extra => .ok (Lexicon.english.merge extra)
      | .error _ => .error ("load lexicon " ++ path)
  return ⟨lexicon, arguments.year.getD currentYear⟩

/-- The effects, unless the run has to be quiet. -/
def unlessQuiet (arguments : Arguments) (effects : List Effect) : List Effect :=
  if arguments.quiet then [] else effects

/-- Run the tests of some rule files. -/
def testFiles (arguments : Arguments) (tagger : Tagger) (files : List RuleFile) : Run :=
  let tests := (files.flatMap (·.tests)).length
  let loaded := ("=== Loaded " ++ toString files.length ++ " rule files, " ++ toString tests ++
      " tests ===") ::
    files.map fun file => "  - " ++ file.name ++ " (" ++ toString file.patterns.length ++
      " rules, " ++ toString file.tests.length ++ " tests)"
  let report := Report.ofFiles tagger.tokenize arguments.searchOptions files
  let saved := arguments.output.toList.flatMap fun path =>
    [.save path report.toJson, .print "", .print ("Report saved to " ++ path)]
  let failure := if report.unpassed = 0 then none
    else some (toString report.unpassed ++ " of " ++ toString report.testCount ++
      " tests did not pass")
  ⟨arguments.unlessQuiet ((loaded ++ report.summary).map .print) ++ saved, failure⟩

/-- Match the rules of the command line against the tokens of the sentence. -/
def matchTokens (arguments : Arguments) (tokens : List Token) : Except Fault Run := do
  let rules ← RuleSet.parse arguments.rule
  let found ← search arguments.searchOptions tokens rules
  let json := Json.list (found.map RuleSet.toJson)
  let heading := Effect.note ("=== " ++ toString found.length ++ " alignment(s) ===")
  let saved := (arguments.output.map fun path => Effect.save path json).toList
  return ⟨arguments.unlessQuiet [heading] ++ .print json.pretty :: saved, none⟩

/-- Answer for one sentence. -/
def answer (arguments : Arguments) (tagger : Tagger) (text : String) : Run :=
  let tokens := tagger.tokenize text
  if arguments.tokens then ⟨[.print (Json.list (tokens.map Token.toJson)).pretty], none⟩
  else if arguments.rule.isEmpty then .failed "--text needs at least one --rule"
  else match arguments.matchTokens tokens with
    | .ok run => run
    | .error fault => .failed fault.message

/-- The whole run. Without rules and without a sentence it shows the usage. -/
def run (arguments : Arguments) (sources : Sources) (currentYear : Int) : Run :=
  .ofExcept do
    let tagger ← arguments.tagger sources currentYear
    match arguments.rules, arguments.text with
    | some path, _ =>
      match RuleFile.ofFolder path (← sources.rules) with
      | .ok files => return arguments.testFiles tagger files
      | .error fault => .error fault.message
    | none, some text => return arguments.answer tagger text
    | none, none => return ⟨usage.map .print, none⟩

end Arguments

end SlotFilling.CommandLine

import SlotFilling.Lexicon.Basic
import SlotFilling.Yaml.Decode

/-!
# Lexicons from YAML

A lexicon is a mapping of words, currencies and names, each of which may be left
out. What has been read is brought into its normal form.
-/
namespace SlotFilling.Lexicon

/-- The lexicon that a document holds, as it is written. -/
def ofNode (node : Yaml.Node) : Yaml.Node.Decoding Lexicon := do
  let texts := Yaml.Node.asList Yaml.Node.asText
  let record ← node.asRecord ["words", "currencies", "names"]
  let words ← Yaml.Node.optionalField (Yaml.Node.asDictionary texts) "words" record
  let currencies ← Yaml.Node.optionalField texts "currencies" record
  let names ← Yaml.Node.optionalField texts "names" record
  return ⟨words.getD Dictionary.empty, currencies.getD [], names.getD []⟩

/-- Read a lexicon and bring it into its normal form. -/
def ofYaml (bytes : List UInt8) : Except Fault Lexicon :=
  match (Yaml.Node.ofBytes? bytes).bind (Yaml.Node.decode? ofNode) with
  | some lexicon => lexicon.normalize
  | none => .error .unreadableLexicon

end SlotFilling.Lexicon

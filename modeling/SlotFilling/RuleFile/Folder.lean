import SlotFilling.RuleFile.Json
import SlotFilling.RuleFile.Yaml
import SlotFilling.Text.Quoted

/-!
# Folders of rule files

All rule files of a folder and of the folders in it are read. The extension of its
name tells how a file is written, and files with other extensions do not count.
The rule files are sorted by their own names; files of one name keep the order in
which the folder lists them.
-/
namespace SlotFilling

/-- A file, or a folder with its entries in the order in which it lists them. -/
inductive FileTree where
  | file (content : List UInt8)
  | folder (entries : List (String × FileTree))

/-- The path of an entry of a folder. -/
def entryPath (folder name : String) : String :=
  if folder.endsWith "/" then folder ++ name else folder ++ "/" ++ name

/-- A file with its path. -/
structure FoundFile where
  path : String
  name : String
  content : List UInt8

mutual

/-- All files below a path. -/
def FileTree.files (path name : String) : FileTree → List FoundFile
  | .file content => [⟨path, name, content⟩]
  | .folder entries => entryFiles path entries

/-- All files below the entries of a folder. -/
def entryFiles (path : String) : List (String × FileTree) → List FoundFile
  | [] => []
  | (name, tree) :: rest => tree.files (entryPath path name) name ++ entryFiles path rest

end

/-- What follows the last point of a file name. A point at the very start of the
name does not count. -/
def fileExtension? (name : String) : Option String :=
  let letters := name.toList.reverse
  -- What remains starts with the last point, and something has to stand before it.
  match letters.dropWhile (· ≠ '.') with
  | _ :: _ :: _ => some (String.ofList (letters.takeWhile (· ≠ '.')).reverse)
  | _ => none

/-- How a rule file is written. -/
inductive RuleFormat where
  | json
  | yaml
  deriving DecidableEq, Repr

def RuleFormat.ofName? (name : String) : Option RuleFormat :=
  match fileExtension? name with
  | some "json" => some .json
  | some "yaml" | some "yml" => some .yaml
  | _ => none

def RuleFormat.read? (format : RuleFormat) (content : List UInt8) : Option RuleFile :=
  match format with
  | .json => RuleFile.ofJson? content
  | .yaml => RuleFile.ofYaml? content

/-- Why a folder could not be read. -/
inductive FolderFault where
  | malformedFile (path : String)
  | noRules (path name : String)
  deriving DecidableEq, Repr

def FolderFault.message : FolderFault → String
  | malformedFile path => "parse " ++ path
  | noRules path name => path ++ ": rule file " ++ Text.quoted name ++ " has no rules"

namespace RuleFile

/-- Read one file. A rule file needs a rule. -/
def ofFound (file : FoundFile) (format : RuleFormat) : Except FolderFault RuleFile :=
  match format.read? file.content with
  | none => .error (.malformedFile file.path)
  | some ruleFile =>
    if ruleFile.patterns.isEmpty then .error (.noRules file.path ruleFile.name) else .ok ruleFile

/-- The rule files among some files, in their order; the first that cannot be read
is the fault. -/
def ofFiles (files : List FoundFile) : Except FolderFault (List RuleFile) :=
  (files.filterMap fun file => (RuleFormat.ofName? file.name).map (file, ·)).mapM
    fun (file, format) => ofFound file format

/-- The rule files below a folder, sorted by name. -/
def ofFolder (path : String) (entries : List (String × FileTree)) :
    Except FolderFault (List RuleFile) :=
  (ofFiles (entryFiles path entries)).map
    (·.mergeSort fun file other => decide (file.name ≤ other.name))

end RuleFile

end SlotFilling

import BellmanGrid.Config.Basic
import BellmanGrid.Files.Tree
import BellmanGrid.Yaml.Value

/-!
The configuration of a run from the text of a document.
-/

namespace BellmanGrid

inductive LoadError where
  | file (cause : FileError)
  | document (cause : YamlError)
  | config (cause : ConfigError)

instance : Reportable LoadError where
  kind
    | .file cause => kind cause
    | .document cause => kind cause
    | .config cause => kind cause
  message
    | .file cause => message cause
    | .document cause => message cause
    | .config cause => message cause

namespace RunConfig

/-- The configuration that a document writes. -/
def ofText (text : String) : Except LoadError RunConfig := do
  let raw ← (Yaml.valueOf text).mapError LoadError.document
  (ofValue raw).mapError LoadError.config

/-- The configuration in the document at a path; without a path it is the reference scenario. -/
def load (files : FileTree) : Option String → Except LoadError RunConfig
  | none => .ok {}
  | some path => do ofText (← (files.read (Path.ofText path)).mapError LoadError.file)

end RunConfig

end BellmanGrid

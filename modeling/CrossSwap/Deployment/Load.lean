import CrossSwap.Deployment.Config
import CrossSwap.Deployment.FileTree
import CrossSwap.Toml.Document

/-!
# Loading deployments

A configuration is a TOML document with a text for each field and, if it likes, a timeout.  Other
entries are passed over.
-/

namespace CrossSwap

inductive LoadError where
  /-- Nothing stands where the configuration is looked for. -/
  | missing (path : String)
  /-- The path leads to no file. -/
  | unreadable (path : String)
  /-- The file is no document, or not one of a deployment. -/
  | malformed (path : String)
  | invalid (error : ConfigError)
  deriving DecidableEq, Repr

/-- Where the configuration is when the environment names no other place. -/
def defaultConfigPath : String :=
  "config/swap-intents-svm.toml"

/-- The variable of the environment that names another place. -/
def configPathVariable : String :=
  "SWAP_INTENTS_SVM_CONFIG_PATH"

def LoadError.message : LoadError → String
  | .missing path =>
    s!"Configuration file '{path}' not found. Set {configPathVariable} or create {defaultConfigPath}."
  | .unreadable path => s!"Failed to read config file {path}"
  | .malformed path => s!"Failed to parse config file {path}"
  | .invalid error => error.message

namespace Toml.Entries

def text? (entries : Entries) (key : String) : Option String :=
  match entries.lookup key with
  | some (.text s) => some s
  | _ => none

/-- A whole number that is not negative, or the default if the key is not there. -/
def wordOr (entries : Entries) (key : String) (default : Word64) : Option Word64 :=
  match entries.lookup key with
  | some (.integer (.ofNat n)) => some (BitVec.ofNat 64 n)
  | some _ => none
  | none => some default

end Toml.Entries

namespace Deployment

/-- The configuration that a document writes. -/
def ofToml? (s : String) : Option Deployment := do
  let entries ← Toml.parse s
  return { name := ← entries.text? "name", rpcUrl := ← entries.text? "rpc_url",
           networkId := ← entries.text? "network_id", programId := ← entries.text? "program_id",
           timeoutSecs := ← entries.wordOr "timeout_secs" defaultTimeout }

/-- The usable configuration in the file at a path. -/
def loadFrom (tree : FileTree) (path : String) : Except LoadError Deployment := do
  match tree.content? path with
  | none => .error (.unreadable path)
  | some content =>
    match ofToml? content with
    | none => .error (.malformed path)
    | some d =>
      d.validate.mapError LoadError.invalid
      return d

/-- The usable configuration of the working directory.  `path?` is the place that the environment
names. -/
def load (tree : FileTree) (path? : Option String) : Except LoadError Deployment :=
  let path := path?.getD defaultConfigPath
  if (tree.place? path).isSome then loadFrom tree path else .error (.missing path)

end Deployment

end CrossSwap

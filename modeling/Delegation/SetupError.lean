import Delegation.RunError
/-!
# Errors of configuration and installation
-/

namespace Delegation

/-- Why a configuration or an installation was refused. -/
inductive SetupError where
  /-- A field of the configuration is unusable. -/
  | config (reason : String)
  /-- The operator table already holds this qualified name. -/
  | duplicateOperator (qualified : String)
  /-- An error of compilation or execution. -/
  | run (error : RunError)
  /-- A fault of a symbol or of the settings. -/
  | fault (fault : Fault)
  /-- The layered sources hold a value that does not fit its field. -/
  | source
  /-- A document that is not well-formed or does not fit the configuration. -/
  | document
  /-- A file that cannot be read. -/
  | file
deriving DecidableEq, Repr

/-- The text of an error.  Errors of documents, sources and files are told apart by their kind
alone, as their texts depend on where they were found. -/
def SetupError.message? : SetupError → Option String
  | .config reason => some ("Configuration error: " ++ reason)
  | .duplicateOperator qualified => some ("Operator already registered: " ++ qualified)
  | .run e => some ("Runtime error: " ++ e.message)
  | .fault f => some ("Core error: " ++ f.message)
  | .source | .document | .file => none

end Delegation

import Delegation.Layers.Table
import Delegation.Layers.Unreadable
import Delegation.LooseYaml.Reader
/-!
# Layers from YAML

The value that a text of loose YAML gives to a layer.  Numbers that are not finite have to be
written as words that every number may be written with, and fields are named by texts and integers;
a key of another kind is a panic.
-/

namespace Delegation.Raw

/-- The panic over a key that is neither a text nor an integer. -/
def strangeKey : String :=
  "internal error: entered unreachable code"

/-- The name that a key gives to a field. -/
def fieldName : LooseYaml.Value → Exit Unreadable String
  | .text s => .returned (String.ofList s)
  | .int n => .returned (toString n.toInt)
  | _ => .panicked strangeKey

mutual

/-- The value of a node. -/
def ofYaml : LooseYaml.Value → Exit Unreadable Raw
  | .null | .senseless => .returned absent
  | .bool b => .returned (bool b)
  | .int n => .returned (int n)
  | .float s => (Exit.ofOption .noTable (Double.ofText? s)).map float
  | .text s => .returned (text (String.ofList s))
  | .sequence items => (listOfYaml items).map list
  | .mapping entries => (fieldsOfYaml entries).map fun fields => table (Fields.ofList fields)

/-- The values of several nodes. -/
def listOfYaml : List LooseYaml.Value → Exit Unreadable (List Raw)
  | [] => .returned []
  | item :: items => (ofYaml item).bind fun v => (listOfYaml items).map (v :: ·)

/-- The names and values of several fields. -/
def fieldsOfYaml : List (LooseYaml.Value × LooseYaml.Value) → Exit Unreadable (List (String × Raw))
  | [] => .returned []
  | (key, value) :: entries =>
    (fieldName key).bind fun k =>
      (ofYaml value).bind fun v => (fieldsOfYaml entries).map ((k, v) :: ·)

end

/-- The fields of the table that a YAML text writes; a text without any document writes an empty
one. -/
def parseYaml (s : String) : Exit Unreadable Fields :=
  match LooseYaml.documents? s with
  | some [] => .returned []
  | some [v] => (ofYaml v).bind fun r => Exit.ofOption .noTable r.fields?
  | _ => .failed .noTable

end Delegation.Raw

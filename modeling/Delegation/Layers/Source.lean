import Delegation.Ini.Reader
import Delegation.Json5.Reader
import Delegation.Layers.Files
import Delegation.Layers.Json
import Delegation.Layers.Yaml
import Delegation.Ron.Reader
import Delegation.Toml.Reader
/-!
# Files as layers

A file becomes a layer by its format, which shows in the extension of its name.  A file may be named
without its extension: then one is looked for that has the name with an extension added.
-/

namespace Delegation

/-- The formats of layers. -/
inductive Format where
  /-- TOML. -/
  | toml
  /-- JSON. -/
  | json
  /-- YAML. -/
  | yaml
  /-- INI. -/
  | ini
  /-- RON. -/
  | ron
  /-- JSON5. -/
  | json5
deriving DecidableEq, Repr

namespace Format

/-- The extensions, in the order in which they are tried, with their formats. -/
def extensions : List (String × Format) :=
  [("toml", toml), ("json", json), ("yaml", yaml), ("yml", yaml), ("ini", ini), ("ron", ron),
    ("json5", json5)]

/-- The extension of a path: what follows the last dot of its last part, if the dot is not the first
character of that part. -/
def extension? (path : String) : Option String :=
  let name := ((Files.split path).getLast?.getD "").toList
  let after := (name.reverse.takeWhile (· != '.')).reverse
  if after.length + 1 < name.length then some (String.ofList after) else none

/-- The format of a path. -/
def ofPath? (path : String) : Option Format :=
  (extension? path).bind fun e => extensions.lookup e

/-- The fields of the table that a text writes. -/
def read (f : Format) (text : String) : Exit Unreadable Fields :=
  match f with
  | toml => .ofOption .noTable (Toml.parse? text)
  | ini => .ofOption .noTable (Ini.parse? text)
  | json => .ofOption .noTable ((Raw.parseJson? text).bind Raw.fields?)
  | json5 => .ofOption .noTable ((Json5.parse? text).bind Raw.fields?)
  | ron => .ofOption .noTable ((Ron.parse? text).bind Raw.fields?)
  | yaml => Raw.parseYaml text

end Format

/-- What a path leads to. -/
inductive Source where
  /-- No file, or one whose format is not known. -/
  | missing
  /-- A file of a format. -/
  | file (format : Format) (text : String)
deriving DecidableEq, Repr

namespace Source

/-- The path to which extensions are added: dots and slashes at the end do not count, and there has
to be a name before them. -/
def stem? (path : String) : Option String :=
  let names := ((Files.split path).reverse.dropWhile fun n => n == "" || n == ".").reverse
  match names.getLast? with
  | some name => if name = ".." then none else some ("/".intercalate names)
  | none => none

/-- The file of a path with an extension added. -/
def extended (files : Files) (path : String) : Source :=
  match stem? path with
  | none => missing
  | some stem =>
    match Format.extensions.findSome? fun e =>
      (files.get? (stem ++ "." ++ e.1)).map fun text => (e.2, text) with
    | some (f, text) => file f text
    | none => missing

/-- The file of a path, or else of the path with an extension added. -/
def find (files : Files) (path : String) : Source :=
  match files.get? path with
  | some text =>
    match Format.ofPath? path with
    | some f => file f text
    | none => missing
  | none => extended files path

/-- The layer of a source: nothing is laid where there is no file. -/
def layer : Source → Exit Unreadable Fields
  | missing => .returned []
  | file f text => f.read text

end Source

end Delegation

import MixedScript.Input
import MixedScript.Json.Reader
import MixedScript.Text.LetterCase
import MixedScript.Toml.Reader
import MixedScript.Yaml.Loader

/-!
Configuration files. The name of a file tells its format; whatever the format, a file holds a mapping. In the
file of a whole project the mapping is one table among others.
-/

namespace MixedScript.Settings

/-- A format of configuration files. -/
inductive ConfigFormat where
  /-- TOML with the configuration of a whole project. -/
  | project
  | toml | yaml | json
  deriving DecidableEq, Repr

/-- The name of the file that holds the configuration of a project. -/
def projectFileName : String := "pyproject.toml"

/-- A text in small letters. -/
def lowercase (s : String) : String :=
  String.ofList (Text.toLower s.toList)

/-- The format of a file with a name, or the ending that tells of none. -/
def ConfigFormat.ofName (name : String) : Except String ConfigFormat :=
  let ending := lowercase (Path.suffix name)
  if lowercase name == projectFileName then .ok .project
  else if ending == ".toml" then .ok .toml
  else if ending == ".yaml" || ending == ".yml" then .ok .yaml
  else if ending == ".json" then .ok .json
  else .error ending

/-- The mapping under the program's name in the tables of the tools of a project; an empty one if there is none. -/
def projectTable (shown : String) (document : Mapping) : Except Problem Mapping :=
  match (document.at? "tool").getD (.map []) with
  | .map tools =>
    match (Mapping.at? tools "cjkfmt").getD .null with
    | .null => .ok []
    | .map table => .ok table
    | other => .error (.own (.invalid
        ("[tool.cjkfmt] section in " ++ shown ++ " must be a table, got " ++ other.typeName)))
  | _ => .error (.outside .missingMember)

/-- The error for a file of a format that cannot be read. -/
def ConfigFormat.unreadable (format : ConfigFormat) (shown : String) : Error :=
  .invalid ("Error reading " ++ (match format with
    | project => projectFileName
    | toml => "TOML config"
    | yaml => "YAML config"
    | json => "JSON config") ++ " " ++ shown)

/-- The text of a file that has to be in UTF-8. -/
def textOf (bs : Encoding.Bytes) : Option Chars :=
  (Encoding.Utf8.decode bs).toOption

/-- The document in a TOML file. -/
def tomlDocument (complaint : String) (bs : Encoding.Bytes) : Except Problem Mapping :=
  match textOf bs with
  | none => .error (.outside .undecodable)
  | some cs =>
    match Toml.load cs with
    | .ok document => .ok document
    | .error .malformed => .error (.own (.invalid complaint))
    | .error (.value m) => .error (.outside m)

/-- The mapping in a JSON file. -/
def jsonMapping (shown : String) (bs : Encoding.Bytes) : Except Problem Mapping :=
  match textOf bs with
  | none => .error (.own (ConfigFormat.json.unreadable shown))
  | some cs =>
    match Json.load cs with
    | .ok (.map m) => .ok m
    | .ok v => .error (.own (.invalid ("JSON config file must contain an object, got " ++ v.typeName)))
    | .error .malformed => .error (.own (.invalid ("Invalid JSON in config file " ++ shown)))
    | .error (.value m) => .error (.outside m)

/-- The mapping in a YAML file. An empty file is an empty mapping. -/
def yamlMapping (shown : String) (bs : Encoding.Bytes) : Except Problem Mapping :=
  match textOf bs with
  | none => .error (.own (ConfigFormat.yaml.unreadable shown))
  | some cs =>
    match Yaml.load (Chars.unifyLineEnds cs) with
    | .ok (.map m) => .ok m
    | .ok .null => .ok []
    | .ok v => .error (.own (.invalid ("YAML config file must contain a mapping, got " ++ v.typeName)))
    | .error .malformed => .error (.own (.invalid ("Invalid YAML in config file " ++ shown)))
    | .error (.value m) => .error (.outside m)

/-- The mapping in the bytes of a configuration file. -/
def ConfigFormat.mapping (format : ConfigFormat) (shown : String) (bs : Encoding.Bytes) : Except Problem Mapping :=
  match format with
  | project => do projectTable shown (← tomlDocument ("Invalid TOML in pyproject.toml " ++ shown) bs)
  | toml => tomlDocument ("Invalid TOML in config file " ++ shown) bs
  | yaml => yamlMapping shown bs
  | json => jsonMapping shown bs

/-- The mapping in a configuration file whose bytes have been read, or could not be. -/
def ConfigFormat.load (format : ConfigFormat) (shown : String) (read : Except Mishap Encoding.Bytes) :
    Except Problem Mapping :=
  match read with
  | .ok bs => format.mapping shown bs
  | .error _ => .error (.own (format.unreadable shown))

/-- The mapping in a configuration file. -/
def loadConfigFile (s : Surroundings) (path : String) : Except Problem Mapping := do
  let shown := Path.plain path
  let place := Path.resolve s.current path
  if !s.files.holds place then throw (.own (.invalid ("Configuration file does not exist: " ++ shown)))
  else if !s.files.isFile place then throw (.own (.invalid ("Configuration path is not a file: " ++ shown)))
  else
    match ConfigFormat.ofName (Path.name path) with
    | .error ending =>
      throw (.own (.invalid ("Unsupported config file format: " ++ ending ++ ". Use .json, .toml, or .yaml")))
    | .ok format => format.load shown (s.files.read place)

end MixedScript.Settings

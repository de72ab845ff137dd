import SinkAudit.Document.SetOrder
import SinkAudit.Folder
import SinkAudit.Json.Reader
import SinkAudit.PropertiesFile
import SinkAudit.Snapshot.Resolution
import SinkAudit.Text.Blank
import SinkAudit.Text.Utf8
import SinkAudit.Yaml.Document

/-!
# Configuration files

A configuration file holds a flat mapping, as a property file or as a JSON or YAML document. A
document may also be a request body that carries the mapping under `config`; one such layer is taken off,
and no more, so that a nested value under a second `config` is an error like any other nested value.

Loading fails with an error of a known kind in most cases (`LoadError`). The kinds that are not documented
for it are here too: a path that leads to a directory, documents that are nested too deep to be read, and
what the constructors of YAML values raise on their own. Their texts are those that the program shows.

The checks stand in a fixed order, which decides what is said of a file with several problems: that it
exists comes before that it is UTF-8, and that before its suffix.

- `LoadError`: why a file holds no configuration.
- `Notation.ofSuffix?`: the notation that the suffix of a path stands for.
- `unwrapConfig`, `flatMapping`: from a document to its flat mapping.
- `readConfiguration`: the mapping in the text of a file.
- `loadProperties`: the mapping in a file of a folder (`load_properties`).
- `loadSnapshot`: the snapshot of that mapping (`load_snapshot`).
-/

namespace SinkAudit

/-- Why a file holds no configuration. Most errors show the path; those that an interpreter or a reader of
documents raises by itself do not know it. -/
inductive LoadError where
  | notFound (path : String)
  | isDirectory (path : String)
  | notUtf8 (path : String) (e : Utf8.DecodeError)
  | unsupported (suffix : String)
  | escape (path : String) (e : PropertiesFile.EscapeError)
  | json (path : String) (e : Json.SyntaxError)
  | longInteger (digits : Nat)
  | tooDeep (object : Bool)
  | yaml (path : String) (e : Yaml.Error)
  | notMapping (path : String)
  | nested (path : String) (keys : List Scalar)
  /-- The key of a nested value is an integer too long to be written. -/
  | longKey

/-- The text of an error about a value of a YAML document. -/
def Yaml.Error.message (path : String) : Yaml.Error → String
  | malformed => "Invalid YAML in " ++ path
  | codePoint n =>
    if n < Nat.pow 2 31 then "chr() arg not in range(0x110000)"
    else "Python int too large to convert to C int"
  | notInteger base t => Number.notIntegerMessage base t
  | longInteger n => (Number.IntError.tooLong n).message []
  | notFloat t => "could not convert string to float: " ++ Text.quoteText t
  | notFlag t => Text.quoteText t
  | noDigits => "string index out of range"
  | notTime => "'NoneType' object has no attribute 'groupdict'"
  | notTimeText => "expected string or bytes-like object, got 'list'"
  | floatRange => "int too large to convert to float"
  | tooDeep => "maximum recursion depth exceeded"
  | calendar e => e.message

/-- The text of the error. -/
def LoadError.message : LoadError → Text
  | notFound path => "Configuration file not found: " ++ path
  | isDirectory path => "[Errno 21] Is a directory: " ++ Text.quoteString path
  | notUtf8 path e => "Configuration file " ++ path ++ " is not valid UTF-8: " ++ e.message
  | unsupported suffix =>
    "Unsupported configuration file type: " ++ if suffix = "" then "(none)" else suffix
  | escape path e => "Invalid properties in " ++ path ++ ": " ++ e.message
  | json path e => "Invalid JSON in " ++ path ++ ": " ++ e.message
  | longInteger n => (Number.IntError.tooLong n).message []
  | tooDeep object =>
    "maximum recursion depth exceeded while decoding a JSON " ++ (if object then "object" else "array")
      ++ " from a unicode string"
  | yaml path e => e.message path
  | notMapping path => "Configuration in " ++ path ++ " must be a mapping of keys to values"
  | nested path keys =>
    Text.ofString ("Configuration in " ++ path ++ " must be flat; nested values for: ")
      ++ Text.join (Text.ofString ", ") (keys.map Scalar.plainText)
  | longKey => Scalar.tooLongMessage

/-- The notations of configuration files. -/
inductive Notation where
  | properties
  | json
  | yaml
  deriving DecidableEq

/-- The notation that a suffix in lower case stands for (`PROPERTIES_SUFFIXES`, `YAML_SUFFIXES`). -/
def Notation.ofSuffix? (suffix : String) : Option Notation :=
  if suffix = ".properties" ∨ suffix = ".conf" ∨ suffix = ".cfg" then some .properties
  else if suffix = ".json" then some .json
  else if suffix = ".yaml" ∨ suffix = ".yml" then some .yaml
  else none

/-- The mapping that a document carries under `config`, if it does, else the document. A scalar or a list
under `config` is no payload, and stays a value of its own. -/
def unwrapConfig (v : Value) : Value :=
  match v with
  | .mapping entries => match OrderedMap.lookup ("config" : Scalar) entries with
    | some (.mapping inner) => .mapping inner
    | _ => v
  | _ => v

/-- The flat mapping that a document is or carries, as the last part of `load_properties` finds it. If values
are nested, all their keys are named, in the order of the mapping. -/
def flatMapping (path : String) (v : Value) : Except LoadError Properties :=
  match unwrapConfig v with
  | .mapping entries =>
    match (entries.filter fun e => e.2.isNested).map Prod.fst with
    | [] => .ok (.ofList entries)
    | keys => .error (if keys.any Scalar.isTooLong then .longKey else .nested path keys)
  | _ => .error (.notMapping path)

/-- How deep a YAML document is looked into: its entries, and those of the mapping under `config`. -/
def yamlDepth : Nat := 2

/-- The mapping in the text of a file, which one of three readers finds. Only YAML has sets, which list their
members in the given order. -/
def readConfiguration (path : String) (form : Notation) (cs : List Char)
    (order : SetOrder := .canonical) : Except LoadError Properties :=
  match form with
  | .properties => match PropertiesFile.parse cs with
    | .ok entries =>
      .ok (.ofList (entries.toList.map fun e => (.text e.1, .scalar (.text e.2))))
    | .error e => .error (.escape path e)
  | .json => match Json.parse cs with
    | .ok v => flatMapping path v
    | .error (.malformed e) => .error (.json path e)
    | .error (.longInteger n) => .error (.longInteger n)
    | .error (.tooDeep object) => .error (.tooDeep object)
  | .yaml => match Yaml.load yamlDepth cs with
    | .ok v => flatMapping path (v.listed order)
    | .error e => .error (.yaml path e)

/-- The mapping in a file of a folder, as `load_properties` gives it. -/
def loadProperties (folder : Folder) (path : String) (order : SetOrder := .canonical) :
    Except LoadError Properties :=
  let path := normalizePath path
  match folder.find? path with
  | none => .error (.notFound path)
  | some .directory => .error (.isDirectory path)
  | some (.file bytes) => match Utf8.decode bytes with
    | .error e => .error (.notUtf8 path e)
    | .ok cs =>
      let suffix := Text.lowerString (pathSuffix path)
      -- the suffix is looked at last, when the bytes have been read as text already
      match Notation.ofSuffix? suffix with
      | none => .error (.unsupported suffix)
      | some n => readConfiguration path n (Text.normalizeBreaks cs) order

/-- Why a file holds no snapshot: it cannot be loaded, or what is in it is no configuration. -/
inductive FileError where
  | load (e : LoadError)
  | snapshot (e : SnapshotError)

/-- The snapshot in a file of a folder, as `load_snapshot` gives it. -/
def loadSnapshot (folder : Folder) (path : String) (order : SetOrder := .canonical) :
    Except FileError Snapshot :=
  match loadProperties folder path order with
  | .error e => .error (.load e)
  | .ok p => match Snapshot.ofProperties p with
    | .ok s => .ok s
    | .error e => .error (.snapshot e)

end SinkAudit

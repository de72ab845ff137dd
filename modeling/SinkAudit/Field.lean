/-!
# The fields of a sink configuration

Seven properties decide whether a sink configuration is compatible with its compression. Each has two
names that a configuration may use, its stable name and the one that the connector gives it, and a third as
an attribute of a snapshot, by which only programs know it. No name stands for two fields, in whichever of
the vocabularies it is read.

The order of `Field.all` is not a detail of this list. It is the order of every report, of the errors of a
rejected configuration and of the rows of a table.

- `Field`: the seven, in report order (`Field.all`).
- `Field.name`, `Field.nativeName`, `Field.attributeName`: the stable name of a field, the name that the
  connector itself gives it, and its name as an attribute.
- `Field.ofKey?`: the field that a stable or a native name stands for.
- `formatClasses`: the connector's class names for the formats it brings along.
- `Codec`: what the compression may be.
-/

namespace SinkAudit

/-- A property that takes part in the checks (`ALL_FIELDS`). All others in a configuration are read past. -/
inductive Field where
  | dataFormat
  | storeKeys
  | keysFormat
  | storeHeaders
  | headersFormat
  | compression
  | bucket
  deriving DecidableEq

/-- The two vocabularies in which a property may be named: the audit's own, and that of the connector
(`PROPERTY_ALIASES`). -/
inductive Spelling where
  | stable
  | native
  deriving DecidableEq

namespace Field

/-- Every field, in report order (`ALL_FIELDS`). -/
def all : List Field :=
  [dataFormat, storeKeys, keysFormat, storeHeaders, headersFormat, compression, bucket]

/-- The stable name, which is used wherever something is reported. -/
def name : Field → String
  | dataFormat => "data-format-class"
  | storeKeys => "store-keys"
  | keysFormat => "keys-format-class"
  | storeHeaders => "store-headers"
  | headersFormat => "headers-format-class"
  | compression => "compression-type"
  | bucket => "bucket-name"

/-- The connector's own name (`PROPERTY_ALIASES`). -/
def nativeName : Field → String
  | dataFormat => "format.class"
  | storeKeys => "store.kafka.keys"
  | keysFormat => "keys.format.class"
  | storeHeaders => "store.kafka.headers"
  | headersFormat => "headers.format.class"
  | compression => "s3.compression.type"
  | bucket => "s3.bucket.name"

/-- The name as an attribute, by which programs set a field directly. -/
def attributeName : Field → String
  | dataFormat => "data_format"
  | storeKeys => "store_keys"
  | keysFormat => "keys_format"
  | storeHeaders => "store_headers"
  | headersFormat => "headers_format"
  | compression => "compression_type"
  | bucket => "bucket_name"

/-- The name in a vocabulary. -/
def spelled (f : Field) : Spelling → String
  | .stable => f.name
  | .native => f.nativeName

/-- The field that a key names, and the vocabulary it is named in. Keys are names letter by letter: neither
blanks nor case are overlooked, as they are in some of the values. -/
def ofKey? (key : String) : Option (Field × Spelling) :=
  (all.find? (·.name == key)).map (·, .stable)
    <|> (all.find? (·.nativeName == key)).map (·, .native)

/-- Does the field name a format? Under the native names of these a class may stand for its format
(`NATIVE_FORMAT_KEYS`). -/
def isFormat : Field → Bool
  | dataFormat | keysFormat | headersFormat => true
  | _ => false

/-- Do values of the field that differ only in case mean the same (`_CASE_INSENSITIVE_FIELDS`)? -/
def ignoresCase : Field → Bool
  | storeKeys | storeHeaders | compression => true
  | _ => false

@[simp] theorem ofKey?_spelled (f : Field) (s : Spelling) : ofKey? (f.spelled s) = some (f, s) := by
  cases f <;> cases s <;> rfl

@[simp] theorem name_inj {f g : Field} : f.name = g.name ↔ f = g := by
  constructor
  · intro h
    have hkey : ofKey? (f.spelled .stable) = ofKey? (g.spelled .stable) := congrArg _ h
    rw [ofKey?_spelled, ofKey?_spelled] at hkey
    cases hkey
    rfl
  · rintro rfl
    rfl

theorem mem_all (f : Field) : f ∈ all := by cases f <;> decide

/-- Every field stands once among all. -/
theorem pairwise_all : all.Pairwise (· ≠ ·) := by decide

end Field

/-- The connector's format classes, and the identifiers of their formats (`FORMAT_CLASS_ALIASES`). -/
def formatClasses : List (String × String) :=
  [("io.confluent.connect.s3.format.avro.AvroFormat", "avro"),
    ("io.confluent.connect.s3.format.json.JsonFormat", "json"),
    ("io.confluent.connect.s3.format.bytearray.ByteArrayFormat", "bytearray"),
    ("io.confluent.connect.s3.format.parquet.ParquetFormat", "parquet")]

/-- How objects are compressed as a whole (`CompressionType`). -/
inductive Codec where
  | none
  | gzip
  deriving DecidableEq

namespace Codec

/-- Every codec, in the order in which they are listed. -/
def all : List Codec := [.none, .gzip]

/-- The name of a codec in a configuration. -/
def name : Codec → String
  | .none => "none"
  | .gzip => "gzip"

/-- The codec of a name. -/
def ofName? (s : String) : Option Codec := all.find? (·.name == s)

/-- The label of a codec in literals, which show a codec as a member of its enumeration. A codec comes into a
message as such if a program passed one in place of its name. -/
def label : Codec → String
  | .none => "NONE"
  | .gzip => "GZIP"

@[simp] theorem ofName?_name (c : Codec) : ofName? c.name = some c := by cases c <;> rfl

end Codec

end SinkAudit

import UdsCatalog.Files.Tree
import UdsCatalog.Generation.Output
import UdsCatalog.Json.Reader
import UdsCatalog.Settings.Value
import UdsCatalog.Toml.Reader

/-! The formats of settings files. The end of a file's name tells its format. -/

namespace UdsCatalog.Settings

namespace Value

mutual

/-- A value of a JSON document. Names are in small letters. -/
def ofJson (origin : Files.Path) : Json → Value
  | .null => .nothing
  | .bool value => .bool value
  -- An integer beyond the signed numbers of 64 bits is kept as the nearest floating-point number.
  | .number (.int value) =>
    if value < 0x8000_0000_0000_0000 then .int value else .float (.finite (.ofInt value))
  | .number (.float value) => .float (.finite value)
  | .text value => .text value
  | .array items => .list (some origin) (listOfJson origin items)
  | .object fields => .table (some origin) (fieldsOfJson origin fields)

/-- The values of an array. -/
def listOfJson (origin : Files.Path) : List Json → List Value
  | [] => []
  | item :: rest => ofJson origin item :: listOfJson origin rest

/-- The values of an object, each under its name in small letters. -/
def fieldsOfJson (origin : Files.Path) : List (String × Json) → List (String × Value)
  | [] => []
  | (name, value) :: rest => (Text.toSmall name, ofJson origin value) :: fieldsOfJson origin rest

end

end Value

/-- What the names of settings files end with. -/
def fileSuffix : String := ".toml"

/-- A format of settings files: what the names of its files end with, and how they are read. -/
structure Format where
  suffixes : List String
  /-- The values that a text gives, and none for a malformed one. They tell the file that they are from. -/
  read : Files.Path → String → Option (Named Value)

namespace Format

/-- A document of tables and keys. -/
def toml : Format where
  suffixes := [fileSuffix]
  read file text := (Toml.parse? text).map (Value.fieldsOfToml file)

/-- A document that is an object. -/
def json : Format where
  suffixes := [".json"]
  read file text :=
    match Json.parse text with
    | .ok (.object fields) => some (Value.fieldsOfJson file fields)
    | _ => none

/-- The formats that are read unless others are given. -/
def standard : List Format := [toml, json]

/-- The name of a file ends as it does in the format. Something must stand in front of the end. -/
def isFor (format : Format) (path : Files.Path) : Bool :=
  format.suffixes.any fun suffix => (path.fileName?.bind (Generation.stem? suffix)).isSome

end Format

end UdsCatalog.Settings

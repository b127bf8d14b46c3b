import UdsCatalog.Record.Basic

/-! The schemas of the three definition tables that the program brings along. -/

namespace UdsCatalog.Definition

/-- A schema of a value by its keywords, which stand in the order of their names. -/
def schemaOf (keywords : List (String × Json)) : Json := .object keywords

/-- The schema of any text. -/
def anyText : Json := schemaOf [("type", .text "string")]

/-- The schema of a text that is not empty. -/
def someText : Json := schemaOf [("minLength", .int 1), ("type", .text "string")]

/-- The pattern of an identifier. -/
def identifierPattern : String := "^[A-Za-z_][A-Za-z0-9_]*$"

/-- The schema of an identifier. -/
def identifierText : Json :=
  schemaOf [("pattern", .text identifierPattern), ("type", .text "string")]

/-- The schema of the tag of a direction. -/
def directionTag : Json :=
  schemaOf [("enum", .array [.text "Req", .text "PosResp", .text "NegResp"]), ("type", .text "string")]

/-- The schema of a position that counts from one. -/
def position : Json := schemaOf [("minimum", .int 1), ("type", .text "integer")]

/-- The keywords of an object that has the required fields and none but the known ones. -/
def closedObject (properties : List (String × Json)) (required : List String) : List (String × Json) :=
  -- Keywords stand in the order of their names, as objects do everywhere.
  [("additionalProperties", .bool false), ("properties", .object properties),
    ("required", .array (required.map Json.text))]

/-- The schema of a table: an object with one field, which holds the rows. -/
def tableSchema (id title key : String) (properties : List (String × Json)) (required : List String) :
    Json :=
  -- The row and the table are both closed, so a field that nobody knows is found at either level.
  let row := schemaOf (closedObject properties required ++ [("type", .text "object")])
  let rows := schemaOf [("items", row), ("type", .text "array")]
  schemaOf
    ([("$id", .text id), ("$schema", .text "http://json-schema.org/draft-07/schema#")] ++
      closedObject [(key, rows)] [key] ++ [("title", .text title), ("type", .text "object")])

/-- The schema of the service table. -/
def serviceSchema : Json :=
  tableSchema "https://uds-def-gen/schemas/service.schema.json" "UDS service table" "Service"
    [("DefaultSession", anyText), ("Hex", someText), ("NameForProgrammer", identifierText),
      ("NonDefaultSession", anyText), ("ShortName", anyText)]
    ["NameForProgrammer", "ShortName", "Hex", "DefaultSession", "NonDefaultSession"]

/-- The schema of the sub-function table. -/
def subFunctionSchema : Json :=
  tableSchema "https://uds-def-gen/schemas/service_sub.schema.json" "UDS service sub-function table"
    "ServiceSub"
    [("Bit6to0", someText), ("Details", anyText), ("Mnemonic", anyText),
      ("ServiceNameForProgrammer", anyText), ("ShortName", anyText),
      ("SubFunctionNameForProgrammer", identifierText)]
    ["ServiceNameForProgrammer", "SubFunctionNameForProgrammer", "Bit6to0", "ShortName", "Mnemonic",
      "Details"]

/-- The schema of the layout table. -/
def layoutSchema : Json :=
  tableSchema "https://uds-def-gen/schemas/req_resp.schema.json" "UDS request/response byte layout table"
    "ReqRespItem"
    [("DataByte", position), ("Details", anyText), ("MemClassName", anyText),
      ("NameForProgrammer", identifierText), ("ReqResp", directionTag), ("Size", someText)]
    -- The details are the one field that may be left out.
    ["MemClassName", "NameForProgrammer", "ReqResp", "DataByte", "Size"]

/-- The file name of the schema of a table. -/
def schemaFile : Record.Kind → String
  | .services => "service.schema.json"
  | .subFunctions => "service_sub.schema.json"
  | .layouts => "req_resp.schema.json"

/-- The schema of a table. -/
def builtInSchema : Record.Kind → Json
  | .services => serviceSchema
  | .subFunctions => subFunctionSchema
  | .layouts => layoutSchema

/-- The schema under a file name. -/
def builtInSchema? (file : Files.Path) : Option Json :=
  -- Two spellings of one path agree, so a file name is not compared as text.
  ([.services, .subFunctions, .layouts].find? fun kind =>
    Files.Path.agrees ⟨schemaFile kind⟩ file).map builtInSchema

end UdsCatalog.Definition

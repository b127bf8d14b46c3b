import Mathlib
import UdsCatalog.Generation.Context

/-!
Generated code with marks: which names a part of the text declares, defines or uses. Both files are
written down as functions of the catalog.
-/

namespace UdsCatalog.Generation

/-- How a member function is called. -/
structure Signature where
  result : String
  parameters : String
  deriving DecidableEq, Repr

/-- What a name in generated code stands for. -/
inductive Entity where
  | enumerator (scope name : String)
  /-- A constant of a class. -/
  | constant (owner name : String)
  /-- A member function of a class. -/
  | method (owner name : String) (signature : Signature)
  | variable (type name : String)
  deriving DecidableEq, Repr

namespace Entity

/-- How an entity is declared. -/
@[simp] def declaration : Entity → String
  | .enumerator _ name => name
  | .constant _ name => String.join ["const uint8_t ", name]
  | .method _ name signature =>
    String.join [signature.result, " ", name, "(", signature.parameters, ") const"]
  | .variable type name => String.join ["extern const ", type, " ", name]

/-- How an entity is defined outside of its class. What stands in a class is defined by its
declaration. -/
@[simp] def definition : Entity → String
  | .method owner name signature =>
    String.join [signature.result, " ", owner, "::", name, "(", signature.parameters, ") const"]
  | .variable type name => String.join ["const ", type, " ", name]
  | other => other.declaration

/-- How an entity is mentioned. -/
@[simp] def mention : Entity → String
  | .enumerator scope name => String.join [scope, "::", name]
  | .constant _ name => name
  | .method _ name _ => name
  | .variable _ name => name

/-- The name of a variable. -/
@[simp] def variableName? : Entity → Option String
  | .variable _ name => some name
  | _ => none

/-- The name of an enumerator. -/
@[simp] def enumeratorName? : Entity → Option String
  | .enumerator _ name => some name
  | _ => none

end Entity

/-- A part of generated code. -/
inductive Word where
  | plain (text : String)
  | declared (entity : Entity)
  | defined (entity : Entity)
  | used (entity : Entity)
  deriving DecidableEq, Repr

/-- The text of a word. -/
@[simp] def Word.text : Word → String
  | .plain text => text
  | .declared entity => entity.declaration
  | .defined entity => entity.definition
  | .used entity => entity.mention

/-- The member function that a word declares. -/
@[simp] def Word.declaredMethod? : Word → Option Entity
  | .declared (.method owner name signature) => some (.method owner name signature)
  | _ => none

/-- The member function that a word defines. -/
@[simp] def Word.definedMethod? : Word → Option Entity
  | .defined (.method owner name signature) => some (.method owner name signature)
  | _ => none

/-- The name that a word declares, if it is one of those asked for. -/
@[simp] def Word.declaredName? (name? : Entity → Option String) : Word → Option String
  | .declared entity => name? entity
  | _ => none

/-- Generated code. -/
abbrev Code := List Word

namespace Code

/-- The text of code. -/
def text (code : Code) : String := String.join (code.map Word.text)

/-- The member functions that code declares, in order. -/
def declaredMethods (code : Code) : List Entity := code.filterMap Word.declaredMethod?

/-- The member functions that code defines, in order. -/
def definedMethods (code : Code) : List Entity := code.filterMap Word.definedMethod?

/-- The names that code declares, of those that are asked for, in order. -/
def declaredNames (name? : Entity → Option String) (code : Code) : List String :=
  code.filterMap (Word.declaredName? name?)

variable (name? : Entity → Option String)

/-- No code declares no names. -/
@[simp] theorem declaredNames_nil : declaredNames name? [] = [] := rfl

/-- The name that a word declares stands in front of the others. -/
@[simp] theorem declaredNames_cons (word : Word) (rest : Code) :
    declaredNames name? (word :: rest) = (word.declaredName? name?).toList ++ declaredNames name? rest := by
  simp only [declaredNames, List.filterMap_cons]
  cases word.declaredName? name? <;> rfl

/-- Two pieces declare the names of both. -/
@[simp] theorem declaredNames_append (first second : Code) :
    declaredNames name? (first ++ second) = declaredNames name? first ++ declaredNames name? second :=
  List.filterMap_append

/-- The pieces of items declare the names of each. -/
@[simp] theorem declaredNames_flatMap {α : Type} (items : List α) (code : α → Code) :
    declaredNames name? (items.flatMap code) = items.flatMap fun item => declaredNames name? (code item) :=
  List.filterMap_flatMap

/-- Items that have nothing of a kind have nothing together. -/
theorem flatMap_nothing {α β : Type} (items : List α) : (items.flatMap fun _ => ([] : List β)) = [] :=
  List.flatMap_eq_nil_iff.mpr fun _ _ => rfl

/-- The names of several items are distinct when those of each item are and no two items share one. -/
theorem nodup_names_iff {α : Type} {names : α → List String} {items : List α} (distinct : items.Nodup) :
    (items.flatMap names).Nodup ↔ (∀ item ∈ items, (names item).Nodup) ∧
      ∀ item ∈ items, ∀ other ∈ items, item ≠ other → (names item).Disjoint (names other) := by
  -- Two items share a name or not in whatever order they come.
  have symmetric : Std.Symm (Function.onFun List.Disjoint names) :=
    ⟨fun _ _ disjoint => disjoint.symm⟩
  rw [List.nodup_flatMap, ← distinct.pairwise_coe]
  exact and_congr_right' ⟨fun pairs item member other among => pairs member among,
    fun pairs item member other among => pairs item member other among⟩

/-- The piece of each item stands among the pieces of all of them. -/
theorem infix_flatMap {α : Type} {items : List α} {item : α} (member : item ∈ items)
    (code : α → Code) : code item <:+: items.flatMap code := by
  rw [List.flatMap_def]
  exact List.infix_of_mem_flatten (List.mem_map_of_mem member)

/-- Code declares an entity. -/
def Declares (code : Code) (entity : Entity) : Prop := .declared entity ∈ code

/-- Code defines or uses an entity, which must be declared for that. -/
def Needs (code : Code) (entity : Entity) : Prop := .defined entity ∈ code ∨ .used entity ∈ code

end Code

/-! ### Names of generated code -/

/-- The name of a class in generated code. -/
def className (layout : LayoutClass) : String := layout.qualifiedName?.getD ""

/-- The parameters of a function that fills a buffer. -/
def bufferParameter : String := "QVector<uint8_t> &outRef"

/-- The type of a field, when an integer type has its size. -/
def dataType (field : LayoutField) : String := (field.width?.map Width.typeName).getD ""

/-- The field is a single byte. -/
def isByte (field : LayoutField) : Bool := field.width?.any fun width => width.bits == 8

/-- The constant that holds the position of a field. -/
def positionOf (owner : String) (field : LayoutField) : Entity :=
  .constant owner (field.name ++ "Pos")

/-- The constant that holds the size of a field. -/
def sizeOf (owner : String) (field : LayoutField) : Entity := .constant owner (field.name ++ "Size")

/-- The function that tells whether a message has a field. -/
def testOf (owner : String) (field : LayoutField) : Entity :=
  .method owner ("exist" ++ Text.capitalizeFirst field.name) ⟨"bool", "void"⟩

/-- The function that takes a field from a message. -/
def getterOf (owner : String) (field : LayoutField) (signature : Signature) : Entity :=
  .method owner ("get" ++ Text.capitalizeFirst field.name) signature

/-- The enumerator of a service. -/
def serviceEnumerator (service : Service) : Entity := .enumerator "ServEnum" service.name

/-- The names and values of the enumerators of a sub-function: a range has two. -/
def valuesOf (item : SubFunction) : List (String × Nat) :=
  if item.isRange then [(item.name ++ "Start", item.start), (item.name ++ "End", item.stop)]
  else [(item.name, item.start)]

/-- An enumerator of a service's sub-functions. -/
def subEnumerator (service : Service) (name : String) : Entity :=
  .enumerator ("ServSub" ++ Text.capitalizeFirst service.name) name

/-- The variable of a service. -/
def serviceVariable (service : Service) : Entity :=
  .variable "Serv" ("serv" ++ Text.capitalizeFirst service.name)

/-- The variable of the table of a service's sub-functions. -/
def tableVariable (service : Service) : Entity :=
  .variable "QVector<const ServSub *>" ("serv" ++ Text.capitalizeFirst service.name ++ "Sub")

/-- The variable of a sub-function. -/
def subVariable (service : Service) (item : SubFunction) : Entity :=
  .variable "ServSub"
    ("serv" ++ Text.capitalizeFirst service.name ++ "Sub" ++ Text.capitalizeFirst item.name)

/-- The variable of the table of services. -/
def servicesVariable : Entity := .variable "QMap<ServEnum, const Serv *>" "serv"

/-- A service with a sub-function is one that has some. -/
theorem hasSubFunctions_of_mem {service : Service} {item : SubFunction}
    (member : item ∈ service.subFunctions.items) : service.hasSubFunctions = true := by
  simp [Service.hasSubFunctions, List.ne_nil_of_mem member]

/-- A service without sub-functions has none in its list. -/
theorem items_eq_nil_of_not_hasSubFunctions {service : Service}
    (none : ¬ service.hasSubFunctions = true) : service.subFunctions.items = [] := by
  simpa [Service.hasSubFunctions] using none

/-! ### Declarations -/

/-- The text in front of the enumerators of services. -/
def headerStart : String :=
  "#ifndef UDS_DEF_H\n#define UDS_DEF_H\n\n" ++
    "#include <QMap>\n#include <QString>\n#include <QVector>\n\n" ++
      "namespace UdsDef \x7b\n\tenum class ServEnum \x7b"

/-- The classes of services and sub-functions. -/
def fixedClasses : String :=
  "\n\tclass ServSub \x7b\n\tpublic:" ++
    "\n\t\tServSub(\n\t\t\tuint8_t id,\n\t\t\tconst QString &shortName," ++
    "\n\t\t\tconst QString &detail\n\t\t);" ++
    "\n\t\tServSub(\n\t\t\tuint8_t idStart,\n\t\t\tuint8_t idEnd," ++
    "\n\t\t\tconst QString &shortName,\n\t\t\tconst QString &detail\n\t\t);" ++
    "\n\t\tbool isThis(uint8_t id) const;" ++
    "\n\t\tconst uint8_t idStart;\n\t\tconst uint8_t idEnd;\n\t\tconst QString shortName;" ++
    "\n\t\tconst QString detail;\n\t\tconst bool isRange;\n\t\x7d;\n" ++
  "\n\tclass Serv \x7b\n\tpublic:" ++
    "\n\t\tServ(\n\t\t\tServEnum id,\n\t\t\tconst QString &shortName," ++
    "\n\t\t\tconst QVector<const ServSub *> *sub\n\t\t);" ++
    "\n\t\tconst ServEnum id;\n\t\tconst QString shortName;" ++
    "\n\t\tconst QVector<const ServSub *> *sub;\n\t\x7d;\n\n"

/-- The line of an enumerator of services. -/
def enumeratorLine (service : Service) : Code :=
  [.plain "\n\t\t", .declared (serviceEnumerator service),
    .plain (" = " ++ Numeral.hexLiteral service.code ++ ", // " ++ service.shortName)]

/-- The lines of the enumerators of a sub-function. -/
def subEnumeratorLines (service : Service) (item : SubFunction) : Code :=
  (valuesOf item).flatMap fun (name, value) =>
    [.plain "\n\t\t", .declared (subEnumerator service name),
      .plain (" = " ++ Numeral.hexLiteral value ++ ", // " ++ item.displayName)]

/-- The enumeration of a service's sub-functions, if it has any. -/
def subEnumeration (service : Service) : Code :=
  if service.hasSubFunctions then
    List.flatten [
      [.plain ("\n\tenum class ServSub" ++ Text.capitalizeFirst service.name ++ " \x7b")],
      service.subFunctions.items.flatMap (subEnumeratorLines service),
      [.plain "\n\t\x7d;\n"]]
  else []

/-- The declared signature of a getter: a value when an integer type has the size, else a buffer. -/
def declaredSignature (field : LayoutField) : Signature :=
  if field.width?.isSome then ⟨dataType field, "void"⟩ else ⟨"void", bufferParameter⟩

/-- The lines of a field's functions. -/
def methodLines (owner : String) (field : LayoutField) : Code :=
  [.plain "\n\t\t", .declared (testOf owner field), .plain ";\n\t\t",
    .declared (getterOf owner field (declaredSignature field)), .plain ";"]

/-- The line of a field's position. -/
def positionLine (owner : String) (field : LayoutField) : Code :=
  [.plain "\n\t\t", .declared (positionOf owner field),
    .plain (" = " ++ toString field.byteIndex ++ ";")]

/-- The line of a field's size, if it is known. -/
def sizeLine (owner : String) (field : LayoutField) : Code :=
  match field.size with
  | some size =>
    [.plain "\n\t\t", .declared (sizeOf owner field), .plain (" = " ++ toString size ++ ";")]
  | none => []

/-- The declaration of a class of fields. -/
def classDeclaration (layout : LayoutClass) : Code :=
  let name := className layout
  List.flatten [
    [.plain ("\n\tclass " ++ name ++ " \x7b\n\tpublic:\n\t\t" ++ name ++
      "(const QVector<uint8_t> &packetRef);")],
    layout.items.flatMap (methodLines name),
    layout.items.flatMap (positionLine name),
    layout.items.flatMap (sizeLine name),
    [.plain "\n\t\tconst QVector<uint8_t> packet;\n\t\x7d;\n"]]

/-- The line of a variable. -/
def variableLine (entity : Entity) : Code := [.plain "\n\t", .declared entity, .plain ";"]

/-- The lines of the variables of a service's sub-functions, if it has any. -/
def subVariableLines (service : Service) : Code :=
  if service.hasSubFunctions then
    List.flatten [
      service.subFunctions.items.flatMap fun item => variableLine (subVariable service item),
      [.plain "\n"]]
  else []

/-- The declarations of a catalog. -/
def headerCode (catalog : Catalog) : Code :=
  let services := catalog.services.items
  List.flatten [
    [.plain headerStart],
    services.flatMap enumeratorLine,
    [.plain "\n\t\x7d;\n\n"],
    services.flatMap subEnumeration,
    catalog.classes.flatMap classDeclaration,
    [.plain fixedClasses],
    services.flatMap subVariableLines,
    services.flatMap fun service => variableLine (tableVariable service),
    [.plain "\n\n"],
    services.flatMap fun service => variableLine (serviceVariable service),
    [.plain "\n\n\t", .declared servicesVariable, .plain ";\n\x7d\n\n#endif // UDS_DEF_H\n"]]

/-! ### Definitions -/

/-- The constructors and the functions of the classes of services and sub-functions. -/
def sourceStart : String :=
  "#include \"uds_def.h\"\n\nnamespace UdsDef \x7b" ++
  "\n\tServSub::ServSub(\n\t\tuint8_t id,\n\t\tconst QString &shortName," ++
    "\n\t\tconst QString &detail\n\t) :" ++
    "\n\t\tidStart(id),\n\t\tidEnd(id),\n\t\tshortName(shortName),\n\t\tdetail(detail)," ++
    "\n\t\tisRange(false)\n\t\x7b\n\t\x7d\n" ++
  "\n\tServSub::ServSub(\n\t\tuint8_t idStart,\n\t\tuint8_t idEnd," ++
    "\n\t\tconst QString &shortName,\n\t\tconst QString &detail\n\t) :" ++
    "\n\t\tidStart(idStart),\n\t\tidEnd(idEnd)," ++
    "\n\t\tshortName(shortName),\n\t\tdetail(detail),\n\t\tisRange(true)\n\t\x7b\n\t\x7d\n" ++
  "\n\tbool ServSub::isThis(uint8_t id) const\n\t\x7b" ++
    "\n\t\tif(id >= this->idStart && id <= this->idEnd) \x7b\n\t\t\treturn true;\n\t\t\x7d" ++
    "\n\t\treturn false;\n\t\x7d\n" ++
  "\n\tServ::Serv(\n\t\tServEnum id,\n\t\tconst QString &shortName," ++
    "\n\t\tconst QVector<const ServSub *> *sub\n\t) :\n\t\tid(id),\n\t\tshortName(shortName)," ++
    "\n\t\tsub(sub)\n\t\x7b\n\t\x7d\n"

/-- The function that tells whether a message reaches to the end of a field, or into it when its
size is not known. -/
def testDefinition (owner : String) (field : LayoutField) : Code :=
  List.flatten [
    [.plain "\n\t", .defined (testOf owner field), .plain "\n\t\x7b\n\t\treturn packet.length() "],
    if field.sizeKnown then
      [.plain ">= (", .used (positionOf owner field), .plain " + ", .used (sizeOf owner field),
        .plain ")"]
    else [.plain "> ", .used (positionOf owner field)],
    [.plain ";\n\t\x7d\n"]]

/-- The function that takes a field from a message: a byte, an integer, so many bytes, or all that
are left. -/
def getterDefinition (owner : String) (field : LayoutField) : Code :=
  if isByte field then
    [.plain "\n\t", .defined (getterOf owner field ⟨"uint8_t", "void"⟩),
      .plain "\n\t\x7b\n\t\treturn packet[", .used (positionOf owner field), .plain "];\n\t\x7d\n"]
  else if field.width?.isSome then
    [.plain "\n\t", .defined (getterOf owner field ⟨dataType field, "void"⟩),
      .plain ("\n\t\x7b\n\t\t" ++ dataType field ++ " ret = 0;\n\t\tfor(int i = 0; i < "),
      .used (sizeOf owner field), .plain "; ++i) \x7b\n\t\t\t((uint8_t *)&ret)[i] = packet[",
      .used (positionOf owner field), .plain " + i];\n\t\t\x7d\n\t\treturn ret;\n\t\x7d\n"]
  else if field.sizeKnown then
    [.plain "\n\t", .defined (getterOf owner field ⟨"void", bufferParameter⟩),
      .plain "\n\t\x7b\n\t\toutRef.clear();\n\t\tfor(int i = 0; i < ",
      .used (sizeOf owner field), .plain "; ++i) \x7b\n\t\t\toutRef.append(packet[",
      .used (positionOf owner field), .plain " + i]);\n\t\t\x7d\n\t\x7d\n"]
  else
    [.plain "\n\t", .defined (getterOf owner field ⟨"void", bufferParameter⟩),
      .plain "\n\t\x7b\n\t\toutRef.clear();\n\t\tint outSize = packet.length() - ",
      .used (positionOf owner field),
      .plain ";\n\t\tfor(int i = 0; i < outSize; ++i) \x7b\n\t\t\toutRef.append(packet[",
      .used (positionOf owner field), .plain " + i]);\n\t\t\x7d\n\t\x7d\n"]

/-- The functions of a field. -/
def fieldDefinition (owner : String) (field : LayoutField) : Code :=
  testDefinition owner field ++ getterDefinition owner field

/-- The definitions of a class of fields. -/
def classDefinition (layout : LayoutClass) : Code :=
  let name := className layout
  .plain ("\n\t" ++ name ++ "::" ++ name ++
      "(const QVector<uint8_t> &packetRef) :\n\t\tpacket(packetRef)\n\t\x7b\n\t\x7d\n") ::
    layout.items.flatMap (fieldDefinition name)

/-- The definition of a sub-function. -/
def subDefinition (service : Service) (item : SubFunction) : Code :=
  List.flatten [
    [.plain "\n\t", .defined (subVariable service item), .plain " ("],
    (valuesOf item).flatMap fun (name, _) =>
      [.plain "\n\t\tstatic_cast<uint8_t>(", .used (subEnumerator service name),
        .plain ("), // " ++ item.displayName)],
    [.plain ("\n\t\t\"" ++ item.displayName ++ "\",\n\t\t\"" ++ item.detail ++ "\"\n\t);")]]

/-- The definitions of a service's sub-functions. -/
def subDefinitions (service : Service) : Code :=
  List.flatten [service.subFunctions.items.flatMap (subDefinition service), [.plain "\n"]]

/-- The entry of a sub-function in the table of its service. -/
def tableEntry (service : Service) (item : SubFunction) : Code :=
  [.plain "\n\t\t&", .used (subVariable service item), .plain ","]

/-- The definition of the table of a service's sub-functions. -/
def tableDefinition (service : Service) : Code :=
  List.flatten [
    [.plain "\n\t", .defined (tableVariable service), .plain " = \x7b"],
    service.subFunctions.items.flatMap (tableEntry service),
    [.plain "\n\t\x7d;\n"]]

/-- The definition of a service. -/
def serviceDefinition (service : Service) : Code :=
  [.plain "\n\t", .defined (serviceVariable service), .plain "(",
    .used (serviceEnumerator service), .plain (", \"" ++ service.shortName ++ "\", &"),
    .used (tableVariable service), .plain ");"]

/-- The entry of a service in the table of services. -/
def serviceEntry (service : Service) : Code :=
  [.plain "\n\t\t\x7b", .used (serviceEnumerator service), .plain ", &",
    .used (serviceVariable service), .plain "\x7d,"]

/-- The definitions of a catalog. -/
def sourceCode (catalog : Catalog) : Code :=
  let services := catalog.services.items
  List.flatten [
    [.plain sourceStart],
    catalog.classes.flatMap classDefinition,
    [.plain "\n"],
    services.flatMap subDefinitions,
    services.flatMap tableDefinition,
    services.flatMap serviceDefinition,
    [.plain "\n\n\t", .defined servicesVariable, .plain " = \x7b"],
    services.flatMap serviceEntry,
    [.plain "\n\t\x7d;\n\x7d\n"]]

end UdsCatalog.Generation

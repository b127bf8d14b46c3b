import UdsCatalog.Catalog.Basic
import UdsCatalog.Failure

/-!
What templates see of a catalog. Names with a capital letter, literals and type names are computed
here, so that templates only choose and place them.
-/

namespace UdsCatalog.Generation

/-- A natural number as a value. -/
def count (n : Nat) : Json := .int n

/-- A value, or nothing. -/
def optional (value : Option Json) : Json := value.getD .null

/-- A sub-function as templates see it. -/
def subFunctionView (item : SubFunction) : Json :=
  .object
    [("capitalized_name", .text (Text.capitalizeFirst item.name)),
      ("detail", .text item.detail),
      ("hex_end", count item.stop),
      ("hex_end_literal", .text (Numeral.hexLiteral item.stop)),
      ("hex_end_raw", .text item.endText),
      ("hex_start", count item.start),
      ("hex_start_literal", .text (Numeral.hexLiteral item.start)),
      ("hex_start_raw", .text item.startText),
      ("is_range", .bool item.isRange),
      ("mnemonic", .text item.mnemonic),
      -- The name that readers see is the short one, the name in code is the one from the scope.
      ("name", .text item.displayName),
      ("programmer_name", .text item.name)]

/-- A service as templates see it. -/
def serviceView (service : Service) : Json :=
  .object
    [("capitalized_name", .text (Text.capitalizeFirst service.name)),
      ("default_session", .text service.defaultSession),
      ("has_sub_functions", .bool service.hasSubFunctions),
      ("hex_code", count service.code),
      ("hex_code_literal", .text (Numeral.hexLiteral service.code)),
      -- The raw text is what the table says, the literal is written anew from the number.
      ("hex_code_raw", .text service.hexText),
      ("non_default_session", .text service.nonDefaultSession),
      ("programmer_name", .text service.name),
      ("short_name", .text service.shortName),
      ("sub_functions", .array (service.subFunctions.items.map subFunctionView))]

/-- A field of a message as templates see it. The type name is empty when no type has its size. -/
def fieldView (field : LayoutField) : Json :=
  -- Everything about the integer type comes from one width, so the entries cannot contradict.
  let width := field.width?
  .object
    [("bits", optional (width.map fun w => count w.bits)),
      ("byte_index", count field.byteIndex),
      ("capitalized_name", .text (Text.capitalizeFirst field.name)),
      ("data_type", .text ((width.map Width.typeName).getD "")),
      ("detail", .text field.detail),
      ("direction", .text field.direction.tag),
      ("is_byte", .bool (width.any fun w => w.bits == 8)),
      -- A single byte has a width too, so a byte field is of standard size as well.
      ("is_standard_size", .bool width.isSome),
      ("programmer_name", .text field.name),
      ("size", optional (field.size.map Json.int)),
      ("size_known", .bool field.sizeKnown),
      ("size_raw", .text field.sizeText)]

/-- A class of fields as templates see it; a class without fields has no name to show. -/
def classView (layout : LayoutClass) : Except Failure Json :=
  match layout.qualifiedName? with
  -- Nothing else can fail on the way to the context.
  | none => .error (.emptyClass layout.name)
  | some qualifiedName =>
    .ok (.object
      [("class_name", .text layout.name),
        ("items", .array (layout.items.map fieldView)),
        ("qualified_name", .text qualifiedName)])

/-- Several classes as templates see them. -/
def classViews : List LayoutClass → Except Failure (List Json)
  | [] => .ok []
  | layout :: rest => do
    -- The first class without fields is the one that is told.
    let view ← classView layout
    return view :: (← classViews rest)

/-- The values that templates are given. -/
def context (catalog : Catalog) : Except Failure (List (String × Json)) := do
  -- The names of the two values are fixed, as templates refer to them.
  let classes ← classViews catalog.classes
  return [("req_resp_classes", .array classes),
    ("services", .array (catalog.services.items.map serviceView))]

end UdsCatalog.Generation

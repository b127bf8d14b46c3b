import UdsCatalog.Schema.Address
import UdsCatalog.Schema.Basic
import UdsCatalog.Schema.Pattern.Reader

/-!
Schemas from documents. A document is first held against the rules for schemas themselves; its first
fault is the reason of refusal. Keywords take effect in the order of their names, unknown ones none. A
count must also be written as an integer, which is seen when the keyword takes effect.
-/

namespace UdsCatalog.Schema

/-- Keywords that must hold a text and demand nothing. -/
def textKeywords : List String :=
  ["$comment", "$id", "contentEncoding", "contentMediaType", "description", "format", "title"]

/-- Keywords that hold a count. -/
def countKeywords : List String := ["maxItems", "maxLength", "minItems", "minLength"]

/-- Keywords that hold a number. -/
def numberKeywords : List String := ["maximum", "minimum"]

/-- A fault of a schema: a value in it, and what is wrong with it. -/
abbrev Defect := Json × Complaint

/-- The wording of a defect. -/
def defectReason (defect : Defect) : String := defect.2.message defect.1

/-- A value must have one of the types. -/
def typeDefect? (wanted : List ValueType) (value : Json) : Option Defect :=
  if wanted.any (·.holds value) then none else some (value, .wrongType wanted)

/-- A value must be a count: a number must not be negative, and it must be an integer. -/
def countDefect? (value : Json) : Option Defect :=
  match value with
  | .number number =>
    -- A negative fraction is told to be negative, for that is looked at first.
    if compareNumbers number (.int 0) == .lt then some (value, .tooSmall (.int 0))
    else typeDefect? [.integer] value
  | _ => typeDefect? [.integer] value

/-- Some item of a list equals a later one. -/
def hasRepeats : List Json → Bool
  | [] => false
  -- Numbers of one value repeat each other, however they are written.
  | item :: rest => rest.any item.equal || hasRepeats rest

/-- A value must be a list of texts without repetition. -/
def namesDefect? (value : Json) : Option Defect :=
  match value with
  | .array items =>
    match items.findSome? (typeDefect? [.text]) with
    | some defect => some defect
    -- Repetition only matters when every item is a text.
    | none => if hasRepeats items then some (value, .repeated) else none
  | _ => typeDefect? [.array] value

/-- The name of a type. -/
def typeOf? : Json → Option ValueType
  | .text name => ValueType.ofName? name
  | _ => none

/-- A value must name a type or list several. -/
def typesDefect? (value : Json) : Option Defect :=
  match value with
  | .array items =>
    if items.isEmpty || hasRepeats items || items.any (fun item => (typeOf? item).isNone) then
      -- A type may be one name or a list. The complaint does not say which of both it was to be.
      some (value, .noneOfSeveral)
    else none
  | _ => if (typeOf? value).isNone then some (value, .noneOfSeveral) else none

/-- A value must be the text of a pattern. -/
def patternDefect? (value : Json) : Option Defect :=
  match value with
  | .text source => if (Pattern.ofText? source).isNone then some (value, .notFormatted "regex") else none
  | _ => typeDefect? [.text] value

/-- A value must be the text of an address. -/
def addressDefect? (value : Json) : Option Defect :=
  match value with
  | .text text => if isAddress text then none else some (value, .notFormatted "uri")
  | _ => typeDefect? [.text] value

mutual

/-- The first fault of a document as a schema. -/
def defect? : Json → Option Defect
  | .bool _ => none
  | .object fields => fieldsDefect? fields
  -- Everything but a truth value and an object is refused, a list of schemas too.
  | other => some (other, .wrongType [.boolean, .object])

/-- The first fault of the keywords of a schema. -/
def fieldsDefect? : List (String × Json) → Option Defect
  | [] => none
  | (keyword, value) :: rest =>
    match keywordDefect? keyword value with
    | some defect => some defect
    | none => fieldsDefect? rest

/-- The fault of what a keyword holds. -/
def keywordDefect? (keyword : String) : Json → Option Defect
  | .object fields =>
    if keyword == "properties" then valuesDefect? fields
    else if keyword == "additionalProperties" then fieldsDefect? fields
    -- A fault deep inside is not told here, since a list of schemas would have been right as well.
    else if keyword == "items" then
      (fieldsDefect? fields).map fun _ => (.object fields, .noneOfSeveral)
    else flatDefect? keyword (.object fields)
  | .array items =>
    if keyword == "additionalProperties" then some (.array items, .wrongType [.boolean, .object])
    else if keyword == "items" then
      -- A row of schemas may not be empty.
      if items.isEmpty || (itemsDefect? items).isSome then some (.array items, .noneOfSeveral) else none
    else flatDefect? keyword (.array items)
  | other =>
    if keyword == "additionalProperties" then typeDefect? [.boolean, .object] other
    else if keyword == "items" then
      (typeDefect? [.boolean, .object] other).map fun _ => (other, .noneOfSeveral)
    else flatDefect? keyword other
where
  /-- The fault of what a keyword holds that has no schemas inside. -/
  flatDefect? (keyword : String) (value : Json) : Option Defect :=
    if keyword == "properties" then typeDefect? [.object] value
    else if keyword == "type" then typesDefect? value
    else if keyword == "required" then namesDefect? value
    else if keyword == "enum" then typeDefect? [.array] value
    else if keyword == "pattern" then patternDefect? value
    else if keyword == "$schema" then addressDefect? value
    else if countKeywords.contains keyword then countDefect? value
    else if numberKeywords.contains keyword then typeDefect? [.number] value
    else if textKeywords.contains keyword then typeDefect? [.text] value
    else none

/-- The first fault among schemas under names. -/
def valuesDefect? : List (String × Json) → Option Defect
  | [] => none
  | (_, value) :: rest =>
    match defect? value with
    | some defect => some defect
    | none => valuesDefect? rest

/-- The first fault among schemas in a row. -/
def itemsDefect? : List Json → Option Defect
  | [] => none
  | value :: rest =>
    match defect? value with
    | some defect => some defect
    | none => itemsDefect? rest

end

/-- The count that a value holds. Numbers with a point, or beyond 64 bits, are no counts. -/
def countOf (value : Json) : Except Defect Nat :=
  match value with
  -- A float passed the rules for schemas if it is integral, and is refused only now.
  | .number (.int count) => .ok count.toNat
  | _ => .error (value, .wrongType [.integer])

/-- The texts in a list. -/
def namesOf : Json → List String
  | .array items => items.filterMap fun | .text name => some name | _ => none
  | _ => []

/-- The types that a value names, in the order of messages. -/
def typesOf (value : Json) : List ValueType :=
  let named := match value with
    | .array items => items.filterMap typeOf?
    | other => (typeOf? other).toList
  -- The order of the schema is lost, and so is every repetition.
  ValueType.all.filter named.contains

/-- The schema of a keyword that has no schemas inside; none for unknown ones. -/
def flatRule? (keyword : String) (value : Json) : Except Defect (Option Schema) :=
  if keyword == "type" then .ok (some (.types (typesOf value)))
  else if keyword == "required" then .ok (some (.required (namesOf value)))
  else if keyword == "const" then .ok (some (.constant value))
  else if keyword == "enum" then
    .ok (some (.among (match value with | .array options => options | _ => [])))
  else if keyword == "pattern" then
    -- Every pattern was read once before. Here the reading cannot fail any more.
    .ok (match value with
      | .text source => (Pattern.ofText? source).map (.matching source)
      | _ => none)
  else if keyword == "minItems" then (countOf value).map fun count => some (.minItems count)
  else if keyword == "maxItems" then (countOf value).map fun count => some (.maxItems count)
  else if keyword == "minLength" then (countOf value).map fun count => some (.minLength count)
  else if keyword == "maxLength" then (countOf value).map fun count => some (.maxLength count)
  else
    .ok (match value with
      | .number limit =>
        if keyword == "minimum" then some (.minimum limit)
        else if keyword == "maximum" then some (.maximum limit)
        -- A keyword without effect leaves no rule behind.
        else none
      | _ => none)

/-- Other fields than the known ones are restricted, so that known and other fields are checked
together. -/
def restrictsOthers (fields : List (String × Json)) : Bool :=
  match fields.lookup "additionalProperties" with
  -- A true value restricts nothing, so known fields then keep their own rule.
  | some (.bool false) | some (.object _) => true
  | _ => false

mutual

/-- The schema of a document that follows the rules for schemas. -/
def ofSound : Json → Except Defect Schema
  | .bool allowed => .ok (.always allowed)
  | .object fields => do
    return .all (← rulesOf (knownOf fields) (restrictsOthers fields) fields)
  | _ => .ok (.always true)

/-- The known fields with their schemas, if any are named. -/
def knownOf : List (String × Json) → Except Defect (Option (List (String × Schema)))
  | [] => .ok none
  | (keyword, value) :: rest =>
    if keyword == "properties" then
      match value with
      | .object fields => (schemasOf fields).map some
      | _ => .ok none
    -- The fields are needed for a keyword that comes before them in the order of names.
    else knownOf rest

/-- The schemas under names. -/
def schemasOf : List (String × Json) → Except Defect (List (String × Schema))
  | [] => .ok []
  | (name, value) :: rest => do
    let schema ← ofSound value
    return (name, schema) :: (← schemasOf rest)

/-- The schemas in a row. -/
def schemaListOf : List Json → Except Defect (List Schema)
  | [] => .ok []
  | value :: rest => do
    let schema ← ofSound value
    return schema :: (← schemaListOf rest)

/-- The schemas of the keywords of a schema, in order. -/
def rulesOf (known : Except Defect (Option (List (String × Schema)))) (restricted : Bool) :
    List (String × Json) → Except Defect (List Schema)
  | [] => .ok []
  | (keyword, value) :: rest => do
    let rules ← ruleOf known restricted keyword value
    -- The rules stand as the keywords do, and so do the violations of a value.
    return rules ++ (← rulesOf known restricted rest)

/-- The schemas of one keyword. -/
def ruleOf (known : Except Defect (Option (List (String × Schema)))) (restricted : Bool)
    (keyword : String) (value : Json) : Except Defect (List Schema) :=
  if keyword == "additionalProperties" then
    match value with
    -- Without known fields every field is one too many.
    | .bool false => known.map fun known => [known.elim .noProperties .onlyProperties]
    | .object fields => do
      let known ← known
      let others ← rulesOf (knownOf fields) (restrictsOthers fields) fields
      return [.propertiesOr (known.getD []) (.all others)]
    | _ => .ok []
  else if keyword == "properties" then
    -- The rule of the other keyword has checked the known fields already.
    if restricted then .ok [] else known.map fun known => [.properties (known.getD [])]
  else if keyword == "items" then
    match value with
    | .array items => (schemaListOf items).map fun each => [.leadingItems each]
    -- A schema for everything is no rule.
    | .bool true => .ok []
    | other => (ofSound other).map fun each => [.eachItem each]
  else (flatRule? keyword value).map Option.toList

end

/-- Reads a schema from a document; a document that is no schema is refused with its first fault. -/
def ofJson (document : Json) : Except Defect Schema :=
  match defect? document with
  | some defect => .error defect
  -- What is left to go wrong is a count that is written as a float.
  | none => ofSound document

/-- A way to hold documents against schemas. It compiles a schema from a document, or refuses the document
with a reason, and tells what other documents do against what it has compiled. -/
structure Validator where
  Compiled : Type
  compile : Json → Except String Compiled
  violations : Compiled → Json → List Violation

/-- The validator of the keywords that are read here. -/
abbrev Validator.standard : Validator where
  Compiled := Schema
  compile document := (ofJson document).mapError defectReason
  violations := Schema.violations

end UdsCatalog.Schema

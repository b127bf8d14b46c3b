import UdsCatalog.Proofs.Generation.PlainTemplates

/-! The two built-in templates print the code of every catalog whose classes have fields. -/

namespace UdsCatalog.Generation

open Template (Plain Sight Way textOf? textOfArms? joinEach follow? printed?)

namespace Code

/-- No code has no text. -/
@[simp] theorem text_nil : text [] = "" := rfl

/-- The text of a word stands in front of that of the others. -/
@[simp] theorem text_cons (word : Word) (rest : Code) :
    text (word :: rest) = word.text ++ text rest := by
  rw [text, List.map_cons, String.join_cons, text]

/-- The texts of two pieces of code stand one behind the other. -/
@[simp] theorem text_append (first second : Code) :
    text (first ++ second) = text first ++ text second := by
  rw [text, List.map_append, String.join_append, text, text]

end Code

/-- What templates see of a class that has fields. -/
def classObject (layout : LayoutClass) : Json :=
  .object
    [("class_name", .text layout.name),
      ("items", .array (layout.items.map fieldView)),
      ("qualified_name", .text (className layout))]

/-- The values that templates are given when all classes have fields. -/
def values (catalog : Catalog) : List (String × Json) :=
  [("req_resp_classes", .array (catalog.classes.map classObject)),
    ("services", .array (catalog.services.items.map serviceView))]

/-- A class with fields has a name to show. -/
theorem classView_eq {layout : LayoutClass} (filled : layout.items ≠ []) :
    classView layout = .ok (classObject layout) := by
  -- Only the missing name of an empty class could stand in the way.
  obtain ⟨first, rest, items⟩ := List.exists_cons_of_ne_nil filled
  simp [classView, classObject, className, LayoutClass.qualifiedName?, items]

/-- Classes with fields have names to show. -/
theorem classViews_eq {classes : List LayoutClass}
    (filled : ∀ layout ∈ classes, layout.items ≠ []) :
    classViews classes = .ok (classes.map classObject) := by
  -- Classes are shown one after the other, and none of them stands in the way.
  induction classes with
  | nil => rfl
  | cons layout rest ih =>
    obtain ⟨head, tail⟩ := List.forall_mem_cons.mp filled
    simp [classViews, classView_eq head, ih tail, Bind.bind, Except.bind, Pure.pure, Except.pure]

/-- The context of a catalog whose classes have fields. -/
theorem context_eq {catalog : Catalog} (filled : ∀ layout ∈ catalog.classes, layout.items ≠ []) :
    context catalog = .ok (values catalog) := by
  simp [context, values, classViews_eq filled, Bind.bind, Except.bind, Pure.pure, Except.pure]

/-- A loop prints the code of all items when its body prints that of each. -/
theorem joinEach_map {α : Type} {view : α → Json} {text? : Json → Option String} {code : α → Code}
    (prints : ∀ item, text? (view item) = some (code item).text) (items : List α) :
    joinEach text? (items.map view) = some (Code.text (items.flatMap code)) := by
  -- The first item prints its code in front of that of the others.
  induction items with
  | nil => rfl
  | cons item rest ih => simp [joinEach, prints, ih]

/-- With the given items in sight, nodes print the text of some code. -/
def Prints (bound given : List (String × Json)) (nodes : List Plain) (code : Code) : Prop :=
  textOf? ⟨bound, given⟩ nodes = some code.text

/-- Texts are compared by their characters. -/
theorem prints_iff {bound given : List (String × Json)} {nodes : List Plain} {code : Code} :
    Prints bound given nodes code ↔
      (textOf? ⟨bound, given⟩ nodes).map String.toList = some code.text.toList := by
  -- Texts are the same when their characters are, and both sides have a text or none.
  rw [Prints]
  cases textOf? ⟨bound, given⟩ nodes <;> simp [String.toList_inj]

variable {bound given : List (String × Json)} {body : List Plain}

/-- Nodes one behind the other print the code of each. -/
theorem Prints.append {first second : List Plain} {head tail : Code}
    (prints : Prints bound given first head) (printsTail : Prints bound given second tail) :
    Prints bound given (first ++ second) (head ++ tail) := by
  -- Both parts print, so the whole prints both texts.
  rw [Prints] at prints printsTail ⊢
  rw [Template.textOf?_append, prints, printsTail, Code.text_append]
  rfl

/-- A loop over the sub-functions of the service in sight prints the code of all of them. -/
theorem text?_eachSub {service : Service} {code : SubFunction → Code}
    (prints : ∀ item, Prints [("sub", subFunctionView item), ("serv", serviceView service)] given
      body (code item)) :
    (eachSub body).text? ⟨[("serv", serviceView service)], given⟩ =
      some (Code.text (service.subFunctions.items.flatMap code)) := by
  have found : Sight.value? ⟨[("serv", serviceView service)], given⟩ (serv "sub_functions") =
      some (.array (service.subFunctions.items.map subFunctionView)) := by
    simp [serv, serviceView]
  rw [eachSub, Plain.text?, found]
  exact joinEach_map prints _

/-- A loop over the fields of the class in sight prints the code of all of them. -/
theorem text?_eachItem {layout : LayoutClass} {code : LayoutField → Code}
    (prints : ∀ field, Prints [("item", fieldView field), ("class", classObject layout)] given
      body (code field)) :
    (eachItem body).text? ⟨[("class", classObject layout)], given⟩ =
      some (Code.text (layout.items.flatMap code)) := by
  have found : Sight.value? ⟨[("class", classObject layout)], given⟩ (cls "items") =
      some (.array (layout.items.map fieldView)) := by
    simp [cls, classObject]
  rw [eachItem, Plain.text?, found]
  exact joinEach_map prints _

/-- A loop over all services prints the code of each. -/
theorem text?_eachService {catalog : Catalog} {code : Service → Code}
    (prints : ∀ service, Prints [("serv", serviceView service)] (values catalog) body
      (code service)) :
    (eachService body).text? ⟨[], values catalog⟩ =
      some (Code.text (catalog.services.items.flatMap code)) := by
  have found : Sight.value? ⟨[], values catalog⟩ ⟨"services", none⟩ =
      some (.array (catalog.services.items.map serviceView)) := by
    simp [values]
  rw [eachService, Plain.text?, found]
  exact joinEach_map prints _

/-- A loop over all classes prints the code of each. -/
theorem text?_eachClass {catalog : Catalog} {code : LayoutClass → Code}
    (prints : ∀ layout, Prints [("class", classObject layout)] (values catalog) body
      (code layout)) :
    (eachClass body).text? ⟨[], values catalog⟩ =
      some (Code.text (catalog.classes.flatMap code)) := by
  have found : Sight.value? ⟨[], values catalog⟩ ⟨"req_resp_classes", none⟩ =
      some (.array (catalog.classes.map classObject)) := by
    simp [values]
  rw [eachClass, Plain.text?, found]
  exact joinEach_map prints _

/-! ### Declarations -/

/-- The line of an enumerator of services. -/
theorem prints_enumerator (service : Service) :
    Prints [("serv", serviceView service)] given enumeratorNodes (enumeratorLine service) := by
  simp [prints_iff, enumeratorNodes, serv, serviceView, enumeratorLine, serviceEnumerator]

/-- The lines of the enumerators of a sub-function: a range has two. -/
theorem prints_subEnumerator (service : Service) (item : SubFunction) :
    Prints [("sub", subFunctionView item), ("serv", serviceView service)] given subEnumeratorNodes
      (subEnumeratorLines service item) := by
  cases range : item.isRange <;>
    simp [prints_iff, subEnumeratorNodes, ifElse, valueNodes, sub, subFunctionView, range,
      subEnumeratorLines, valuesOf, subEnumerator]

/-- The enumeration of a service's sub-functions. -/
theorem prints_subEnumeration (service : Service) :
    Prints [("serv", serviceView service)] given subEnumerationNodes (subEnumeration service) := by
  -- The loop is resolved first; what is left is text around it, or nothing at all.
  rw [prints_iff, subEnumerationNodes, ifElse]
  simp only [textOf?, Plain.text?, textOfArms?, text?_eachSub (prints_subEnumerator service)]
  cases filled : service.hasSubFunctions <;>
    simp [serv, serviceView, filled, subEnumeration]

/-- The lines of a field's functions. -/
theorem prints_method (layout : LayoutClass) (field : LayoutField) :
    Prints [("item", fieldView field), ("class", classObject layout)] given methodNodes
      (methodLines (className layout) field) := by
  cases width : field.width? <;>
    simp [prints_iff, methodNodes, ifElse, item, fieldView, width, methodLines, testOf, getterOf,
      declaredSignature, dataType, bufferParameter]

/-- The line of a field's position. -/
theorem prints_position (layout : LayoutClass) (field : LayoutField) :
    Prints [("item", fieldView field), ("class", classObject layout)] given positionNodes
      (positionLine (className layout) field) := by
  -- A position is printed as an integer, which is written as the number that it is.
  have natural : (field.byteIndex : Int).repr = field.byteIndex.repr := rfl
  simp [prints_iff, positionNodes, item, fieldView, count, Json.int, positionLine, positionOf,
    natural]

/-- The line of a field's size. -/
theorem prints_size (layout : LayoutClass) (field : LayoutField) :
    Prints [("item", fieldView field), ("class", classObject layout)] given sizeNodes
      (sizeLine (className layout) field) := by
  cases size : field.size <;>
    simp [prints_iff, sizeNodes, ifElse, item, fieldView, LayoutField.sizeKnown, size, optional,
      Json.int, sizeLine, sizeOf]

/-- The declaration of a class. -/
theorem prints_classDeclaration (layout : LayoutClass) :
    Prints [("class", classObject layout)] given classDeclarationNodes
      (classDeclaration layout) := by
  -- The three loops over the fields are resolved first; what is left is text around them.
  rw [prints_iff, classDeclarationNodes]
  simp only [textOf?, Plain.text?, text?_eachItem (prints_method layout),
    text?_eachItem (prints_position layout), text?_eachItem (prints_size layout)]
  simp [cls, classObject, classDeclaration]

/-- The line of the variable of a sub-function. -/
theorem prints_subVariable (service : Service) (item : SubFunction) :
    Prints [("sub", subFunctionView item), ("serv", serviceView service)] given subVariableNodes
      (variableLine (subVariable service item)) := by
  simp [prints_iff, subVariableNodes, sub, serv, subFunctionView, serviceView, variableLine,
    subVariable]

/-- The lines of the variables of a service's sub-functions. -/
theorem prints_subVariables (service : Service) :
    Prints [("serv", serviceView service)] given subVariablesNodes (subVariableLines service) := by
  -- The loop is resolved first; what is left is the line behind it, or nothing at all.
  rw [prints_iff, subVariablesNodes, ifElse]
  simp only [textOf?, Plain.text?, textOfArms?, text?_eachSub (prints_subVariable service)]
  cases filled : service.hasSubFunctions <;>
    simp [serv, serviceView, filled, subVariableLines]

/-- The line of the table of a service's sub-functions. -/
theorem prints_tableVariable (service : Service) :
    Prints [("serv", serviceView service)] given tableVariableNodes
      (variableLine (tableVariable service)) := by
  simp [prints_iff, tableVariableNodes, serv, serviceView, variableLine, tableVariable]

/-- The line of the variable of a service. -/
theorem prints_serviceVariable (service : Service) :
    Prints [("serv", serviceView service)] given serviceVariableNodes
      (variableLine (serviceVariable service)) := by
  simp [prints_iff, serviceVariableNodes, serv, serviceView, variableLine, serviceVariable]

/-- The template for declarations prints the declarations of the catalog. -/
theorem prints_header (catalog : Catalog) :
    Prints [] (values catalog) headerNodes (headerCode catalog) := by
  -- All loops are resolved by the lemmas above, and the texts between them are the same.
  rw [prints_iff, headerNodes]
  simp only [textOf?, Plain.text?, text?_eachService prints_enumerator,
    text?_eachService prints_subEnumeration, text?_eachClass prints_classDeclaration,
    text?_eachService prints_subVariables, text?_eachService prints_tableVariable,
    text?_eachService prints_serviceVariable]
  simp [headerCode, servicesVariable]

/-! ### Definitions -/

/-- The function that tells whether a message has a field. -/
theorem prints_test (layout : LayoutClass) (field : LayoutField) :
    Prints [("item", fieldView field), ("class", classObject layout)] given testNodes
      (testDefinition (className layout) field) := by
  cases known : field.sizeKnown <;>
    simp [prints_iff, testNodes, ifElse, item, cls, fieldView, classObject, known, testDefinition,
      testOf, positionOf, sizeOf]

/-- The getter of a field, by the arm of the chain that its size selects. -/
theorem prints_getter (layout : LayoutClass) (field : LayoutField) :
    Prints [("item", fieldView field), ("class", classObject layout)] given getterNodes
      (getterDefinition (className layout) field) := by
  -- The template asks in the same order as the definition, so each arm is one case.
  cases byte : field.width?.any fun width => width.bits == 8 with
  | true =>
    simp [prints_iff, getterNodes, byteNodes, item, cls, fieldView, classObject, byte,
      getterDefinition, isByte, getterOf, positionOf]
  | false =>
    cases standard : field.width?.isSome with
    | true =>
      simp [prints_iff, getterNodes, integerNodes, item, cls, fieldView, classObject, byte,
        standard, getterDefinition, isByte, getterOf, positionOf, sizeOf, dataType]
    | false =>
      cases known : field.sizeKnown with
      | true =>
        simp [prints_iff, getterNodes, bytesNodes, item, cls, fieldView, classObject, byte,
          standard, known, getterDefinition, isByte, getterOf, bufferParameter, positionOf, sizeOf]
      | false =>
        simp [prints_iff, getterNodes, remainderNodes, item, cls, fieldView, classObject, byte,
          standard, known, getterDefinition, isByte, getterOf, bufferParameter, positionOf]

/-- The functions of a field. -/
theorem prints_field (layout : LayoutClass) (field : LayoutField) :
    Prints [("item", fieldView field), ("class", classObject layout)] given fieldNodes
      (fieldDefinition (className layout) field) :=
  (prints_test layout field).append (prints_getter layout field)

/-- The definitions of a class. -/
theorem prints_classDefinition (layout : LayoutClass) :
    Prints [("class", classObject layout)] given classDefinitionNodes (classDefinition layout) := by
  -- The loop over the fields is resolved first; what is left is the constructor in front.
  rw [prints_iff, classDefinitionNodes]
  simp only [textOf?, Plain.text?, text?_eachItem (prints_field layout)]
  simp [cls, classObject, classDefinition]

/-- The definition of a sub-function: a range has two bounds. -/
theorem prints_subDefinition (service : Service) (item : SubFunction) :
    Prints [("sub", subFunctionView item), ("serv", serviceView service)] given subDefinitionNodes
      (subDefinition service item) := by
  cases range : item.isRange <;>
    simp [prints_iff, subDefinitionNodes, ifElse, boundNodes, sub, serv, subFunctionView,
      serviceView, range, subDefinition, valuesOf, subVariable, subEnumerator]

/-- The definitions of a service's sub-functions. -/
theorem prints_subDefinitions (service : Service) :
    Prints [("serv", serviceView service)] given subDefinitionsNodes (subDefinitions service) := by
  rw [prints_iff, subDefinitionsNodes]
  simp only [textOf?, Plain.text?, text?_eachSub (prints_subDefinition service)]
  simp [subDefinitions]

/-- The entry of a sub-function in the table of its service. -/
theorem prints_tableEntry (service : Service) (item : SubFunction) :
    Prints [("sub", subFunctionView item), ("serv", serviceView service)] given tableEntryNodes
      (tableEntry service item) := by
  simp [prints_iff, tableEntryNodes, sub, serv, subFunctionView, serviceView, tableEntry,
    subVariable]

/-- The definition of the table of a service's sub-functions. -/
theorem prints_tableDefinition (service : Service) :
    Prints [("serv", serviceView service)] given tableDefinitionNodes
      (tableDefinition service) := by
  rw [prints_iff, tableDefinitionNodes]
  simp only [textOf?, Plain.text?, text?_eachSub (prints_tableEntry service)]
  simp [serv, serviceView, tableDefinition, tableVariable]

/-- The definition of a service. -/
theorem prints_serviceDefinition (service : Service) :
    Prints [("serv", serviceView service)] given serviceDefinitionNodes
      (serviceDefinition service) := by
  simp [prints_iff, serviceDefinitionNodes, serv, serviceView, serviceDefinition, serviceVariable,
    serviceEnumerator, tableVariable]

/-- The entry of a service in the table of services. -/
theorem prints_serviceEntry (service : Service) :
    Prints [("serv", serviceView service)] given serviceEntryNodes (serviceEntry service) := by
  simp [prints_iff, serviceEntryNodes, serv, serviceView, serviceEntry, serviceEnumerator,
    serviceVariable]

/-- The template for definitions prints the definitions of the catalog. -/
theorem prints_source (catalog : Catalog) :
    Prints [] (values catalog) sourceNodes (sourceCode catalog) := by
  -- All loops are resolved by the lemmas above, and the texts between them are the same.
  rw [prints_iff, sourceNodes]
  simp only [textOf?, Plain.text?, text?_eachClass prints_classDefinition,
    text?_eachService prints_subDefinitions, text?_eachService prints_tableDefinition,
    text?_eachService prints_serviceDefinition, text?_eachService prints_serviceEntry]
  simp [sourceCode, servicesVariable]

end UdsCatalog.Generation

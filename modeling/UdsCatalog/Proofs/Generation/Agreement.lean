import UdsCatalog.Proofs.Catalog.Services
import UdsCatalog.Proofs.Catalog.Layouts
import UdsCatalog.Proofs.Generation.Sessions

/-!
The two built-in templates agree: what the definitions of a catalog define or use, its declarations
declare, and the member functions of its classes are declared as they are defined.
-/

namespace UdsCatalog.Generation

/-- The signature of a field's getter: a value when an integer type has its size, else a buffer. -/
def getterSignature (field : LayoutField) : Signature :=
  match field.width? with
  | some width => ⟨width.typeName, "void"⟩
  | none => ⟨"void", bufferParameter⟩

/-- The member functions of a field. -/
def methodsOf (owner : String) (field : LayoutField) : List Entity :=
  [testOf owner field, getterOf owner field (getterSignature field)]

/-- The member functions of all classes of a catalog. -/
def catalogMethods (catalog : Catalog) : List Entity :=
  catalog.classes.flatMap fun layout => layout.items.flatMap (methodsOf (className layout))

namespace Code

/-- No code declares nothing. -/
@[simp] theorem declaredMethods_nil : declaredMethods [] = [] := rfl

/-- The function that a word declares stands in front of the others. -/
@[simp] theorem declaredMethods_cons (word : Word) (rest : Code) :
    declaredMethods (word :: rest) = word.declaredMethod?.toList ++ declaredMethods rest := by
  simp only [declaredMethods, List.filterMap_cons]
  cases word.declaredMethod? <;> rfl

/-- Two pieces declare the member functions of both. -/
@[simp] theorem declaredMethods_append (first second : Code) :
    declaredMethods (first ++ second) = declaredMethods first ++ declaredMethods second :=
  List.filterMap_append

/-- The pieces of items declare the member functions of each. -/
@[simp] theorem declaredMethods_flatMap {α : Type} (items : List α) (code : α → Code) :
    declaredMethods (items.flatMap code) = items.flatMap fun item => declaredMethods (code item) :=
  List.filterMap_flatMap

/-- No code defines nothing. -/
@[simp] theorem definedMethods_nil : definedMethods [] = [] := rfl

/-- The function that a word defines stands in front of the others. -/
@[simp] theorem definedMethods_cons (word : Word) (rest : Code) :
    definedMethods (word :: rest) = word.definedMethod?.toList ++ definedMethods rest := by
  simp only [definedMethods, List.filterMap_cons]
  cases word.definedMethod? <;> rfl

/-- Two pieces define the member functions of both. -/
@[simp] theorem definedMethods_append (first second : Code) :
    definedMethods (first ++ second) = definedMethods first ++ definedMethods second :=
  List.filterMap_append

/-- The pieces of items define the member functions of each. -/
@[simp] theorem definedMethods_flatMap {α : Type} (items : List α) (code : α → Code) :
    definedMethods (items.flatMap code) = items.flatMap fun item => definedMethods (code item) :=
  List.filterMap_flatMap

variable {entity : Entity}

/-- No code declares nothing. -/
@[simp] theorem declares_nil : ¬ Declares [] entity := List.not_mem_nil

/-- A declaration is the first word or stands behind it. -/
@[simp] theorem declares_cons (word : Word) (rest : Code) :
    Declares (word :: rest) entity ↔ word = .declared entity ∨ Declares rest entity := by
  rw [Declares, List.mem_cons, eq_comm, Declares]

/-- A declaration stands in one of two pieces. -/
@[simp] theorem declares_append (first second : Code) :
    Declares (first ++ second) entity ↔ Declares first entity ∨ Declares second entity := by
  simp [Declares]

/-- A declaration stands in the piece of some item. -/
@[simp] theorem declares_flatMap {α : Type} (items : List α) (code : α → Code) :
    Declares (items.flatMap code) entity ↔ ∃ item ∈ items, Declares (code item) entity := by
  simp [Declares]

/-- No code needs nothing. -/
@[simp] theorem needs_nil : ¬ Needs [] entity := by
  simp [Needs]

/-- A need is one of the first word or of those behind it. -/
@[simp] theorem needs_cons (word : Word) (rest : Code) :
    Needs (word :: rest) entity ↔
      (word = .defined entity ∨ word = .used entity) ∨ Needs rest entity := by
  simp only [Needs, List.mem_cons, eq_comm]
  tauto

/-- A need is one of either piece. -/
@[simp] theorem needs_append (first second : Code) :
    Needs (first ++ second) entity ↔ Needs first entity ∨ Needs second entity := by
  simp only [Needs, List.mem_append]
  tauto

/-- A need is one of the piece of some item. -/
@[simp] theorem needs_flatMap {α : Type} (items : List α) (code : α → Code) :
    Needs (items.flatMap code) entity ↔ ∃ item ∈ items, Needs (code item) entity := by
  simp only [Needs, List.mem_flatMap, and_or_left, exists_or]

end Code

/-! ### Member functions -/

/-- The declared signature is that of the getter. -/
theorem declaredSignature_eq (field : LayoutField) :
    declaredSignature field = getterSignature field := by
  -- Both ask whether an integer type has the size.
  rw [declaredSignature, getterSignature, dataType]
  cases field.width? <;> rfl

/-- The lines of a field declare its functions. -/
theorem methodLines_methods (owner : String) (field : LayoutField) :
    Code.declaredMethods (methodLines owner field) = methodsOf owner field := by
  rw [methodLines, declaredSignature_eq]
  rfl

/-- The test of a field is defined whether its size is known or not. -/
theorem testDefinition_methods (owner : String) (field : LayoutField) :
    Code.definedMethods (testDefinition owner field) = [testOf owner field] := by
  cases known : field.sizeKnown <;>
    simp [testDefinition, known, testOf]

/-- The getter of a byte gives a byte: no other type has eight bits. -/
theorem getterSignature_of_byte {field : LayoutField} (byte : isByte field = true) :
    getterSignature field = ⟨"uint8_t", "void"⟩ := by
  -- Of the widths only that of a single byte has eight bits.
  rw [isByte] at byte
  rw [getterSignature]
  cases width : field.width? with
  | none => simp [width] at byte
  | some size => cases size <;> simp_all [Width.bits, Width.typeName]

/-- The getter of a field of a width gives an integer. -/
theorem getterSignature_of_width {field : LayoutField} (standard : field.width?.isSome = true) :
    getterSignature field = ⟨dataType field, "void"⟩ := by
  rw [← declaredSignature_eq, declaredSignature, if_pos standard]

/-- The getter of a field without a width fills a buffer. -/
theorem getterSignature_of_none {field : LayoutField} (other : ¬ field.width?.isSome = true) :
    getterSignature field = ⟨"void", bufferParameter⟩ := by
  rw [← declaredSignature_eq, declaredSignature, if_neg other]

/-- The getter of a field is defined with its signature, whichever arm of the chain is taken. -/
theorem getterDefinition_methods (owner : String) (field : LayoutField) :
    Code.definedMethods (getterDefinition owner field) =
      [getterOf owner field (getterSignature field)] := by
  -- The chain is followed arm by arm; each arm was reached by the signature of the getter.
  by_cases byte : isByte field = true
  · simp [getterDefinition, byte, getterSignature_of_byte byte, getterOf]
  · by_cases standard : field.width?.isSome = true
    · simp [getterDefinition, byte, standard, getterSignature_of_width standard, getterOf]
    · cases known : field.sizeKnown <;>
        simp [getterDefinition, byte, standard, known, getterSignature_of_none standard, getterOf]

/-- A line of a size declares no function. -/
theorem sizeLine_methods (owner : String) (field : LayoutField) :
    Code.declaredMethods (sizeLine owner field) = [] := by
  rw [sizeLine]
  cases field.size <;> rfl

/-- The declaration of a class declares the functions of its fields. -/
theorem classDeclaration_methods (layout : LayoutClass) :
    Code.declaredMethods (classDeclaration layout) =
      layout.items.flatMap (methodsOf (className layout)) := by
  -- Lines of positions and sizes declare constants only.
  simp [classDeclaration, methodLines_methods, sizeLine_methods, positionLine, positionOf]

/-- The declarations of a catalog declare the functions of the fields of all classes. -/
theorem headerCode_methods (catalog : Catalog) :
    Code.declaredMethods (headerCode catalog) = catalogMethods catalog := by
  -- Outside of the classes there are only enumerators and variables.
  have values : ∀ service item, Code.declaredMethods (subEnumeratorLines service item) = [] := by
    intro service item
    simp [subEnumeratorLines, subEnumerator]
  have enumeration : ∀ service, Code.declaredMethods (subEnumeration service) = [] := by
    intro service
    cases filled : service.hasSubFunctions <;> simp [subEnumeration, filled, values]
  have variableLines : ∀ service, Code.declaredMethods (subVariableLines service) = [] := by
    intro service
    cases filled : service.hasSubFunctions <;>
      simp [subVariableLines, filled, variableLine, subVariable]
  simp [Code.flatMap_nothing, headerCode, classDeclaration_methods, enumeration, variableLines, enumeratorLine,
    serviceEnumerator, variableLine, tableVariable, serviceVariable, servicesVariable,
    catalogMethods]

/-- The definitions of a catalog define the same functions. -/
theorem sourceCode_methods (catalog : Catalog) :
    Code.definedMethods (sourceCode catalog) = catalogMethods catalog := by
  -- Each field has its two functions, and nothing outside of the classes is a function.
  have field : ∀ owner item,
      Code.definedMethods (fieldDefinition owner item) = methodsOf owner item := by
    intro owner item
    simp [fieldDefinition, testDefinition_methods, getterDefinition_methods, methodsOf]
  simp [sourceCode, classDefinition, field, subDefinitions, subDefinition, subVariable,
    tableDefinition, tableVariable, tableEntry, serviceDefinition, serviceVariable, serviceEntry,
    servicesVariable, catalogMethods]

/-! ### Other entities -/

/-- A field of a width has a size. -/
theorem size_of_width {field : LayoutField} (standard : field.width?.isSome = true) :
    field.size.isSome = true := by
  rw [LayoutField.width?] at standard
  cases size : field.size with
  | none => simp [size] at standard
  | some _ => rfl

/-- The test of a field needs the size only when it is known. -/
theorem needs_test {owner : String} {field : LayoutField} {entity : Entity}
    (needed : Code.Needs (testDefinition owner field) entity) :
    entity = testOf owner field ∨ entity = positionOf owner field ∨
      entity = sizeOf owner field ∧ field.size.isSome = true := by
  -- The two arms differ in that only one of them mentions the size.
  cases known : field.sizeKnown
  · have parts : entity = testOf owner field ∨ entity = positionOf owner field := by
      simpa [testDefinition, known, eq_comm] using needed
    tauto
  · have parts : entity = testOf owner field ∨ entity = positionOf owner field ∨
        entity = sizeOf owner field := by
      simpa [testDefinition, known, eq_comm] using needed
    rw [LayoutField.sizeKnown] at known
    tauto

/-- The getter of a field needs the size only when it is known, and that is so when a type has the
size. -/
theorem needs_getter {owner : String} {field : LayoutField} {entity : Entity}
    (needed : Code.Needs (getterDefinition owner field) entity) :
    entity = getterOf owner field (getterSignature field) ∨ entity = positionOf owner field ∨
      entity = sizeOf owner field ∧ field.size.isSome = true := by
  -- The arms of a byte and of the bytes that are left do not mention the size.
  by_cases byte : isByte field = true
  · rw [getterSignature_of_byte byte]
    have parts : entity = getterOf owner field ⟨"uint8_t", "void"⟩ ∨
        entity = positionOf owner field := by
      simpa [getterDefinition, byte, eq_comm] using needed
    tauto
  · by_cases standard : field.width?.isSome = true
    · rw [getterSignature_of_width standard]
      have parts : entity = getterOf owner field ⟨dataType field, "void"⟩ ∨
          entity = sizeOf owner field ∨ entity = positionOf owner field := by
        simpa [getterDefinition, byte, standard, eq_comm] using needed
      have known := size_of_width standard
      tauto
    · rw [getterSignature_of_none standard]
      -- A buffer is copied by its size where this is known, and to the end otherwise.
      cases known : field.sizeKnown
      · have parts : entity = getterOf owner field ⟨"void", bufferParameter⟩ ∨
            entity = positionOf owner field := by
          simpa [getterDefinition, byte, standard, known, eq_comm] using needed
        tauto
      · have parts : entity = getterOf owner field ⟨"void", bufferParameter⟩ ∨
            entity = sizeOf owner field ∨ entity = positionOf owner field := by
          simpa [getterDefinition, byte, standard, known, eq_comm] using needed
        rw [LayoutField.sizeKnown] at known
        tauto

/-- A class declares the functions, the positions and the sizes of its fields. -/
theorem classDeclaration_declares {layout : LayoutClass} {entity : Entity} :
    Code.Declares (classDeclaration layout) entity ↔ ∃ field ∈ layout.items,
      Code.Declares (methodLines (className layout) field) entity ∨
      Code.Declares (positionLine (className layout) field) entity ∨
      Code.Declares (sizeLine (className layout) field) entity := by
  -- The three loops go over the same fields.
  simp only [classDeclaration, List.flatten_cons, List.flatten_nil, Code.declares_append,
    Code.declares_flatMap, Code.declares_cons, Code.declares_nil, reduceCtorEq, false_or, or_false,
    and_or_left, exists_or]

/-- The declaration of a class declares all that the functions of its fields need. -/
theorem declares_of_needs_class {layout : LayoutClass} {entity : Entity}
    (needed : Code.Needs (classDefinition layout) entity) :
    Code.Declares (classDeclaration layout) entity := by
  obtain ⟨field, member, needed⟩ : ∃ field ∈ layout.items,
      Code.Needs (fieldDefinition (className layout) field) entity := by
    simpa [classDefinition] using needed
  -- A class declares the three lines of each field, and a fourth for its size.
  have test : Code.Declares (classDeclaration layout) (testOf (className layout) field) :=
    classDeclaration_declares.mpr ⟨field, member, .inl (by simp [methodLines])⟩
  have getter : Code.Declares (classDeclaration layout)
      (getterOf (className layout) field (getterSignature field)) :=
    classDeclaration_declares.mpr
      ⟨field, member, .inl (by simp [methodLines, declaredSignature_eq])⟩
  have position : Code.Declares (classDeclaration layout) (positionOf (className layout) field) :=
    classDeclaration_declares.mpr ⟨field, member, .inr (.inl (by simp [positionLine]))⟩
  have size : field.size.isSome = true →
      Code.Declares (classDeclaration layout) (sizeOf (className layout) field) := by
    -- The line of a size is there exactly when the size is known.
    intro known
    obtain ⟨size, known⟩ := Option.isSome_iff_exists.mp known
    exact classDeclaration_declares.mpr
      ⟨field, member, .inr (.inr (by simp [sizeLine, known]))⟩
  rw [fieldDefinition, Code.needs_append] at needed
  rcases needed with needed | needed
  · rcases needs_test needed with rfl | rfl | ⟨rfl, known⟩
    exacts [test, position, size known]
  · rcases needs_getter needed with rfl | rfl | ⟨rfl, known⟩
    exacts [getter, position, size known]

/-- The names of a sub-function's values are enumerators of its service. -/
theorem declares_subEnumerator {service : Service} {item : SubFunction}
    (member : item ∈ service.subFunctions.items) {value : String × Nat}
    (listed : value ∈ valuesOf item) :
    Code.Declares (subEnumeration service) (subEnumerator service value.1) := by
  -- A service with a sub-function is not one of those whose enumeration is left out.
  have filled : service.hasSubFunctions = true := hasSubFunctions_of_mem member
  simp only [subEnumeration, filled, if_true, List.flatten_cons, Code.declares_append,
    Code.declares_flatMap]
  refine .inr (.inl ⟨item, member, ?_⟩)
  rw [subEnumeratorLines, Code.declares_flatMap]
  exact ⟨value, listed, by simp⟩

/-- The variable of a sub-function is declared. -/
theorem declares_subVariable {service : Service} {item : SubFunction}
    (member : item ∈ service.subFunctions.items) :
    Code.Declares (subVariableLines service) (subVariable service item) := by
  -- A service with a sub-function is not one of those whose lines are left out.
  have filled : service.hasSubFunctions = true := hasSubFunctions_of_mem member
  simp only [subVariableLines, filled, if_true, List.flatten_cons, Code.declares_append,
    Code.declares_flatMap]
  exact .inl ⟨item, member, by simp [variableLine]⟩

/-- A catalog declares what its classes and its services declare, and the table of services. -/
theorem headerCode_declares {catalog : Catalog} {entity : Entity} :
    Code.Declares (headerCode catalog) entity ↔
      (∃ layout ∈ catalog.classes, Code.Declares (classDeclaration layout) entity) ∨
      (∃ service ∈ catalog.services.items, entity = serviceEnumerator service ∨
        Code.Declares (subEnumeration service) entity ∨
        Code.Declares (subVariableLines service) entity ∨
        entity = tableVariable service ∨ entity = serviceVariable service) ∨
      entity = servicesVariable := by
  -- The parts of the declarations are sorted by what they range over.
  simp only [headerCode, List.flatten_cons, List.flatten_nil, Code.declares_append,
    Code.declares_flatMap, Code.declares_cons, Code.declares_nil, enumeratorLine, variableLine,
    Word.declared.injEq, reduceCtorEq, false_or, or_false, and_or_left, exists_or, eq_comm]
  exact Iff.of_eq (by ac_rfl)

/-- What the definitions of a catalog need, its declarations declare. -/
theorem declares_of_needs {catalog : Catalog} {entity : Entity}
    (needed : Code.Needs (sourceCode catalog) entity) :
    Code.Declares (headerCode catalog) entity := by
  rw [headerCode_declares]
  simp only [sourceCode, List.flatten_cons, List.flatten_nil, Code.needs_append, Code.needs_flatMap,
    Code.needs_cons, Code.needs_nil, subDefinitions, subDefinition, tableDefinition, tableEntry,
    serviceDefinition, serviceEntry, reduceCtorEq, Word.defined.injEq, Word.used.injEq, false_or,
    or_false] at needed
  -- The parts in order: classes, sub-functions, their tables, services, and the table of these.
  rcases needed with ⟨layout, member, needed⟩ |
    ⟨service, member, item, listed, rfl | ⟨value, valued, rfl⟩⟩ |
    ⟨service, member, rfl | ⟨item, listed, rfl⟩⟩ |
    ⟨service, member, rfl | rfl | rfl⟩ | rfl | ⟨service, member, rfl | rfl⟩
  · exact .inl ⟨layout, member, declares_of_needs_class needed⟩
  · exact .inr (.inl ⟨service, member, by simp [declares_subVariable listed]⟩)
  · exact .inr (.inl ⟨service, member, by simp [declares_subEnumerator listed valued]⟩)
  · exact .inr (.inl ⟨service, member, by simp⟩)
  · exact .inr (.inl ⟨service, member, by simp [declares_subVariable listed]⟩)
  · exact .inr (.inl ⟨service, member, by simp⟩)
  · exact .inr (.inl ⟨service, member, by simp⟩)
  · exact .inr (.inl ⟨service, member, by simp⟩)
  · exact .inr (.inr rfl)
  · exact .inr (.inl ⟨service, member, by simp⟩)
  · exact .inr (.inl ⟨service, member, by simp⟩)

/-! ### Agreement of the built-in templates -/

/-- For every catalog that is built, the two built-in templates render code in which the member
functions are declared as they are defined, field by field, and every entity that the definitions
define or use is declared. -/
theorem built_templates_agree {definitions : Definitions} {catalog : Catalog}
    (built : Catalog.build definitions = .ok catalog) (tree : Files.Tree) :
    let withHeader := Session.fresh.addFixed tree .builtIn headerName
    let withSource := withHeader.2.addFixed tree .builtIn sourceName
    (withHeader.1 = .ok () ∧
      withHeader.2.render headerName catalog = .ok (headerCode catalog).text) ∧
    (withSource.1 = .ok () ∧
      withSource.2.render sourceName catalog = .ok (sourceCode catalog).text) ∧
    Code.declaredMethods (headerCode catalog) = catalogMethods catalog ∧
    Code.definedMethods (sourceCode catalog) = catalogMethods catalog ∧
    ∀ entity, Code.Needs (sourceCode catalog) entity →
      Code.Declares (headerCode catalog) entity := by
  -- Built classes have fields, so both templates print; the rest is about the code alone.
  intro withHeader withSource
  have filled : ∀ layout ∈ catalog.classes, layout.items ≠ [] :=
    LayoutClass.items_ne_nil (Catalog.build_eq_ok_iff.mp built).2
  -- The two templates are added one after the other, and each addition is computed once.
  have header : withHeader = (.ok (), headerSession) := addFixed_header tree
  have source : withSource = (.ok (), pairSession) := addFixed_source_of_fresh tree
  rw [header, source]
  exact ⟨⟨rfl, render_header filled⟩, ⟨rfl, render_source filled⟩, headerCode_methods catalog,
    sourceCode_methods catalog, fun _ => declares_of_needs⟩

/-- Definitions of a service with a range, a service without sub-functions, and fields of a byte, of
an integer, of three bytes and of unknown size. -/
def mixed : Definitions where
  services := ⟨⟨"serv.json"⟩, [⟨"a", "", "10", "", ""⟩, ⟨"b", "", "11", "", ""⟩]⟩
  subFunctions := ⟨⟨"serv_sub.json"⟩,
    [⟨"a", "x", "01to05", "", "", ""⟩, ⟨"a", "y", "06", "", "", ""⟩]⟩
  layouts := ⟨⟨"req_resp.json"⟩,
    [⟨"c", "p", "Req", 1, "1", none⟩, ⟨"c", "q", "Req", 2, "4", none⟩,
      ⟨"c", "r", "Req", 6, "3", none⟩, ⟨"c", "s", "Req", 9, "", none⟩]⟩

/-- The size of the integer, the end of the range, and the table of the service without
sub-functions are used, so they are declared. -/
theorem built_templates_agree_mixed : ∃ catalog, Catalog.build mixed = .ok catalog ∧
    Code.Declares (headerCode catalog) (.constant "cReq" "qSize") ∧
    Code.Declares (headerCode catalog) (.enumerator "ServSubA" "xEnd") ∧
    Code.Declares (headerCode catalog) (.variable "QVector<const ServSub *>" "servBSub") ∧
    Code.definedMethods (sourceCode catalog) = Code.declaredMethods (headerCode catalog) := by
  -- The three uses stand in the definitions, and by the theorem their entities are declared.
  have shown : (Catalog.build mixed).toOption.map (fun catalog =>
      [Word.used (.constant "cReq" "qSize"), .used (.enumerator "ServSubA" "xEnd"),
        .defined (.variable "QVector<const ServSub *>" "servBSub")].all
          (sourceCode catalog).contains) = some true := by decide
  cases built : Catalog.build mixed with
  | error rejection => simp [built, Except.toOption] at shown
  | ok catalog =>
    obtain ⟨-, -, declared, defined, agree⟩ := built_templates_agree built .empty
    rw [built] at shown
    simp only [Except.toOption, Option.map_some, Option.some.injEq, List.all_cons, List.all_nil,
      Bool.and_true, Bool.and_eq_true, List.contains_iff_mem] at shown
    obtain ⟨size, stop, table⟩ := shown
    exact ⟨catalog, rfl, agree _ (.inr size), agree _ (.inr stop), agree _ (.inl table),
      defined.trans declared.symm⟩

end UdsCatalog.Generation

import UdsCatalog.Generation.BuiltIn
import UdsCatalog.Proofs.Generation.Code
import UdsCatalog.Proofs.Template.PlainText

/-! The two built-in templates as plain nodes, and the proof that their texts are read as these. -/

namespace UdsCatalog.Generation

open Template (Way Plain IsPlain readsAs)

/-- A field of the service of the loop around. -/
def serv (key : String) : Way := ⟨"serv", some key⟩

/-- A field of the sub-function of the loop around. -/
def sub (key : String) : Way := ⟨"sub", some key⟩

/-- A field of the class of the loop around. -/
def cls (key : String) : Way := ⟨"class", some key⟩

/-- A field of the layout field of the loop around. -/
def item (key : String) : Way := ⟨"item", some key⟩

/-- A loop over all services. -/
def eachService (body : List Plain) : Plain := .each "serv" ⟨"services", none⟩ body

/-- A loop over the sub-functions of a service. -/
def eachSub (body : List Plain) : Plain := .each "sub" (serv "sub_functions") body

/-- A loop over all classes. -/
def eachClass (body : List Plain) : Plain := .each "class" ⟨"req_resp_classes", none⟩ body

/-- A loop over the fields of a class. -/
def eachItem (body : List Plain) : Plain := .each "item" (cls "items") body

/-- A choice between two bodies. -/
def ifElse (way : Way) (body otherwise : List Plain) : Plain := .choose [(way, body)] otherwise

/-! ### Declarations -/

/-- Prints the line of an enumerator of services. -/
def enumeratorNodes : List Plain :=
  [.text "\n\t\t", .put (serv "programmer_name"), .text " = ", .put (serv "hex_code_literal"),
    .text ", // ", .put (serv "short_name")]

/-- Prints the line of an enumerator of a sub-function. -/
def valueNodes (suffix literal : String) : List Plain :=
  [.text "\n\t\t", .put (sub "programmer_name"), .text (suffix ++ " = "), .put (sub literal),
    .text ", // ", .put (sub "name")]

/-- Prints the lines of the enumerators of a sub-function. -/
def subEnumeratorNodes : List Plain :=
  [ifElse (sub "is_range")
    (valueNodes "Start" "hex_start_literal" ++ valueNodes "End" "hex_end_literal")
    (valueNodes "" "hex_start_literal")]

/-- Prints the enumeration of a service's sub-functions. -/
def subEnumerationNodes : List Plain :=
  [ifElse (serv "has_sub_functions")
    [.text "\n\tenum class ServSub", .put (serv "capitalized_name"), .text " \x7b",
      eachSub subEnumeratorNodes, .text "\n\t\x7d;\n"]
    []]

/-- Prints the lines of a field's functions. -/
def methodNodes : List Plain :=
  [.text "\n\t\tbool exist", .put (item "capitalized_name"), .text "(void) const;",
    ifElse (item "is_standard_size")
      [.text "\n\t\t", .put (item "data_type"), .text " get", .put (item "capitalized_name"),
        .text "(void) const;"]
      [.text "\n\t\tvoid get", .put (item "capitalized_name"),
        .text "(QVector<uint8_t> &outRef) const;"]]

/-- Prints the line of a field's position. -/
def positionNodes : List Plain :=
  [.text "\n\t\tconst uint8_t ", .put (item "programmer_name"), .text "Pos = ",
    .put (item "byte_index"), .text ";"]

/-- Prints the line of a field's size. -/
def sizeNodes : List Plain :=
  [ifElse (item "size_known")
    [.text "\n\t\tconst uint8_t ", .put (item "programmer_name"), .text "Size = ",
      .put (item "size"), .text ";"]
    []]

/-- Prints the declaration of a class. -/
def classDeclarationNodes : List Plain :=
  [.text "\n\tclass ", .put (cls "qualified_name"), .text " \x7b\n\tpublic:\n\t\t",
    .put (cls "qualified_name"), .text "(const QVector<uint8_t> &packetRef);",
    eachItem methodNodes, eachItem positionNodes, eachItem sizeNodes,
    .text "\n\t\tconst QVector<uint8_t> packet;\n\t\x7d;\n"]

/-- Prints the line of the variable of a sub-function. -/
def subVariableNodes : List Plain :=
  [.text "\n\textern const ServSub serv", .put (serv "capitalized_name"), .text "Sub",
    .put (sub "capitalized_name"), .text ";"]

/-- Prints the lines of the variables of a service's sub-functions. -/
def subVariablesNodes : List Plain :=
  [ifElse (serv "has_sub_functions") [eachSub subVariableNodes, .text "\n"] []]

/-- Prints the line of the table of a service's sub-functions. -/
def tableVariableNodes : List Plain :=
  [.text "\n\textern const QVector<const ServSub *> serv", .put (serv "capitalized_name"),
    .text "Sub;"]

/-- Prints the line of the variable of a service. -/
def serviceVariableNodes : List Plain :=
  [.text "\n\textern const Serv serv", .put (serv "capitalized_name"), .text ";"]

/-- The template for declarations. -/
def headerNodes : List Plain :=
  [.text headerStart, eachService enumeratorNodes, .text "\n\t\x7d;\n\n",
    eachService subEnumerationNodes, eachClass classDeclarationNodes, .text fixedClasses,
    eachService subVariablesNodes, eachService tableVariableNodes, .text "\n\n",
    eachService serviceVariableNodes,
    .text "\n\n\textern const QMap<ServEnum, const Serv *> serv;\n\x7d\n\n#endif // UDS_DEF_H\n"]

/-! ### Definitions -/

/-- Prints the function that tells whether a message has a field. -/
def testNodes : List Plain :=
  [.text "\n\tbool ", .put (cls "qualified_name"), .text "::exist", .put (item "capitalized_name"),
    .text "(void) const\n\t\x7b",
    ifElse (item "size_known")
      [.text "\n\t\treturn packet.length() >= (", .put (item "programmer_name"), .text "Pos + ",
        .put (item "programmer_name"), .text "Size);"]
      [.text "\n\t\treturn packet.length() > ", .put (item "programmer_name"), .text "Pos;"],
    .text "\n\t\x7d\n"]

/-- Prints the getter of a byte. -/
def byteNodes : List Plain :=
  [.text "\n\tuint8_t ", .put (cls "qualified_name"), .text "::get", .put (item "capitalized_name"),
    .text "(void) const\n\t\x7b\n\t\treturn packet[", .put (item "programmer_name"),
    .text "Pos];\n\t\x7d\n"]

/-- Prints the getter of an integer. -/
def integerNodes : List Plain :=
  [.text "\n\t", .put (item "data_type"), .text " ", .put (cls "qualified_name"), .text "::get",
    .put (item "capitalized_name"), .text "(void) const\n\t\x7b\n\t\t", .put (item "data_type"),
    .text " ret = 0;\n\t\tfor(int i = 0; i < ", .put (item "programmer_name"),
    .text "Size; ++i) \x7b\n\t\t\t((uint8_t *)&ret)[i] = packet[", .put (item "programmer_name"),
    .text "Pos + i];\n\t\t\x7d\n\t\treturn ret;\n\t\x7d\n"]

/-- Prints the getter of so many bytes. -/
def bytesNodes : List Plain :=
  [.text "\n\tvoid ", .put (cls "qualified_name"), .text "::get", .put (item "capitalized_name"),
    .text "(QVector<uint8_t> &outRef) const\n\t\x7b\n\t\toutRef.clear();\n\t\tfor(int i = 0; i < ",
    .put (item "programmer_name"), .text "Size; ++i) \x7b\n\t\t\toutRef.append(packet[",
    .put (item "programmer_name"), .text "Pos + i]);\n\t\t\x7d\n\t\x7d\n"]

/-- Prints the getter of all bytes that are left. -/
def remainderNodes : List Plain :=
  [.text "\n\tvoid ", .put (cls "qualified_name"), .text "::get", .put (item "capitalized_name"),
    .text ("(QVector<uint8_t> &outRef) const\n\t\x7b\n\t\toutRef.clear();" ++
      "\n\t\tint outSize = packet.length() - "),
    .put (item "programmer_name"),
    .text "Pos;\n\t\tfor(int i = 0; i < outSize; ++i) \x7b\n\t\t\toutRef.append(packet[",
    .put (item "programmer_name"), .text "Pos + i]);\n\t\t\x7d\n\t\x7d\n"]

/-- Prints the getter of a field. -/
def getterNodes : List Plain :=
  [.choose [(item "is_byte", byteNodes), (item "is_standard_size", integerNodes),
      (item "size_known", bytesNodes)]
    remainderNodes]

/-- Prints the functions of a field. -/
def fieldNodes : List Plain := testNodes ++ getterNodes

/-- Prints the definitions of a class. -/
def classDefinitionNodes : List Plain :=
  [.text "\n\t", .put (cls "qualified_name"), .text "::", .put (cls "qualified_name"),
    .text "(const QVector<uint8_t> &packetRef) :\n\t\tpacket(packetRef)\n\t\x7b\n\t\x7d\n",
    eachItem fieldNodes]

/-- Prints a bound of a sub-function. -/
def boundNodes (suffix : String) : List Plain :=
  [.text "\n\t\tstatic_cast<uint8_t>(ServSub", .put (serv "capitalized_name"), .text "::",
    .put (sub "programmer_name"), .text (suffix ++ "), // "), .put (sub "name")]

/-- Prints the definition of a sub-function. -/
def subDefinitionNodes : List Plain :=
  [.text "\n\tconst ServSub serv", .put (serv "capitalized_name"), .text "Sub",
    .put (sub "capitalized_name"), .text " (",
    ifElse (sub "is_range") (boundNodes "Start" ++ boundNodes "End") (boundNodes ""),
    .text "\n\t\t\"", .put (sub "name"), .text "\",\n\t\t\"", .put (sub "detail"),
    .text "\"\n\t);"]

/-- Prints the definitions of a service's sub-functions. -/
def subDefinitionsNodes : List Plain := [eachSub subDefinitionNodes, .text "\n"]

/-- Prints the entry of a sub-function in the table of its service. -/
def tableEntryNodes : List Plain :=
  [.text "\n\t\t&serv", .put (serv "capitalized_name"), .text "Sub",
    .put (sub "capitalized_name"), .text ","]

/-- Prints the definition of the table of a service's sub-functions. -/
def tableDefinitionNodes : List Plain :=
  [.text "\n\tconst QVector<const ServSub *> serv", .put (serv "capitalized_name"),
    .text "Sub = \x7b", eachSub tableEntryNodes, .text "\n\t\x7d;\n"]

/-- Prints the definition of a service. -/
def serviceDefinitionNodes : List Plain :=
  [.text "\n\tconst Serv serv", .put (serv "capitalized_name"), .text "(ServEnum::",
    .put (serv "programmer_name"), .text ", \"", .put (serv "short_name"), .text "\", &serv",
    .put (serv "capitalized_name"), .text "Sub);"]

/-- Prints the entry of a service in the table of services. -/
def serviceEntryNodes : List Plain :=
  [.text "\n\t\t\x7bServEnum::", .put (serv "programmer_name"), .text ", &serv",
    .put (serv "capitalized_name"), .text "\x7d,"]

/-- The template for definitions. -/
def sourceNodes : List Plain :=
  [.text sourceStart, eachClass classDefinitionNodes, .text "\n",
    eachService subDefinitionsNodes, eachService tableDefinitionNodes,
    eachService serviceDefinitionNodes,
    .text "\n\n\tconst QMap<ServEnum, const Serv *> serv = \x7b", eachService serviceEntryNodes,
    .text "\n\t\x7d;\n\x7d\n"]

/-! ### Reading -/

/-- The characters of lines are those of each line and a line feed behind it. -/
theorem toList_textOfLines {lines : List String} {codes : List (List Char)}
    (same : List.Forall₂ (fun line chars => line = String.ofList chars) lines codes) :
    (textOfLines lines).toList = codes.flatMap (· ++ ['\n']) := by
  -- Lines are joined one by one, and each one brings its line feed.
  induction same with
  | nil => rfl
  | cons head _ ih =>
    rw [textOfLines] at ih ⊢
    simp [head, ih]

/-- Lines are a plain template when their characters are read as its nodes, one text being known. -/
theorem isPlain_textOfLines {nodes : List Plain} {lines : List String} (long : String)
    (read : ∃ chars codes, long = String.ofList chars ∧
      List.Forall₂ (fun line chars => line = String.ofList chars) lines codes ∧
        readsAs (long, chars) nodes (codes.flatMap (· ++ ['\n'])) = true) :
    IsPlain nodes (textOfLines lines) := by
  obtain ⟨chars, codes, right, same, read⟩ := read
  exact ⟨(long, chars), right, by rw [toList_textOfLines same, read]⟩

/-- The characters of two texts stand one behind the other. -/
theorem append_eq_ofList {first second : String} {chars others : List Char}
    (front : first = String.ofList chars) (back : second = String.ofList others) :
    first ++ second = String.ofList (chars ++ others) := by
  rw [front, back, String.ofList_append]

/-- The template for declarations is plain. -/
theorem isPlain_headerTemplate : IsPlain headerNodes headerTemplate := by
  -- The characters of each line are found by unification, and then the reader is run on them.
  apply isPlain_textOfLines fixedClasses
  -- Both witnesses are left open and fixed by the two steps that follow.
  constructor
  constructor
  refine ⟨?right, ?same, ?read⟩
  case right =>
    unfold fixedClasses
    repeat' first | apply append_eq_ofList | rfl
  case same => repeat' first | exact .nil | (apply List.Forall₂.cons; rfl)
  case read => decide +kernel

/-- The template for definitions is plain. -/
theorem isPlain_sourceTemplate : IsPlain sourceNodes sourceTemplate := by
  -- As for the other template; the long text is another one.
  apply isPlain_textOfLines sourceStart
  constructor
  constructor
  refine ⟨?right, ?same, ?read⟩
  case right =>
    unfold sourceStart
    repeat' first | apply append_eq_ofList | rfl
  case same => repeat' first | exact .nil | (apply List.Forall₂.cons; rfl)
  case read => decide +kernel

end UdsCatalog.Generation

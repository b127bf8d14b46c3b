import Mathlib
import UdsCatalog.Proofs.Definition.Writing
import UdsCatalog.Proofs.Generation.Supply
import UdsCatalog.Proofs.Text.Literal

/-!
The string literals of generated definitions: the names that services and sub-functions show, and the
details of sub-functions. Details are escaped and names are not, so all literals end where they should
exactly when no name has a double quote or a line feed.
-/

namespace UdsCatalog.Generation

open Template (IsPlain Plain Way)
open Text (IsIntact EndsAtQuote IsQuotable)

/-! ### Places between quotes -/

/-- A text ends with a double quote. -/
def endsWithQuote : Plain → Bool
  | .text text => text.toList.getLast? == some '"'
  | _ => false

/-- A text begins with a double quote. -/
def beginsWithQuote : List Plain → Bool
  | .text text :: _ => text.toList.head? == some '"'
  | _ => false

mutual

/-- The ways inside of a node that are printed between two double quotes. -/
def quotedInside : Plain → List Way
  | .text _ => []
  | .put _ => []
  | .each _ _ body => quotedWays false body
  | .choose arms otherwise => quotedInArms arms ++ quotedWays false otherwise

/-- The ways that nodes print directly between two double quotes, after a quote or not. -/
def quotedWays (opened : Bool) : List Plain → List Way
  | [] => []
  | .put way :: rest =>
    (if opened && beginsWithQuote rest then [way] else []) ++ quotedWays false rest
  | node :: rest => quotedInside node ++ quotedWays (endsWithQuote node) rest

/-- The ways that the bodies of arms print between two double quotes. -/
def quotedInArms : List (Way × List Plain) → List Way
  | [] => []
  | (_, body) :: rest => quotedWays false body ++ quotedInArms rest

end

/-- The template for definitions puts three values between double quotes. -/
theorem quotedWays_sourceNodes :
    (quotedWays false sourceNodes).map Way.text = ["sub.name", "sub.detail", "serv.short_name"] := by
  decide +kernel

/-! ### Pieces of definitions -/

/-- A piece of generated definitions: a string literal with the text inside, or what is no literal. -/
inductive Piece where
  | outside (text : String)
  | literal (text : String)
  deriving DecidableEq, Repr

namespace Piece

/-- The text of a piece. A literal stands between two double quotes. -/
@[simp] def text : Piece → String
  | .outside text => text
  | .literal text => "\"" ++ text ++ "\""

/-- The text inside of a literal. -/
@[simp] def literal? : Piece → Option String
  | .outside _ => none
  | .literal text => some text

/-- The texts of pieces one behind the other. -/
def joined (pieces : List Piece) : String := String.join (pieces.map text)

/-- No pieces have no text. -/
@[simp] theorem joined_nil : joined [] = "" := rfl

/-- The text of a piece stands in front of that of the others. -/
@[simp] theorem joined_cons (piece : Piece) (rest : List Piece) :
    joined (piece :: rest) = piece.text ++ joined rest := by
  rw [joined, List.map_cons, String.join_cons, joined]

/-- Pieces and those behind them have the texts of both. -/
@[simp] theorem joined_append (first second : List Piece) :
    joined (first ++ second) = joined first ++ joined second := by
  rw [joined, List.map_append, String.join_append, joined, joined]

/-- The code of items has the text of pieces when the code of each does. -/
theorem text_flatMap {α : Type} {code : α → Code} {pieces : α → List Piece}
    (same : ∀ item, (code item).text = joined (pieces item)) (items : List α) :
    Code.text (items.flatMap code) = joined (items.flatMap pieces) := by
  -- The first item has its text in front of that of the others.
  induction items with
  | nil => rfl
  | cons item rest ih => simp [same, ih]

end Piece

/-- The code of a sub-function's definition up to the literals. -/
def subFront (service : Service) (item : SubFunction) : Code :=
  List.flatten [
    [.plain "\n\t", .defined (subVariable service item), .plain " ("],
    (valuesOf item).flatMap fun (name, _) =>
      [.plain "\n\t\tstatic_cast<uint8_t>(", .used (subEnumerator service name),
        .plain ("), // " ++ item.displayName)],
    [.plain "\n\t\t"]]

/-- The pieces of a sub-function's definition: its name and its detail are literals. -/
def subPieces (service : Service) (item : SubFunction) : List Piece :=
  [.outside (subFront service item).text, .literal item.displayName, .outside ",\n\t\t",
    .literal item.detail, .outside "\n\t);"]

/-- The pieces of the definitions of a service's sub-functions. -/
def subsPieces (service : Service) : List Piece :=
  service.subFunctions.items.flatMap (subPieces service) ++ [.outside "\n"]

/-- The pieces of a service's definition: its name is a literal. -/
def servicePieces (service : Service) : List Piece :=
  [.outside (Code.text [.plain "\n\t", .defined (serviceVariable service), .plain "(",
      .used (serviceEnumerator service), .plain ", "]),
    .literal service.shortName,
    .outside (Code.text [.plain ", &", .used (tableVariable service), .plain ");"])]

/-- The pieces of the definitions of a catalog. -/
def sourcePieces (catalog : Catalog) : List Piece :=
  let services := catalog.services.items
  List.flatten [
    [.outside (Code.text ([.plain sourceStart] ++ catalog.classes.flatMap classDefinition ++
      [.plain "\n"]))],
    services.flatMap subsPieces,
    [.outside (Code.text (services.flatMap tableDefinition))],
    services.flatMap servicePieces,
    [.outside (Code.text ([.plain "\n\n\t", .defined servicesVariable, .plain " = \x7b"] ++
      services.flatMap serviceEntry ++ [.plain "\n\t\x7d;\n\x7d\n"]))]]

/-- The texts inside of the literals of a catalog. -/
def literalsOf (catalog : Catalog) : List String := (sourcePieces catalog).filterMap Piece.literal?

/-- The definition of a sub-function is made of its pieces. -/
theorem text_subDefinition (service : Service) (item : SubFunction) :
    (subDefinition service item).text = Piece.joined (subPieces service item) := by
  simp [subDefinition, subPieces, subFront, ← String.toList_inj]

/-- The definitions of a service's sub-functions are made of their pieces. -/
theorem text_subDefinitions (service : Service) :
    (subDefinitions service).text = Piece.joined (subsPieces service) := by
  simp [subDefinitions, subsPieces, Piece.text_flatMap (text_subDefinition service)]

/-- The definition of a service is made of its pieces. -/
theorem text_serviceDefinition (service : Service) :
    (serviceDefinition service).text = Piece.joined (servicePieces service) := by
  simp [serviceDefinition, servicePieces, ← String.toList_inj]

/-- The definitions of a catalog are made of their pieces. -/
theorem text_sourceCode (catalog : Catalog) :
    (sourceCode catalog).text = Piece.joined (sourcePieces catalog) := by
  simp [sourceCode, sourcePieces, servicesVariable, Piece.text_flatMap text_subDefinitions,
    Piece.text_flatMap text_serviceDefinition, String.append_assoc]

/-- The literals are the names and details of all sub-functions, and behind them the names of all
services. -/
theorem literalsOf_eq (catalog : Catalog) :
    literalsOf catalog =
      (catalog.services.items.flatMap fun service =>
        service.subFunctions.items.flatMap fun item => [item.displayName, item.detail]) ++
      catalog.services.items.map (·.shortName) := by
  simp [literalsOf, sourcePieces, subsPieces, subPieces, servicePieces, List.filterMap_cons,
    List.filterMap_flatMap, List.map_eq_flatMap]

/-! ### Where literals end -/

/-- The texts that become literals are written without backslashes. -/
structure LacksBackslash (definitions : Definitions) : Prop where
  services : ∀ record ∈ definitions.services.records, '\\' ∉ record.shortName.toList
  subFunctions : ∀ record ∈ definitions.subFunctions.records,
    '\\' ∉ record.shortName.toList ∧ '\\' ∉ record.details.toList

/-- The names that services show, and those of their sub-functions, may stand between quotes as they
are. -/
def NamesAreQuotable (definitions : Definitions) : Prop :=
  ∀ record ∈ definitions.services.records, IsQuotable record.shortName.toList ∧
    ∀ owned ∈ SubFunction.ownedBy record.name definitions.subFunctions,
      IsQuotable owned.shortName.toList

instance : DecidablePred NamesAreQuotable := fun definitions =>
  inferInstanceAs (Decidable (∀ record ∈ definitions.services.records,
    IsQuotable record.shortName.toList ∧
      ∀ owned ∈ SubFunction.ownedBy record.name definitions.subFunctions,
        IsQuotable owned.shortName.toList))

section

variable {good : List Char → Prop} (bare : ∀ text, '\\' ∉ text → (good text ↔ IsQuotable text))
  (escaped : ∀ text : String, '\\' ∉ text.toList → good (Text.escapeDetail text).toList)
  {definitions : Definitions} (plain : LacksBackslash definitions)

include bare escaped plain

/-- The literals of a service's sub-functions are good exactly when the names of their records are
quotable. -/
theorem forall_subFunctions_good_iff {owner : String} {collection : SubFunction.Collection}
    (collected : SubFunction.collect owner definitions.subFunctions = .ok collection) :
    (∀ owned ∈ SubFunction.ownedBy owner definitions.subFunctions,
        IsQuotable owned.shortName.toList) ↔
      ∀ item ∈ collection.items, good item.displayName.toList ∧ good item.detail.toList := by
  have lacking : ∀ owned ∈ SubFunction.ownedBy owner definitions.subFunctions,
      '\\' ∉ owned.shortName.toList ∧ '\\' ∉ owned.details.toList :=
    fun owned member => plain.subFunctions owned (List.mem_filter.mp member).1
  have each := (List.forall₂_and_left _ _).mpr ⟨lacking, SubFunction.collect_describes collected⟩
  refine forall_mem_iff_of_forall₂ ?_ each
  rintro record item ⟨⟨name, details⟩, described⟩
  -- A detail is escaped, so only the name counts.
  have detail := escaped record.details details
  rw [described.displayName, described.detail, bare _ name]
  exact (and_iff_left detail).symm

/-- All literals are good exactly when all names are quotable. -/
theorem forall_literalsOf_iff {catalog : Catalog} (built : Catalog.build definitions = .ok catalog) :
    (∀ literal ∈ literalsOf catalog, good literal.toList) ↔ NamesAreQuotable definitions := by
  have collected := (Catalog.build_eq_ok_iff.mp built).1
  have each := (List.forall₂_and_left _ _).mpr
    ⟨plain.services, Service.collect_describes collected⟩
  have services : NamesAreQuotable definitions ↔ ∀ service ∈ catalog.services.items,
      good service.shortName.toList ∧ ∀ item ∈ service.subFunctions.items,
        good item.displayName.toList ∧ good item.detail.toList := by
    refine forall_mem_iff_of_forall₂ ?_ each
    rintro record service ⟨name, described⟩
    rw [described.shortName, bare _ name,
      forall_subFunctions_good_iff bare escaped plain described.subFunctions]
  rw [services, literalsOf_eq]
  -- The literals of all sub-functions stand in front of those of all services.
  simp only [List.forall_mem_append, List.forall_mem_flatMap, List.forall_mem_map,
    List.forall_mem_cons, List.not_mem_nil, false_implies, implies_true, and_true]
  constructor
  · rintro ⟨items, names⟩ service member
    exact ⟨names service member, items service member⟩
  · intro both
    exact ⟨fun service member => (both service member).2, fun service member => (both service member).1⟩

end

/-- A catalog that is built has its definitions rendered by the template for them, which puts three
values between double quotes. The text is made of pieces, where these values are the literals. If they
are written without backslashes, all of them are intact exactly when the names may stand between quotes
as they are, and all literals end at their own quotes exactly then. -/
theorem literals_isIntact_iff {definitions : Definitions} {catalog : Catalog}
    (built : Catalog.build definitions = .ok catalog) (plain : LacksBackslash definitions)
    (files : Files.Tree) :
    let withHeader := Session.fresh.addFixed files .builtIn headerName
    let withSource := withHeader.2.addFixed files .builtIn sourceName
    withHeader.1 = .ok () ∧ withSource.1 = .ok () ∧
    (IsPlain sourceNodes sourceTemplate ∧
      (quotedWays false sourceNodes).map Way.text = ["sub.name", "sub.detail", "serv.short_name"]) ∧
    withSource.2.render sourceName catalog = .ok (Piece.joined (sourcePieces catalog)) ∧
    ((∀ literal ∈ literalsOf catalog, IsIntact literal.toList) ↔ NamesAreQuotable definitions) ∧
    ((∀ literal ∈ literalsOf catalog, EndsAtQuote literal.toList) ↔ NamesAreQuotable definitions) := by
  intro withHeader withSource
  have header : withHeader = (.ok (), headerSession) := addFixed_header files
  have source : withSource = (.ok (), pairSession) := addFixed_source_of_fresh files
  have rendered := render_source (items_ne_nil_of_build built)
  rw [text_sourceCode] at rendered
  rw [header, source]
  -- Both notions of a good literal follow from what they say of bare and of escaped texts.
  exact ⟨rfl, rfl, ⟨isPlain_sourceTemplate, quotedWays_sourceNodes⟩, rendered,
    forall_literalsOf_iff (fun _ => Text.isIntact_iff) (fun text _ => Text.isIntact_escapeDetail text)
      plain built,
    forall_literalsOf_iff (fun _ => Text.endsAtQuote_iff) (fun _ => Text.endsAtQuote_escapeDetail)
      plain built⟩

/-- Definitions with a detail of two lines that quotes a word. -/
def quoting : Definitions where
  services := ⟨⟨"serv.json"⟩, [⟨"a", "A b", "10", "", ""⟩]⟩
  subFunctions := ⟨⟨"serv_sub.json"⟩, [⟨"a", "x", "01", "X\ty", "", "the \"word\"\nbehind"⟩,
    -- No service owns this one, so its name does not count.
    ⟨"b", "y", "02", "\"", "", ""⟩]⟩
  layouts := ⟨⟨"req_resp.json"⟩, []⟩

/-- The detail is escaped, and all literals end at their own quotes. -/
theorem literals_isIntact_iff_quoting :
    LacksBackslash quoting ∧ ∃ catalog, Catalog.build quoting = .ok catalog ∧
      literalsOf catalog = ["X\ty", "the \\\"word\\\"\\nbehind", "A b"] ∧
      ∀ literal ∈ literalsOf catalog, IsIntact literal.toList ∧ EndsAtQuote literal.toList := by
  have plain : LacksBackslash quoting := ⟨by decide, by decide⟩
  -- Only the detail needs escapes, and details are not among the names.
  have quotable : NamesAreQuotable quoting := by decide
  obtain ⟨catalog, built, literals⟩ :
      ∃ catalog, Catalog.build quoting = .ok catalog ∧
        literalsOf catalog = ["X\ty", "the \\\"word\\\"\\nbehind", "A b"] :=
    exists_eq_ok_of_any (by decide +kernel)
  obtain ⟨-, -, -, -, intact_iff, ends_iff⟩ := literals_isIntact_iff built plain .empty
  exact ⟨plain, catalog, built, literals, fun literal member =>
    ⟨intact_iff.mpr quotable literal member, ends_iff.mpr quotable literal member⟩⟩

/-- A service with a quote in its name is loaded and built, and the literal with this name ends at the
quote inside. -/
theorem literals_broken :
    let services : List Record.Service := [⟨"a", "a\"b", "10", "", ""⟩]
    let definitions := Definition.localDefinitions services [] []
    Definition.localPaths.schemas = .builtIn ∧
    Definition.localPaths.load (Definition.localFiles services [] []) = .ok definitions ∧
    LacksBackslash definitions ∧
    ∃ catalog, Catalog.build definitions = .ok catalog ∧
      headerSession.addFixed .empty .builtIn sourceName = (.ok (), pairSession) ∧
      pairSession.render sourceName catalog = .ok (Piece.joined (sourcePieces catalog)) ∧
      ∃ literal ∈ literalsOf catalog, ¬ IsIntact literal.toList ∧
        Text.readLiteral (literal ++ "\"").toList = some ("a".toList, "b\"".toList) := by
  intro services definitions
  -- The schema does not restrict what a service shows as its name.
  have loaded : Definition.localPaths.load (Definition.localFiles services [] []) = .ok definitions :=
    Definition.load_localFiles (List.forall_mem_singleton.mpr ⟨by decide +kernel, by decide⟩)
      (by simp) (by simp)
  obtain ⟨catalog, built, literals⟩ :
      ∃ catalog, Catalog.build definitions = .ok catalog ∧ literalsOf catalog = ["a\"b"] :=
    exists_eq_ok_of_any (by decide +kernel)
  have rendered := render_source (items_ne_nil_of_build built)
  rw [text_sourceCode] at rendered
  refine ⟨rfl, loaded, ⟨by decide, by decide⟩, catalog, built, addFixed_source .empty, rendered,
    "a\"b", by simp [literals], ?_, by decide⟩
  rw [Text.isIntact_iff (by decide)]
  decide

end UdsCatalog.Generation

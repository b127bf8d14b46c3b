import UdsCatalog.Definition.Loading
import UdsCatalog.Proofs.Definition.Tables
import UdsCatalog.Proofs.Files.Tree

/-!
How loading ends. A table is loaded in stages, each of which needs those before it, and the first stage
that fails decides the failure. The tables are loaded one after the other, once all their files are
there. What counts as a schema, and what a document does against it, is up to the validator.
-/

namespace UdsCatalog.Definition

open Record (Kind Malformed)

/-- A file holds a document: it is a text, and the text parses. -/
def HoldsDocument (tree : Files.Tree) (path : Files.Path) (root : Json) : Prop :=
  ∃ text, tree.readText path = .ok text ∧ Json.parse text = .ok root

/-- A source has a schema for a table: the one that the program brings along, or the document in a file of
its directory. -/
inductive SchemaSource.Offers (tree : Files.Tree) (kind : Kind) :
    SchemaSource → Files.Path → Json → Prop where
  | builtIn : Offers tree kind .builtIn (builtInDirectory.join (schemaFile kind)) (builtInSchema kind)
  | directory {directory : Files.Path} {document : Json}
      (held : HoldsDocument tree (directory.join (schemaFile kind)) document) :
      Offers tree kind (.directory directory) (directory.join (schemaFile kind)) document

/-- A source has no schema for a table: the file is missing, it is no text, or the text does not
parse. -/
inductive SchemaSource.Lacks (tree : Files.Tree) (kind : Kind) : SchemaSource → Failure → Prop where
  | missing {directory : Files.Path}
      (absent : tree.isFile (directory.join (schemaFile kind)) = false) :
      Lacks tree kind (.directory directory) (.missing .schema (directory.join (schemaFile kind)))
  | noText {directory : Files.Path} (file : tree.isFile (directory.join (schemaFile kind)) = true)
      (unread : tree.readText (directory.join (schemaFile kind)) = .error .notText) :
      Lacks tree kind (.directory directory) (.files .notText)
  | noDocument {directory : Files.Path} {text : String} {fault : Json.Fault}
      (read : tree.readText (directory.join (schemaFile kind)) = .ok text)
      (unparsed : Json.parse text = .error fault) :
      Lacks tree kind (.directory directory) (.document fault)

section Table

variable (validator : Schema.Validator) (tree : Files.Tree) (source : SchemaSource) (kind : Kind)
  (path : Files.Path) {ρ : Type} (read : Json → Except Malformed (List ρ))

/-- A file gives a table: no stage of loading it fails. -/
def Gives (table : Record.Table ρ) : Prop :=
  table.path = path ∧ ∃ root schemaPath document schema,
    HoldsDocument tree path root ∧ source.Offers tree kind schemaPath document ∧
      validator.compile document = .ok schema ∧ validator.violations schema root = [] ∧
      read root = .ok table.records

/-- A file gives no table: the first stage that fails, for which all stages before it have succeeded. -/
inductive Fails : Failure → Prop where
  /-- The file is no text. -/
  | reading (unread : tree.readText path = .error .notText) : Fails (.files .notText)
  /-- The text does not parse. -/
  | parsing {text : String} {fault : Json.Fault} (read : tree.readText path = .ok text)
      (unparsed : Json.parse text = .error fault) : Fails (.record path (.text fault))
  /-- There is no schema. -/
  | finding {root : Json} {failure : Failure} (held : HoldsDocument tree path root)
      (lacks : source.Lacks tree kind failure) : Fails failure
  /-- The schema is none. -/
  | compiling {root document : Json} {schemaPath : Files.Path} {reason : String}
      (held : HoldsDocument tree path root) (offers : source.Offers tree kind schemaPath document)
      (defective : validator.compile document = .error reason) :
      Fails (.invalidSchema schemaPath reason)
  /-- The document does not conform to the schema. -/
  | checking {root document : Json} {schemaPath : Files.Path} {schema : validator.Compiled}
      (held : HoldsDocument tree path root) (offers : source.Offers tree kind schemaPath document)
      (compiled : validator.compile document = .ok schema)
      (violated : validator.violations schema root ≠ []) :
      Fails (.violations path (validator.violations schema root))
  /-- The document conforms, but its rows are no records. -/
  | converting {root document : Json} {schemaPath : Files.Path} {schema : validator.Compiled}
      {malformed : Malformed} (held : HoldsDocument tree path root)
      (offers : source.Offers tree kind schemaPath document)
      (compiled : validator.compile document = .ok schema)
      (conforms : validator.violations schema root = []) (unread : read root = .error malformed) :
      Fails (.record path (.shape malformed))

end Table

variable {validator : Schema.Validator} {tree : Files.Tree} {source : SchemaSource} {kind : Kind}
  {path : Files.Path}

/-- What holds a document is a file. -/
theorem HoldsDocument.isFile {root : Json} (held : HoldsDocument tree path root) :
    tree.isFile path = true := by
  obtain ⟨text, read, -⟩ := held
  exact Files.Tree.isFile_of_readText read

/-- A schema that a source has is found. -/
theorem SchemaSource.Offers.find_eq {schemaPath : Files.Path} {document : Json}
    (offers : source.Offers tree kind schemaPath document) :
    source.find tree (schemaFile kind) = .ok (schemaPath, document) := by
  -- A file is looked for, read and parsed, and the offer says that each of these succeeds.
  cases offers with
  | builtIn => exact find_builtIn tree kind
  | directory held =>
    obtain ⟨text, read, parsed⟩ := held
    simp [SchemaSource.find, Files.Tree.isFile_of_readText read, readFile, read, readDocument, parsed,
      Bind.bind, Except.bind, Pure.pure, Except.pure]

/-- A schema that a source lacks is not found. -/
theorem SchemaSource.Lacks.find_eq {failure : Failure} (lacks : source.Lacks tree kind failure) :
    source.find tree (schemaFile kind) = .error failure := by
  -- Each case names the first of the three steps that fails, with the steps before it done.
  cases lacks with
  | missing absent => simp [SchemaSource.find, absent]
  | noText file unread => simp [SchemaSource.find, file, readFile, unread, Bind.bind, Except.bind]
  | noDocument read unparsed =>
    simp [SchemaSource.find, Files.Tree.isFile_of_readText read, readFile, read, readDocument, unparsed,
      Bind.bind, Except.bind]

/-- A source has a schema for a table or lacks one. -/
theorem SchemaSource.offers_or_lacks (tree : Files.Tree) (kind : Kind) (source : SchemaSource) :
    (∃ schemaPath document, source.Offers tree kind schemaPath document) ∨
      ∃ failure, source.Lacks tree kind failure := by
  -- The steps are taken one by one, and a failure ends in the case of its own.
  cases source with
  | builtIn => exact .inl ⟨_, _, .builtIn⟩
  | directory directory =>
    cases file : tree.isFile (directory.join (schemaFile kind)) with
    | false => exact .inr ⟨_, .missing file⟩
    | true =>
      rcases Files.Tree.readText_of_isFile file with ⟨text, read⟩ | unread
      · cases parsed : Json.parse text with
        | error fault => exact .inr ⟨_, .noDocument read parsed⟩
        | ok document => exact .inl ⟨_, _, .directory ⟨text, read, parsed⟩⟩
      · exact .inr ⟨_, .noText file unread⟩

section Table

variable {ρ : Type} {read : Json → Except Malformed (List ρ)}

/-- A file gives a table or fails to do so. -/
theorem gives_or_fails (validator : Schema.Validator) (source : SchemaSource) (kind : Kind)
    (read : Json → Except Malformed (List ρ)) (file : tree.isFile path = true) :
    (∃ table, Gives validator tree source kind path read table) ∨
      ∃ failure, Fails validator tree source kind path read failure := by
  -- Each stage either ends the loading or hands on what the next one needs.
  rcases Files.Tree.readText_of_isFile file with ⟨text, isText⟩ | unread
  case inr => exact .inr ⟨_, .reading unread⟩
  cases parsed : Json.parse text with
  | error fault => exact .inr ⟨_, .parsing isText parsed⟩
  | ok root =>
    have held : HoldsDocument tree path root := ⟨text, isText, parsed⟩
    rcases source.offers_or_lacks tree kind with ⟨schemaPath, document, offers⟩ | ⟨failure, lacks⟩
    case inr => exact .inr ⟨failure, .finding held lacks⟩
    cases compiled : validator.compile document with
    | error reason => exact .inr ⟨_, .compiling held offers compiled⟩
    | ok schema =>
      by_cases conforms : validator.violations schema root = []
      · cases converted : read root with
        | error malformed => exact .inr ⟨_, .converting held offers compiled conforms converted⟩
        | ok records =>
          exact .inl ⟨⟨path, records⟩, rfl, root, schemaPath, document, schema, held, offers, compiled,
            conforms, converted⟩
      · exact .inr ⟨_, .checking held offers compiled conforms⟩

/-- A file that holds a document is loaded by holding the document against the schema. -/
theorem HoldsDocument.loadWith_eq {root : Json} (held : HoldsDocument tree path root)
    (validator : Schema.Validator) (source : SchemaSource) (kind : Kind) :
    Document.loadWith validator tree source kind path =
      Document.ofJsonWith validator tree source kind path root := by
  obtain ⟨text, isText, parsed⟩ := held
  simp [Document.loadWith, Files.Tree.isFile_of_readText isText, readFile, isText, parsed, Bind.bind,
    Except.bind]

/-- A document is held against the schema that the source has. -/
theorem SchemaSource.Offers.ofJsonWith_eq {schemaPath : Files.Path} {document : Json}
    {schema : validator.Compiled} (offers : source.Offers tree kind schemaPath document)
    (compiled : validator.compile document = .ok schema) (path : Files.Path) (root : Json) :
    Document.ofJsonWith validator tree source kind path root =
      match validator.violations schema root with
      | [] => .ok ⟨path, root⟩
      | violations => .error (.violations path violations) := by
  simp only [Document.ofJsonWith, offers.find_eq, compileWith, compiled, Bind.bind, Except.bind]
  cases validator.violations schema root <;> rfl

/-- A document that does not conform is refused for its violations. -/
theorem SchemaSource.Offers.ofJsonWith_eq_violations {schemaPath : Files.Path} {root document : Json}
    {schema : validator.Compiled} (offers : source.Offers tree kind schemaPath document)
    (compiled : validator.compile document = .ok schema) (path : Files.Path)
    (violated : validator.violations schema root ≠ []) :
    Document.ofJsonWith validator tree source kind path root =
      .error (.violations path (validator.violations schema root)) := by
  rw [offers.ofJsonWith_eq compiled]
  split
  · exact absurd ‹_› violated
  · rfl

/-- A table that a file gives is loaded. -/
theorem Gives.loadTableWith_eq {paths : Paths} {table : Record.Table ρ}
    (gives : Gives validator tree paths.schemas kind path read table) :
    paths.loadTableWith validator tree kind path read = .ok table := by
  obtain ⟨rfl, root, schemaPath, document, schema, held, offers, compiled, conforms, converted⟩ := gives
  simp [Paths.loadTableWith, held.loadWith_eq, offers.ofJsonWith_eq compiled, conforms,
    Document.records, converted, Bind.bind, Except.bind]

/-- A table that a file fails to give is not loaded. -/
theorem Fails.loadTableWith_eq {paths : Paths} {failure : Failure} (file : tree.isFile path = true)
    (fails : Fails validator tree paths.schemas kind path read failure) :
    paths.loadTableWith validator tree kind path read = .error failure := by
  -- One case for each stage: those before it are computed away, and it fails as it is told.
  cases fails with
  | reading unread =>
    simp [Paths.loadTableWith, Document.loadWith, file, readFile, unread, Bind.bind, Except.bind]
  | parsing isText unparsed =>
    simp [Paths.loadTableWith, Document.loadWith, file, readFile, isText, unparsed, Bind.bind, Except.bind,
      throw, throwThe, MonadExceptOf.throw]
  | finding held lacks =>
    simp [Paths.loadTableWith, held.loadWith_eq, Document.ofJsonWith, lacks.find_eq, Bind.bind, Except.bind]
  | compiling held offers defective =>
    simp [Paths.loadTableWith, held.loadWith_eq, Document.ofJsonWith, offers.find_eq, compileWith, defective,
      Bind.bind, Except.bind]
  | checking held offers compiled violated =>
    simp [Paths.loadTableWith, held.loadWith_eq, offers.ofJsonWith_eq_violations compiled path violated,
      Bind.bind, Except.bind]
  | converting held offers compiled conforms unread =>
    simp [Paths.loadTableWith, held.loadWith_eq, offers.ofJsonWith_eq compiled, conforms, Document.records,
      unread, Bind.bind, Except.bind]

/-- A table is loaded exactly when its file gives it. -/
theorem Paths.loadTableWith_eq_ok_iff {paths : Paths} {table : Record.Table ρ}
    (file : tree.isFile path = true) :
    paths.loadTableWith validator tree kind path read = .ok table ↔
      Gives validator tree paths.schemas kind path read table := by
  refine ⟨fun loaded => ?_, Gives.loadTableWith_eq⟩
  rcases gives_or_fails validator paths.schemas kind read file with ⟨other, gives⟩ | ⟨failure, fails⟩
  · obtain rfl : other = table := Except.ok.inj (gives.loadTableWith_eq.symm.trans loaded)
    exact gives
  · cases (fails.loadTableWith_eq file).symm.trans loaded

/-- A table fails to be loaded exactly as its file fails to give it. -/
theorem Paths.loadTableWith_eq_error_iff {paths : Paths} {failure : Failure}
    (file : tree.isFile path = true) :
    paths.loadTableWith validator tree kind path read = .error failure ↔
      Fails validator tree paths.schemas kind path read failure := by
  refine ⟨fun failed => ?_, Fails.loadTableWith_eq file⟩
  rcases gives_or_fails validator paths.schemas kind read file with ⟨table, gives⟩ | ⟨other, fails⟩
  · cases gives.loadTableWith_eq.symm.trans failed
  · obtain rfl : other = failure := Except.error.inj ((fails.loadTableWith_eq file).symm.trans failed)
    exact fails

end Table

/-- The rows of a table. -/
abbrev RowOf : Kind → Type
  | .services => Record.Service
  | .subFunctions => Record.SubFunction
  | .layouts => Record.Layout

/-- How the rows of a table are read from its document. -/
def rowsOfJson : (kind : Kind) → Json → Except Malformed (List (RowOf kind))
  | .services => Record.Service.tableOfJson
  | .subFunctions => Record.SubFunction.tableOfJson
  | .layouts => Record.Layout.tableOfJson

/-- The table of a kind. -/
def tableOf (definitions : Definitions) : (kind : Kind) → Record.Table (RowOf kind)
  | .services => definitions.services
  | .subFunctions => definitions.subFunctions
  | .layouts => definitions.layouts

namespace Paths

/-- The file of a table. -/
def file (paths : Paths) : Kind → Files.Path
  | .services => paths.services
  | .subFunctions => paths.subFunctions
  | .layouts => paths.layouts

/-- The tables in the order in which they are loaded. -/
def order : List Kind := [.services, .subFunctions, .layouts]

/-- The file of a table gives it. -/
def GivesTable (paths : Paths) (validator : Schema.Validator) (tree : Files.Tree) (kind : Kind)
    (table : Record.Table (RowOf kind)) : Prop :=
  Gives validator tree paths.schemas kind (paths.file kind) (rowsOfJson kind) table

/-- The file of a table does not give it. -/
def FailsTable (paths : Paths) (validator : Schema.Validator) (tree : Files.Tree) (failure : Failure)
    (kind : Kind) : Prop :=
  Fails validator tree paths.schemas kind (paths.file kind) (rowsOfJson kind) failure

variable {paths : Paths}

/-- The check passes when all files are there. -/
theorem ensureExist_eq_ok_iff :
    paths.ensureExist tree = .ok () ↔ ∀ kind, tree.isFile (paths.file kind) = true := by
  -- Asking for every kind is asking for every file of the list.
  have all : (∀ kind, tree.isFile (paths.file kind) = true) ↔
      ∀ path ∈ paths.files, tree.isFile path = true := by
    constructor
    · intro there path member
      simp only [files, List.mem_cons, List.not_mem_nil, or_false] at member
      rcases member with rfl | rfl | rfl
      exacts [there .services, there .subFunctions, there .layouts]
    · intro there kind
      cases kind <;> exact there _ (by simp [files, file])
  rw [all, ensureExist]
  -- The search stops at a file that is not there, if there is one.
  cases missing : paths.files.find? fun path => !tree.isFile path with
  | none => simpa using List.find?_eq_none.mp missing
  | some path =>
    have absent : tree.isFile path = false := by simpa using List.find?_some missing
    simp only [reduceCtorEq, false_iff]
    intro there
    rw [there path (List.mem_of_find?_eq_some missing)] at absent
    cases absent

/-- The check names the first file that is missing. -/
theorem ensureExist_eq_error_iff {failure : Failure} :
    paths.ensureExist tree = .error failure ↔
      EndsFirst (fun kind => tree.isFile (paths.file kind) = true)
        (fun kind => tree.isFile (paths.file kind) = false ∧
          failure = .missing .definition (paths.file kind)) order := by
  simp only [order, endsFirst_cons_iff, not_endsFirst_nil, and_false, or_false, file, ensureExist, files,
    List.find?_cons]
  cases tree.isFile paths.services <;> cases tree.isFile paths.subFunctions <;>
    cases tree.isFile paths.layouts <;> simp [eq_comm]

/-- Definitions are loaded when all files are there and each table is loaded from its own. -/
theorem loadWith_eq_ok_iff {definitions : Definitions} :
    paths.loadWith validator tree = .ok definitions ↔ paths.ensureExist tree = .ok () ∧
      ∀ kind, paths.loadTableWith validator tree kind (paths.file kind) (rowsOfJson kind) =
        .ok (tableOf definitions kind) := by
  -- The three loads are binds in a row, and each of them hands on one table of the definitions.
  obtain ⟨services, subFunctions, layouts⟩ := definitions
  simp only [loadWith, bind_eq_ok_iff, Pure.pure, Except.pure, Except.ok.injEq, Definitions.mk.injEq]
  constructor
  · rintro ⟨⟨⟩, there, _, first, _, second, _, third, rfl, rfl, rfl⟩
    refine ⟨there, fun kind => ?_⟩
    cases kind
    exacts [first, second, third]
  · rintro ⟨there, each⟩
    exact ⟨(), there, _, each .services, _, each .subFunctions, _, each .layouts, rfl, rfl, rfl⟩

/-- Loading definitions fails when a file is missing, and else as the first table does that cannot be
loaded. -/
theorem loadWith_eq_error_iff {failure : Failure} :
    paths.loadWith validator tree = .error failure ↔ paths.ensureExist tree = .error failure ∨
      paths.ensureExist tree = .ok () ∧
        EndsFirst
          (fun kind => ∃ table,
            paths.loadTableWith validator tree kind (paths.file kind) (rowsOfJson kind) = .ok table)
          (fun kind =>
            paths.loadTableWith validator tree kind (paths.file kind) (rowsOfJson kind) = .error failure)
          order := by
  -- The check has one result, and after the tables nothing is left that could fail.
  have checked : (∃ result, paths.ensureExist tree = .ok result) ↔ paths.ensureExist tree = .ok () :=
    ⟨fun ⟨⟨⟩, passed⟩ => passed, fun passed => ⟨(), passed⟩⟩
  simp only [order, endsFirst_cons_iff, not_endsFirst_nil, and_false, or_false, file, rowsOfJson, loadWith,
    bind_eq_error_iff, Pure.pure, Except.pure, reduceCtorEq, exists_and_right, exists_false, checked]

/-- Loading definitions succeeds exactly when all files are there and each of them gives its table. It
names the first file that is missing, and else fails as the first file does that gives no table. A
document that violates its schema is not converted: it fails for its violations, however its rows would be
read. -/
theorem load_outcome (validator : Schema.Validator) (paths : Paths) (tree : Files.Tree) :
    (∀ definitions, paths.loadWith validator tree = .ok definitions ↔
      (∀ kind, tree.isFile (paths.file kind) = true) ∧
        ∀ kind, paths.GivesTable validator tree kind (tableOf definitions kind)) ∧
    (∀ failure, paths.loadWith validator tree = .error failure ↔
      EndsFirst (fun kind => tree.isFile (paths.file kind) = true)
        (fun kind => tree.isFile (paths.file kind) = false ∧
          failure = .missing .definition (paths.file kind)) order ∨
      (∀ kind, tree.isFile (paths.file kind) = true) ∧
        EndsFirst (fun kind => ∃ table, paths.GivesTable validator tree kind table)
          (paths.FailsTable validator tree failure) order) ∧
    ∀ kind path root schemaPath document schema, HoldsDocument tree path root →
      paths.schemas.Offers tree kind schemaPath document → validator.compile document = .ok schema →
      validator.violations schema root ≠ [] →
      ∀ (ρ : Type) (read : Json → Except Malformed (List ρ)),
        paths.loadTableWith validator tree kind path read =
          .error (.violations path (validator.violations schema root)) := by
  refine ⟨?success, ?failure, ?violated⟩
  -- Once the files are there, each table is loaded exactly when its file gives it.
  case success =>
    intro definitions
    rw [loadWith_eq_ok_iff, ensureExist_eq_ok_iff]
    refine and_congr_right fun there => forall_congr' fun kind => ?_
    exact loadTableWith_eq_ok_iff (there kind)
  -- Either a file is missing, or all are there and the first table that fails decides.
  case failure =>
    intro failure
    rw [loadWith_eq_error_iff, ensureExist_eq_error_iff, ensureExist_eq_ok_iff]
    refine or_congr_right (and_congr_right fun there => ?_)
    simp only [loadTableWith_eq_ok_iff (there _), loadTableWith_eq_error_iff (there _)]
    rfl
  case violated =>
    intro kind path root schemaPath document schema held offers compiled violated ρ read
    exact Fails.loadTableWith_eq held.isFile (.checking held offers compiled violated)

/-- Files of which the second one violates its schema and the third one is no text. They stand elsewhere than
in the current directory. -/
def defectiveFiles : Files.Tree :=
  ⟨[(["defs"], .directory), (["serv.json", "defs"], .file (.text "\x7b\"Service\":[]\x7d")),
    (["serv_sub.json", "defs"], .file (.text "null")),
    (["req_resp.json", "defs"], .file (.bytes [0xFF]))], ["work"]⟩

/-- The violations of the second file are what loading fails for, however much is wrong with the third
one. -/
theorem load_outcome_defective :
    ∃ schema, Schema.ofJson (builtInSchema .subFunctions) = .ok schema ∧
      (inDirectory "/defs").load defectiveFiles =
        .error (.violations "/defs/serv_sub.json" (schema.violations .null)) := by
  obtain ⟨schema, read, asks⟩ := (isSchemaOf_builtInSchema .subFunctions).ofJson
  refine ⟨schema, read,
    ((load_outcome .standard (inDirectory "/defs") defectiveFiles).2.1 _).mpr (.inr ?_)⟩
  -- The first file is an empty table, which conforms.
  obtain ⟨services, readServices, asksServices⟩ := (isSchemaOf_builtInSchema .services).ofJson
  have conforms : Conforms .services (.object [("Service", .array [])]) := by
    refine ⟨_, rfl, by decide, ?_⟩
    intro name value member
    obtain ⟨rfl, rfl⟩ : name = "Service" ∧ value = .array [] := by simpa using member
    exact ⟨_, rfl, [], rfl, by simp⟩
  have gives : (inDirectory "/defs").GivesTable .standard defectiveFiles .services
      ⟨"/defs/serv.json", []⟩ :=
    ⟨rfl, _, _, _, services, ⟨_, rfl, rfl⟩, .builtIn,
      compile_standard_of_ofJson readServices, (asksServices [] _).mpr conforms, rfl⟩
  -- The second file is no object, so it cannot be without violations.
  have violated : schema.violations .null ≠ [] := by
    intro none
    obtain ⟨entries, same, -⟩ := (asks [] .null).mp none
    cases same
  have fails : (inDirectory "/defs").FailsTable .standard defectiveFiles
      (.violations "/defs/serv_sub.json" (schema.violations .null)) .subFunctions :=
    .checking ⟨_, rfl, rfl⟩ .builtIn (compile_standard_of_ofJson read) violated
  -- All three files are there, and the second one fails behind the first.
  refine ⟨fun kind => by cases kind <;> decide +kernel, [.services], .subFunctions, [.layouts], rfl, ?_,
    fails⟩
  exact List.forall_mem_singleton.mpr ⟨_, gives⟩

end Paths

end UdsCatalog.Definition

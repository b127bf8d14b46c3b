import UdsCatalog.Generation.Context
import UdsCatalog.Proofs.Catalog.Services
import UdsCatalog.Proofs.Generation.Supply
import UdsCatalog.Proofs.Numeral.Hex

/-!
Numbers as templates see them: the text that a table writes, the number itself and a literal of
generated code. In every catalog that is built the three of them agree.
-/

namespace UdsCatalog.Generation

/-- A view shows a number under a name, and beside it the text it was written as and a literal. Both
texts are read as the number: the written one as its table reads it, the literal at every width from a
byte on. -/
structure ShowsNumber (read : String → Except NumeralError Nat) (view : Json) (name written : String)
    (value : Nat) : Prop where
  shows_number : view.get? name = some (count value)
  shows_written : view.get? (name ++ "_raw") = some (.text written)
  read_written : read written = .ok value
  shows_literal : ∃ literal, view.get? (name ++ "_literal") = some (.text literal) ∧
    ∀ bits, 8 ≤ bits → Numeral.parseHex bits literal = .ok value

/-- The values of a sub-function are numbers of 32 bits. -/
def readValue (text : String) : Except NumeralError Nat := Numeral.parseHex 32 text

/-- The code of a service is a number of 64 bits, and blanks around it do not count. -/
def readCode (text : String) : Except NumeralError Nat :=
  Numeral.parseHex 64 (String.ofList (Text.trim text.toList))

/-- What a view shows of the numbers of a sub-function. They are in order and fit one byte, and the view
tells whether they differ. -/
structure ShowsBounds (item : SubFunction) (view : Json) : Prop where
  start : ShowsNumber readValue view "hex_start" item.startText item.start
  stop : ShowsNumber readValue view "hex_end" item.endText item.stop
  start_le : item.start ≤ item.stop
  stop_le : item.stop ≤ 255
  isRange : view.get? "is_range" = some (.bool item.isRange)
  isRange_iff : item.isRange = true ↔ item.start < item.stop

/-- What a view shows of the code of a service and of the numbers of its sub-functions. -/
structure ShowsCode (service : Service) (view : Json) : Prop where
  code : ShowsNumber readCode view "hex_code" service.hexText service.code
  code_le : service.code ≤ 255
  bounds : ∃ views, view.get? "sub_functions" = some (.array views) ∧
    List.Forall₂ ShowsBounds service.subFunctions.items views

/-- The literal of a number of one byte reads back at every width that holds a byte. -/
theorem parseHex_hexLiteral_of_byte {value bits : Nat} (byte : value ≤ 255) (wide : 8 ≤ bits) :
    Numeral.parseHex bits (Numeral.hexLiteral value) = .ok value := by
  -- A byte is below the bound of every width that holds one.
  have power : 2 ^ 8 ≤ 2 ^ bits := Nat.pow_le_pow_right (by decide) wide
  exact Numeral.parseHex_hexLiteral (by omega)

/-- A number of one byte is shown when it stands in the view together with its text and its literal. -/
theorem showsNumber_of_byte {read : String → Except NumeralError Nat} {view : Json} {name written : String}
    {value : Nat} (byte : value ≤ 255) (reads : read written = .ok value)
    (number : view.get? name = some (count value))
    (text : view.get? (name ++ "_raw") = some (.text written))
    (literal : view.get? (name ++ "_literal") = some (.text (Numeral.hexLiteral value))) :
    ShowsNumber read view name written value :=
  ⟨number, text, reads, _, literal, fun _ wide => parseHex_hexLiteral_of_byte byte wide⟩

/-- A sub-function that is described by a record is shown with numbers that agree. -/
theorem showsBounds_view {record : Record.SubFunction} {item : SubFunction}
    (described : SubFunction.Describes record item) : ShowsBounds item (subFunctionView item) := by
  have ordered : item.start ≤ item.stop := described.start_le
  have stop_le : item.stop ≤ 255 := described.stop_le
  have start_le : item.start ≤ 255 := by omega
  -- Each case looks up its entries in the view, which are computed.
  constructor
  case start =>
    refine showsNumber_of_byte start_le described.start ?_ ?_ ?_ <;>
      simp [subFunctionView, Json.get?, List.lookup]
  case stop =>
    refine showsNumber_of_byte stop_le described.stop ?_ ?_ ?_ <;>
      simp [subFunctionView, Json.get?, List.lookup]
  case start_le => exact ordered
  case stop_le => exact stop_le
  case isRange => simp [subFunctionView, Json.get?, List.lookup]
  case isRange_iff => exact described.isRange_iff

/-- A service that is described by a record is shown with numbers that agree. -/
theorem showsCode_view {subFunctions : Record.Table Record.SubFunction} {record : Record.Service}
    {service : Service} (described : Service.Describes subFunctions record service) :
    ShowsCode service (serviceView service) := by
  have code_le : service.code ≤ 255 := Nat.le_of_lt_succ described.code_lt
  constructor
  case code =>
    -- The view repeats the text of the record, which is what the table has read.
    have read : readCode service.hexText = .ok service.code := by
      rw [readCode, described.hexText]
      exact described.code
    refine showsNumber_of_byte code_le read ?_ ?_ ?_ <;> simp [serviceView, Json.get?, List.lookup]
  case code_le => exact code_le
  case bounds =>
    -- Each sub-function is described by one of the records that the service owns.
    have shown : (serviceView service).get? "sub_functions" =
        some (.array (service.subFunctions.items.map subFunctionView)) := by
      simp [serviceView, Json.get?, List.lookup]
    refine ⟨_, shown, ?_⟩
    rw [List.forall₂_map_right_iff, List.forall₂_same]
    intro item member
    obtain ⟨sub, -, itemDescribed⟩ :=
      exists_of_forall₂ (SubFunction.collect_describes described.subFunctions) member
    exact showsBounds_view itemDescribed

/-- In the values that templates are given for a catalog that is built, every number agrees with the text
it was written as and with its literal. A literal of any number of 32 bits reads back as the number. -/
theorem context_shows_numbers {definitions : Definitions} {catalog : Catalog}
    (built : Catalog.build definitions = .ok catalog) :
    (∃ given views, context catalog = .ok given ∧ given.lookup "services" = some (.array views) ∧
      List.Forall₂ ShowsCode catalog.services.items views) ∧
    ∀ value < 2 ^ 32, Numeral.parseHex 32 (Numeral.hexLiteral value) = .ok value := by
  refine ⟨⟨values catalog, _, context_eq (items_ne_nil_of_build built), rfl, ?_⟩, ?_⟩
  -- The view of a service is made from the service alone, so one record is looked at.
  · rw [List.forall₂_map_right_iff, List.forall₂_same]
    intro service member
    have collected := (Catalog.build_eq_ok_iff.mp built).1
    obtain ⟨record, -, described⟩ := exists_of_forall₂ (Service.collect_describes collected) member
    exact showsCode_view described
  · intro value fits
    exact Numeral.parseHex_hexLiteral fits

/-- Numbers are written with blanks, a sign, zeros in front, a marker or none, and letters of both
cases. -/
def variouslyWritten : Definitions where
  services := ⟨⟨"serv.json"⟩, [⟨"a", "", " 0X+003e\t", "", ""⟩]⟩
  subFunctions := ⟨⟨"serv_sub.json"⟩, [⟨"a", "x", "+ 0 a to 0x fF", "", "", ""⟩,
    ⟨"a", "y", "0X7f", "", "", ""⟩]⟩
  layouts := ⟨⟨"req_resp.json"⟩, []⟩

/-- However the numbers are written, they are shown with the same literals. -/
theorem context_shows_numbers_variously_written :
    ∃ catalog, Catalog.build variouslyWritten = .ok catalog ∧
      ∃ given views, context catalog = .ok given ∧ given.lookup "services" = some (.array views) ∧
        List.Forall₂ ShowsCode catalog.services.items views ∧
        (catalog.services.items.map fun service =>
          (service.code, service.subFunctions.items.map fun item => (item.start, item.stop))) =
            [(0x3E, [(0x0A, 0xFF), (0x7F, 0x7F)])] := by
  obtain ⟨catalog, built, numbers⟩ :
      ∃ catalog, Catalog.build variouslyWritten = .ok catalog ∧
        (catalog.services.items.map fun service =>
          (service.code, service.subFunctions.items.map fun item => (item.start, item.stop))) =
            [(0x3E, [(0x0A, 0xFF), (0x7F, 0x7F)])] :=
    exists_eq_ok_of_any (by decide +kernel)
  -- The literals follow from the numbers, so nothing has to be rendered.
  obtain ⟨⟨given, views, shown, found, each⟩, -⟩ := context_shows_numbers built
  exact ⟨catalog, built, given, views, shown, found, each, numbers⟩

end UdsCatalog.Generation

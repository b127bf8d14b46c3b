import UdsCatalog.Catalog.Layout
import UdsCatalog.Catalog.Service

/-! The catalog of a diagnostic protocol: everything that generated code is made from. -/

namespace UdsCatalog

/-- The records of the three tables. -/
structure Definitions where
  services : Record.Table Record.Service
  subFunctions : Record.Table Record.SubFunction
  layouts : Record.Table Record.Layout
  deriving DecidableEq, Repr

/-- Services with their sub-functions, and the layouts of messages. -/
structure Catalog where
  services : Service.Collection
  classes : List LayoutClass
  deriving DecidableEq, Repr

namespace Catalog

/-- A catalog of nothing. -/
def empty : Catalog := ⟨.empty, []⟩

/-- Builds the catalog from its definitions, the services first. -/
def build (definitions : Definitions) : Except Rejection Catalog :=
  -- The two collections share nothing, so the order only decides which rejection is seen.
  match Service.collect definitions.services definitions.subFunctions with
  | .error rejection => .error rejection
  | .ok services =>
    match LayoutClass.collect definitions.layouts with
    | .error rejection => .error rejection
    | .ok classes => .ok ⟨services, classes⟩

end Catalog

end UdsCatalog

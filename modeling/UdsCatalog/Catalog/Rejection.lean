import UdsCatalog.Files.Path

/-! Records that are well formed but say something impossible. -/

namespace UdsCatalog

/-- What is wrong with the text of a field. -/
inductive Rejection.Cause where
  /-- It cannot be read. -/
  | unreadable
  /-- It can be read, and lies outside the bounds. -/
  | outOfBound
  deriving DecidableEq, Repr

/-- A record that is rejected because of one of its fields. -/
structure Rejection where
  cause : Rejection.Cause
  /-- The name of the record, as it is written. -/
  item : String
  field : String
  /-- The text of the field, as it is written. -/
  value : String
  /-- The file of the record's table. -/
  path : Files.Path
  deriving DecidableEq, Repr

/-- The wording of a rejection. -/
def Rejection.message (rejection : Rejection) : String :=
  rejection.item ++ ": " ++ rejection.field ++ " value '" ++ rejection.value ++
    -- Only the verb differs. The closing quotation mark belongs to the shown text.
    (match rejection.cause with
      | .unreadable => "' cannot be converted ("
      | .outOfBound => "' is out of bound (") ++
    rejection.path.text ++ ")"

end UdsCatalog

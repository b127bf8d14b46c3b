import UdsCatalog.Named
import UdsCatalog.Numeral.FloatingPoint

/-! Values of TOML documents, and the tables that a document builds line by line. -/

namespace UdsCatalog

/-- A value of a TOML document. -/
inductive Toml where
  | text (value : String)
  | int (value : Int)
  | float (value : FloatingPoint)
  | bool (value : Bool)
  /-- A date, a time, or both, as text. -/
  | moment (text : String)
  | list (items : List Toml)
  | table (fields : List (String × Toml))
  deriving Repr

namespace Toml

instance : Inhabited Toml := ⟨.table []⟩

/-- What stands under a name while a document is built. -/
inductive Item where
  | value (value : Toml)
  /-- A table that is only known as part of a path, or by the keys that were set in it with dots, or by
  a line of its own. -/
  | table (isImplicit isDotted : Bool) (fields : List (String × Item))
  /-- Tables under one name, the last of which is still open. -/
  | tables (done : List (List (String × Item))) (last : List (String × Item))

/-- The fields of a table while a document is built. -/
abbrev Fields := Named Item

/-- Changes the table at the end of a path; tables on the way that are missing are made. With dots a
table that has a line of its own cannot be entered. The change learns whether the table was made with
dots. -/
def within (dotted : Bool) (change : Bool → Fields → Option Fields) :
    Bool → List String → Fields → Option Fields
  | isDotted, [], fields => change isDotted fields
  | _, key :: path, fields =>
    match fields.lookup key with
    -- A missing table is made on the way, and is known only as a part of this path.
    | none =>
      (within dotted change dotted path []).map fun inner =>
        Named.put key (.table true dotted inner) fields
    | some (.value _) => none
    -- Of several tables under a name a path enters the last one, which is still open.
    | some (.tables done last) =>
      (within dotted change false path last).map fun inner =>
        Named.put key (.tables done inner) fields
    | some (.table isImplicit isDotted inner) =>
      -- A table with a line of its own is finished, as far as dots are concerned.
      if dotted && !isImplicit then none
      else
        (within dotted change isDotted path inner).map fun inner =>
          Named.put key (.table isImplicit isDotted inner) fields

/-- Puts a value under a path of keys in a table. No key is set twice, and dots reach only into tables
that dots have made. -/
def assign (path : List String) (key : String) (value : Toml) : Fields → Option Fields :=
  within true
    (fun isDotted fields =>
      -- The last table must have been made with dots exactly when the key has dots.
      if isDotted == path.isEmpty || (fields.lookup key).isSome then none
      else some (Named.put key (.value value) fields))
    false path

/-- Opens a table with a line of its own. -/
def openTable (path : List String) (key : String) : Fields → Option Fields :=
  within false
    (fun _ fields =>
      match fields.lookup key with
      | none => some (Named.put key (.table false false []) fields)
      -- A table that only a longer path has mentioned may still get its own line, once.
      | some (.table true false inner) => some (Named.put key (.table false false inner) fields)
      | some _ => none)
    false path

/-- Opens the next of several tables under one name. -/
def openNext (path : List String) (key : String) : Fields → Option Fields :=
  within false
    (fun _ fields =>
      match fields.lookup key with
      | none => some (Named.put key (.tables [] []) fields)
      -- The line that was open is closed by the next one under the same name.
      | some (.tables done last) => some (Named.put key (.tables (last :: done) []) fields)
      | some _ => none)
    false path

mutual

/-- The value of an item. -/
def Item.toToml : Item → Toml
  | .value value => value
  | .table _ _ fields => .table (valuesOf fields)
  -- The tables were gathered from the last to the first.
  | .tables done last => .list ((.table (valuesOf last) :: tablesOf done).reverse)

/-- The values of fields. -/
def valuesOf : List (String × Item) → List (String × Toml)
  | [] => []
  | (name, item) :: rest => (name, item.toToml) :: valuesOf rest

/-- The values of several tables. -/
def tablesOf : List (List (String × Item)) → List Toml
  | [] => []
  | fields :: rest => .table (valuesOf fields) :: tablesOf rest

end

end Toml

end UdsCatalog

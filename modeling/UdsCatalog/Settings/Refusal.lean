import UdsCatalog.Files.Tree
import UdsCatalog.Numeral.FloatingPoint
import UdsCatalog.Settings.Basic
import UdsCatalog.Text.Quoted

/-! Why no settings can be made of what the sources say. -/

namespace UdsCatalog.Settings

/-- What a value is, as a message names it. -/
inductive Shape where
  | nothing
  | integer (value : Int)
  | float (value : FloatingPoint)
  | boolean (value : Bool)
  | text (value : String)
  | sequence
  | map
  deriving Repr

/-- The wording of a shape. Finite numbers have a point. -/
def Shape.message : Shape → String
  | .nothing => "unit value"
  | .integer value => "integer \x60" ++ toString value ++ "\x60"
  | .float value =>
    -- Without the point a whole number would look like an integer here.
    let isWhole := match value with
      | .finite number => !number.plainText.toList.contains '.'
      | _ => false
    "floating point \x60" ++ value.plainText ++ (if isWhole then ".0" else "") ++ "\x60"
  | .boolean value => "boolean \x60" ++ (if value then "true" else "false") ++ "\x60"
  | .text value => "string " ++ Text.quoted value
  | .sequence => "sequence"
  | .map => "map"

/-- Why settings cannot be loaded. -/
inductive Refusal where
  /-- A file is no document. -/
  | unreadable (file : Files.Path)
  | notFound (file : Files.Path)
  | notRead (fault : Files.Fault)
  | unknownFormat (file : Files.Path)
  /-- The value of a setting is no text, nor anything that can be shown as one. -/
  | wrongValue (found : Shape) (place : String) (origin : Option Files.Path)
  | wrongGroup (found : Shape) (group : Group)
  deriving Repr

/-- The wording of a refusal. -/
def Refusal.message : Refusal → String
  | .unreadable file => "malformed document in " ++ file.text
  | .notFound file => "configuration file \"" ++ file.text ++ "\" not found"
  | .notRead fault => fault.message
  | .unknownFormat file =>
    "configuration file \"" ++ file.text ++ "\" is not of a registered file format"
  | .wrongValue found place origin =>
    "invalid type: " ++ found.message ++ ", expected a string for key \x60" ++ place ++ "\x60" ++
      -- Values from variables have no file to name.
      match origin with
      | some file => " in " ++ file.text
      | none => ""
  | .wrongGroup found group => "invalid type: " ++ found.message ++ ", expected " ++ group.description

end UdsCatalog.Settings

import UdsCatalog.Catalog.Rejection
import UdsCatalog.Files.Tree
import UdsCatalog.Json.Fault
import UdsCatalog.Record.Malformed
import UdsCatalog.Schema.Violation
import UdsCatalog.Template.Library

/-! Everything that can go wrong between the definition files and the generated code. -/

namespace UdsCatalog

/-- A file or directory that the program looks for. -/
inductive Resource where
  | definition
  | schema
  | template
  | outputDirectory
  deriving DecidableEq, Repr

/-- The wording of a resource. -/
def Resource.message : Resource → String
  | .definition => "definition file"
  | .schema => "schema file"
  | .template => "template file"
  | .outputDirectory => "output directory"

/-- Why a document is not the table that is wanted. -/
inductive Unreadable where
  | text (fault : Json.Fault)
  | shape (malformed : Record.Malformed)
  deriving Repr

/-- The wording of an unreadable document. -/
def Unreadable.message : Unreadable → String
  | .text fault => fault.message
  | .shape malformed => malformed.message

/-- What can go wrong. -/
inductive Failure where
  | missing (resource : Resource) (path : Files.Path)
  | violations (path : Files.Path) (found : List Schema.Violation)
  | invalidSchema (path : Files.Path) (reason : String)
  | rejected (rejection : Rejection)
  | emptyClass (name : String)
  | templateName (path suffix : String)
  | record (path : Files.Path) (unreadable : Unreadable)
  | files (fault : Files.Fault)
  /-- A document that belongs to the program itself is no document. -/
  | document (fault : Json.Fault)
  | template (failure : Template.Failure)
  deriving Repr

namespace Failure

/-- The wording of a failure. -/
def message : Failure → String
  | .missing resource path => resource.message ++ " does not exist: " ++ path.text
  | .violations path found =>
    path.text ++ " does not conform to its schema:\n  " ++
      -- One violation a line, indented below the path.
      "\n  ".intercalate (found.map Schema.Violation.message)
  | .invalidSchema path reason => "Invalid schema " ++ path.text ++ ": " ++ reason
  | .rejected rejection => rejection.message
  | .emptyClass name => "Request/response class '" ++ name ++ "' has no items"
  | .templateName path suffix =>
    "Template file name " ++ path ++ " does not end with '" ++ suffix ++ "'"
  | .record path unreadable =>
    "Malformed definition record in " ++ path.text ++ ": " ++ unreadable.message
  | .files fault => "IO error: " ++ fault.message
  | .document fault => "JSON error: " ++ fault.message
  | .template failure => "Template error: " ++ failure.message

/-- The wordings of the causes of a failure, outermost first. -/
def causes : Failure → List String
  -- These wordings are part of the message already, and are told once more as causes.
  | .record _ unreadable => [unreadable.message]
  | .files fault => [fault.message]
  | .document fault => [fault.message]
  | .template failure => failure.message :: failure.causes
  -- The others are where the trouble began.
  | _ => []

/-- A failure with all its causes on one line. -/
def fullMessage (failure : Failure) : String := ": ".intercalate (failure.message :: failure.causes)

end Failure

end UdsCatalog

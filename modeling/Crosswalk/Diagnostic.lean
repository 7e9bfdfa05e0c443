import Crosswalk.Location

/-! What is reported to the reader of a schema: a kind, a message and a place. -/

namespace Crosswalk

inductive ErrorKind
  | configuration
  | pathResolution
  | schemaShape
  | fieldType
  | typeMismatch
  | optionalDowngrade
  | incompleteConstruction
  deriving DecidableEq, Repr

namespace ErrorKind

def all : List ErrorKind :=
  [configuration, pathResolution, schemaShape, fieldType, typeMismatch, optionalDowngrade,
   incompleteConstruction]

def text : ErrorKind → String
  | configuration => "configuration"
  | pathResolution => "path-resolution"
  | schemaShape => "schema-shape"
  | fieldType => "field-type"
  | typeMismatch => "type-mismatch"
  | optionalDowngrade => "optional-downgrade"
  | incompleteConstruction => "incomplete-construction"

def ofText? (s : String) : Option ErrorKind := all.find? (·.text == s)

theorem ofText?_text (k : ErrorKind) : ofText? k.text = some k := by
  cases k <;> decide

end ErrorKind

structure Diagnostic where
  kind : ErrorKind
  message : String
  location : Location := {}
  deriving DecidableEq, Repr

def Diagnostic.toString (d : Diagnostic) : String :=
  d.location.toString ++ ": error[" ++ d.kind.text ++ "]: " ++ d.message

end Crosswalk

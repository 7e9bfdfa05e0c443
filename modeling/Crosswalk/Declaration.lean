import Crosswalk.Linearization
import Crosswalk.Mode
import Crosswalk.OrderedMap
import Crosswalk.TargetPath

/-! Targets declared on classes while a program runs. A decorator checks the paths it is given and appends
them to the class's own record, in which the modes keep the order they came in. A class without a record
shows that of the first class it inherits from that has one. -/

namespace Crosswalk

open Text (CodePoint)

/-- What a decorator may be given: a text, a sequence, or something of another type. -/
inductive Argument
  | text (value : List CodePoint)
  | sequence (items : List Argument)
  | other (type : String)

inductive DeclarationError
  | notPaths (mode : Mode) (type : String)
  | notText
  | badPath (reason : PathError)
  deriving DecidableEq, Repr

def DeclarationError.message : DeclarationError → String
  | notPaths mode type => mode.word ++ "() expects a path or a list of paths, got " ++ type
  | notText => "Only paths are allowed in inter_struct's annotations."
  | badPath reason => reason.message

namespace Argument

/-- A path, checked but kept as it was given. -/
def path : Argument → Except DeclarationError (List CodePoint)
  | text value => (TargetPath.parse value).mapError .badPath |>.map fun _ => value
  | sequence _ | other _ => .error .notText

def paths (mode : Mode) : Argument → Except DeclarationError (List (List CodePoint))
  | text value => (path (text value)).map fun p => [p]
  | sequence items => items.mapM path
  | other type => .error (.notPaths mode type)

end Argument

abbrev TargetRecord := OrderedMap Mode (List (List CodePoint))

def TargetRecord.declare (r : TargetRecord) (mode : Mode) (paths : List (List CodePoint)) :
    TargetRecord :=
  OrderedMap.insert r mode ((OrderedMap.get? r mode).getD [] ++ paths)

abbrev ClassId := Nat

/-- A class knows the order in which it is searched: itself, then all it inherits from. -/
structure LiveClass where
  name : String
  order : List ClassId
  record : Option TargetRecord := none

inductive HierarchyError
  | duplicateBase (name : String)
  | noOrder (names : List String)
  deriving DecidableEq, Repr

def HierarchyError.message : HierarchyError → String
  | duplicateBase name => "duplicate base class " ++ name
  | noOrder names =>
    "Cannot create a consistent method resolution\norder (MRO) for bases " ++
      ", ".intercalate names

/-- All classes, in the order they were made. -/
structure Hierarchy where
  classes : List LiveClass := []

namespace Hierarchy

def get? (h : Hierarchy) (c : ClassId) : Option LiveClass := h.classes[c]?

def nameOf (h : Hierarchy) (c : ClassId) : String := ((h.get? c).map (·.name)).getD ""

def orderOf (h : Hierarchy) (c : ClassId) : List ClassId := ((h.get? c).map (·.order)).getD []

def firstRepeated : List ClassId → Option ClassId
  | [] => none
  | c :: rest => if rest.contains c then some c else firstRepeated rest

/-- Makes a class; it is the one after all that were there. -/
def define (h : Hierarchy) (name : String) (bases : List ClassId) :
    Except HierarchyError Hierarchy :=
  match firstRepeated bases with
  | some c => .error (.duplicateBase (h.nameOf c))
  | none =>
    match Linearization.ofBases (bases.map fun b => (b, h.orderOf b)) with
    | .error conflict => .error (.noOrder (conflict.map h.nameOf))
    | .ok rest => .ok ⟨h.classes ++ [{ name, order := h.classes.length :: rest }]⟩

def ownRecord? (h : Hierarchy) (c : ClassId) : Option TargetRecord := (h.get? c).bind (·.record)

/-- The targets a class shows: the first record in its order. -/
def targets (h : Hierarchy) (c : ClassId) : TargetRecord :=
  ((h.orderOf c).findSome? h.ownRecord?).getD .empty

def declareOn (mode : Mode) (paths : List (List CodePoint)) (c : LiveClass) : LiveClass :=
  { c with record := some ((c.record.getD .empty).declare mode paths) }

/-- Applies a decorator. The record it adds to is the class's own, never an inherited one. -/
def decorate (h : Hierarchy) (c : ClassId) (mode : Mode) (argument : Argument) :
    Except DeclarationError Hierarchy :=
  (argument.paths mode).map fun paths => ⟨h.classes.modify c (declareOn mode paths)⟩

end Hierarchy
end Crosswalk

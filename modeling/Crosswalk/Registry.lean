import Crosswalk.OrderedMap
import Crosswalk.Walk

/-! All schemas of a source tree by their dotted paths, read once. Schemas can be registered under any
path besides. A unit that could not be read is remembered with the reason. -/

namespace Crosswalk

structure Registry where
  marker : String
  schemas : OrderedMap String Schema := .empty
  /-- The units known, with their files where they have one. -/
  units : OrderedMap String (Option Files.Path) := .empty
  broken : OrderedMap String Diagnostic := .empty

namespace Registry

def empty (marker : String) : Registry := { marker }

/-! Units of a tree -/

/-- Whether names stand in order, name by name. -/
def namesLe : List String → List String → Bool
  | [], _ => true
  | _ :: _, [] => false
  | a :: as, b :: bs => if a = b then namesLe as bs else decide (a < b)

/-- A name with its ending, if it has one; a leading dot begins no ending. -/
def stem (name : String) : String :=
  if unitName "" = name then name
  else if name.endsWith ".py" then String.ofList (name.toList.dropLast.dropLast.dropLast) else name

def lastName (names : List String) : String := names.getLast?.getD ""

/-- The names of a file without its ending. -/
def stemmed (names : List String) : List String := names.dropLast ++ [stem (lastName names)]

/-- The dotted path of a file's module, if all its names can be segments. -/
def modulePath? (marker : String) (names : List String) : Option String :=
  let parts := stemmed names
  let parts := if lastName parts = "__init__" then parts.dropLast else parts
  if parts.all fun p => isSegment (Text.codePoints p) then
    some (TargetPath.dotted (marker :: parts))
  else none

/-- The source files below a directory, in order, as names from it. Directories named like files count
as such. -/
def candidates (root : Files.Node) : List (List String) :=
  (root.descendants.filter fun names => (lastName names).endsWith ".py").mergeSort namesLe

def under (root : Files.Path) (names : List String) : Files.Path :=
  ⟨root.anchor, root.parts ++ names⟩

def addUnit (host : Host) (root : Files.Path) (marker : String)
    (units : OrderedMap String Files.Path) (names : List String) :
    Except Files.PathFault (OrderedMap String Files.Path) :=
  match modulePath? marker names with
  | none => .ok units
  | some module => do
    let shadowed ←
      if lastName names = packageEntry then pure false
      else Files.isDirectory? host (under root (stemmed names))
    let entered := (units.get? module).any fun file => file.name = packageEntry
    return if shadowed || entered then units else units.insert module (under root names)

/-- Whether names lead from a directory to another. -/
def isBranch (root : Files.Node) (names : List String) : Bool :=
  (Files.Node.at? names root).any Files.Node.isDirectory

/-- Looks into all directories below one, which needs a path that is not too long for each of them. -/
def scan (host : Host) (root : Files.Path) (n : Files.Node) : Except Files.PathFault Unit :=
  (n.descendants.filter (isBranch n)).forM fun names =>
    (Files.isDirectory? host (under root names)).map fun _ => ()

/-- The units below a directory. A directory wins over a file of its name. -/
def unitsBelow (host : Host) (root : Files.Path) (marker : String) :
    Except Files.PathFault (OrderedMap String Files.Path) := do
  match ← Files.node? host root with
  | some n => do
    scan host root n
    (candidates n).foldlM (addUnit host root marker) .empty
  | none => return .empty

/-! Reading units -/

def addSchema (module : String) (r : Registry) (schema : Schema) : Registry :=
  { r with schemas := r.schemas.insertNew (module ++ "." ++ schema.identifier) schema }

/-- What a unit adds to a registry, and what stops the reading. -/
def addFile (host : Host) (r : Registry) (module : String) (file : Files.Path) :
    Registry × Option Fault :=
  let r := { r with units := r.units.insert module (some file) }
  match SourceUnit.load host file with
  | .error (.stopped fault) => (r, some fault)
  | .error (.reported d) => ({ r with broken := r.broken.insert module d }, none)
  | .ok u =>
    match u.schemas host.interpreter with
    | .error reason => (r, some (.text reason))
    | .ok schemas => (schemas.foldl (addSchema module) r, none)

def addFiles (host : Host) (r : Registry) : List (String × Files.Path) → Registry × Option Fault
  | [] => (r, none)
  | (module, file) :: rest =>
    match addFile host r module file with
    | (r, none) => addFiles host r rest
    | (r, some fault) => (r, some fault)

/-- Reads every unit below a directory. What was read before a stop is kept. -/
def ingest (host : Host) (root : Files.Path) (r : Registry) : Registry × Option Fault :=
  match unitsBelow host root r.marker with
  | .error reason => (r, some (.path reason))
  | .ok units => addFiles host r units.toList

def ofSourceRoot (host : Host) (root : Files.Path) (marker : String) :
    Except Fault Registry :=
  match ingest host root (empty marker) with
  | (r, none) => .ok r
  | (_, some fault) => .error fault

def register (r : Registry) (path : TargetPath) (schema : Schema) : Registry :=
  { r with
    schemas := r.schemas.insert path.toString schema
    units := r.units.insertNew path.modulePath schema.file
    broken := r.broken.erase path.modulePath }

/-! Looking up -/

def paths (r : Registry) : List String := r.schemas.keys

def contains (r : Registry) (path : TargetPath) : Bool := r.schemas.contains path.toString

def resolve (r : Registry) (path : TargetPath) (location : Location := {}) :
    Except Failure Schema :=
  let module := path.modulePath
  if path.root ≠ r.marker then
    .error ((ResolutionProblem.foreignRoot r.marker path).failure location)
  else match r.broken.get? module with
    | some d => .error (.reported { d with location })
    | none =>
      match r.units.get? module with
      | none => .error ((ResolutionProblem.noUnit module path).failure location)
      | some file =>
        match r.schemas.get? path.toString with
        | some schema => .ok schema
        | none =>
          let place := (file.map Files.Path.toString).getD module
          .error ((ResolutionProblem.noSchema path.identifier place).failure location)

end Registry
end Crosswalk

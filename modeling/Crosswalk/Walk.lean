import Crosswalk.SourceUnit
import Crosswalk.TargetPath

/-! Finding a schema by walking the source tree anew for every path. Each module of the path is a
directory, or else a file that ends the walk; a directory at the end stands for its entry file. -/

namespace Crosswalk

/-- The file that stands for a directory. -/
def packageEntry : String := "__init__.py"

/-- The file of a module that is no directory. -/
def unitName (segment : String) : String := segment ++ ".py"

inductive ResolutionProblem
  | foreignRoot (marker : String) (path : TargetPath)
  | noFile (file : Files.Path) (path : TargetPath)
  | noUnit (module : String) (path : TargetPath)
  | noSchema (identifier place : String)
  deriving DecidableEq, Repr

def ResolutionProblem.message : ResolutionProblem → String
  | foreignRoot marker path =>
    "inter_struct only supports paths in the current '" ++ marker ++ ".' space for now, got " ++
      Text.quoted path.toString ++ "."
  | noFile file path =>
    "Failed to open file: " ++ Text.quoted file.toString ++ " while resolving " ++
      Text.quoted path.toString
  | noUnit module path =>
    "Failed to open file: no source unit for module " ++ Text.quoted module ++
      " while resolving " ++ Text.quoted path.toString
  | noSchema identifier place =>
    "Didn't find schema " ++ identifier ++ " in file " ++ Text.quoted place

def ResolutionProblem.failure (p : ResolutionProblem) (location : Location) : Failure :=
  .reported ⟨.pathResolution, p.message, location⟩

structure Walk where
  root : Files.Path
  marker : String

namespace Walk

/-- Goes down the modules from a directory or a file. -/
def descend (host : Host) (path : TargetPath) :
    Files.Path → List String → Except Files.PathFault (Except ResolutionProblem Files.Path)
  | here, [] => .ok (.ok here)
  | here, segment :: rest => do
    if ← Files.isFile? host here then return .error (.noFile (here.child segment) path)
    else if ← Files.isDirectory? host (here.child segment) then
      descend host path (here.child segment) rest
    else if ← Files.isFile? host (here.child (unitName segment)) then
      descend host path (here.child (unitName segment)) rest
    else return .error (.noFile (here.child (unitName segment)) path)

/-- The file that should hold the schema of a path. -/
def unitPath (w : Walk) (host : Host) (path : TargetPath) :
    Except Files.PathFault (Except ResolutionProblem Files.Path) := do
  match ← descend host path w.root path.modules with
  | .error problem => return .error problem
  | .ok file =>
    if ← Files.isDirectory? host file then return .ok (file.child packageEntry)
    else return .ok file

def locate (w : Walk) (host : Host) (path : TargetPath) (location : Location := {}) :
    Except Failure Files.Path := do
  match ← ofPathFault (w.unitPath host path) with
  | .ok file => return file
  | .error problem => .error (problem.failure location)

def resolve (w : Walk) (host : Host) (path : TargetPath) (location : Location := {}) :
    Except Failure Schema := do
  if path.root ≠ w.marker then .error ((ResolutionProblem.foreignRoot w.marker path).failure location)
  else
    let file ← w.locate host path location
    let u ← SourceUnit.load host file location
    match ← ofTextFault (u.find? host.interpreter path.identifier) with
    | some schema => return schema
    | none => .error ((ResolutionProblem.noSchema path.identifier file.toString).failure location)

end Walk
end Crosswalk

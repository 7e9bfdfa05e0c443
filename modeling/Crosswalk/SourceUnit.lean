import Crosswalk.Host
import Crosswalk.Schema
import Crosswalk.Text.Utf8

/-! Source files read as units: the classes at their top level, in order. A file that cannot be opened,
decoded or read gives a diagnostic. A request fails as a whole only over a path that means nothing to the
file system, over a type that has no text, or over a text that the interpreter cannot cope with. -/

namespace Crosswalk

open Code (ClassDeclaration Interpreter Statement TextFault)

/-- What stops a request without a diagnostic. -/
inductive Fault
  | path (reason : Files.PathFault)
  | text (reason : TextFault)
  deriving DecidableEq, Repr

/-- Why there is no answer: a diagnostic tells it, or the request is stopped. -/
inductive Failure
  | reported (diagnostic : Diagnostic)
  | stopped (fault : Fault)
  deriving DecidableEq, Repr

def ofPathFault {α : Type} (r : Except Files.PathFault α) : Except Failure α :=
  r.mapError fun e => .stopped (.path e)

def ofTextFault {α : Type} (r : Except TextFault α) : Except Failure α :=
  r.mapError fun e => .stopped (.text e)

structure SourceUnit where
  path : Files.Path
  classes : List ClassDeclaration

inductive UnitProblem
  | unreadable
  | unopened (reason : Files.FileError)
  deriving DecidableEq, Repr

/-- What is wrong with the text of an unreadable file is not told. -/
def UnitProblem.message (p : Files.Path) : UnitProblem → String
  | unreadable => "Failed to parse file " ++ Text.quoted p.toString ++ ": <parse error>"
  | unopened reason =>
    "Failed to open file: " ++ Text.quoted p.toString ++ " (" ++ reason.message p ++ ")"

namespace SourceUnit

def ofBytes? (i : Interpreter) (path : Files.Path) (bytes : List UInt8) :
    Except TextFault (Option SourceUnit) :=
  match Text.Utf8.decode? bytes with
  | none => .ok none
  | some text => (i.statements? (String.ofList text)).map <| Option.map fun statements =>
    ⟨path, statements.filterMap Statement.record?⟩

def read (host : Host) (path : Files.Path) : Except Fault (Except UnitProblem SourceUnit) := do
  match ← (Files.read host path).mapError .path with
  | .error reason => return .error (.unopened reason)
  | .ok bytes =>
    match ← (ofBytes? host.interpreter path bytes).mapError .text with
    | some u => return .ok u
    | none => return .error .unreadable

/-- Reads a file, or reports why it cannot be read. -/
def load (host : Host) (path : Files.Path) (location : Location := {})
    (kind : ErrorKind := .pathResolution) : Except Failure SourceUnit := do
  match ← (read host path).mapError .stopped with
  | .ok u => return u
  | .error problem => .error (.reported ⟨kind, problem.message path, location⟩)

def schemas (i : Interpreter) (u : SourceUnit) : Except TextFault (List Schema) :=
  u.classes.mapM (Schema.ofClass i · (some u.path))

/-- The schema of the first class of a name. -/
def find? (i : Interpreter) (u : SourceUnit) (identifier : String) :
    Except TextFault (Option Schema) :=
  match u.classes.find? (·.name == identifier) with
  | some d => some <$> Schema.ofClass i d (some u.path)
  | none => .ok none

end SourceUnit
end Crosswalk

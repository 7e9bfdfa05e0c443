import Crosswalk.Mode
import Crosswalk.Schema
import Crosswalk.TargetPath

/-! The decorators of a class that request mappings, each with a mode and the paths of its targets. A
decorator that asks in a wrong way gives a diagnostic instead; a wrong path is left out, with a diagnostic
where it stands. All other decorators count for nothing. -/

namespace Crosswalk

open Code (Expr)

structure Request where
  mode : Mode
  paths : List TargetPath
  location : Location := {}

namespace Request

/-- The name that may qualify a decorator. -/
def package : String := "inter_struct"

inductive Problem
  | usage
  | notText
  | badPath (reason : PathError)
  deriving DecidableEq, Repr

def Problem.message : Problem → String
  | usage => "inter_struct's annotation parameters should be either a single path "
      ++ "or a list of paths as str, such as '[\"crate.your.path\"]'."
  | notText => "Only paths are allowed in inter_struct's annotations."
  | badPath reason =>
    "Only paths are allowed in inter_struct's annotations: " ++ reason.message

def Problem.diagnostic (p : Problem) (location : Location) : Diagnostic :=
  ⟨.configuration, p.message, location⟩

/-- The mode a name stands for, alone or in the package. -/
def modeOf? : Expr → Option Mode
  | .name _ id => Mode.ofWord? id.text
  | .member _ (.name _ owner) id => if owner.text = package then Mode.ofWord? id.text else none
  | _ => none

/-- The mode of a decorator, called or not. -/
def decoratorMode? : Expr → Option Mode
  | .call _ callee _ _ => modeOf? callee
  | e => modeOf? e

/-- The elements a decorator names; none if it is not called with one constant or one sequence. -/
def elements? : Expr → Option (List Expr)
  | .call _ _ [.constant p value] [] => some [.constant p value]
  | .call _ _ [.list _ elements] [] => some elements
  | .call _ _ [.tuple _ elements] [] => some elements
  | _ => none

def path : Expr → Except Problem TargetPath
  | .constant _ (.text text _) => (TargetPath.parse text).mapError .badPath
  | _ => .error .notText

def elementError? (file : Option Files.Path) (element : Expr) : Option Diagnostic :=
  match path element with
  | .ok _ => none
  | .error problem => some (problem.diagnostic (Location.ofPosition element.position file))

def ofElements (mode : Mode) (location : Location) (elements : List Expr) : Request :=
  ⟨mode, elements.filterMap fun e => (path e).toOption, location⟩

/-- What one decorator adds: a request, or diagnostics, or both, or nothing. -/
def ofDecorator (file : Option Files.Path) (decorator : Expr) :
    Option Request × List Diagnostic :=
  match decoratorMode? decorator with
  | none => (none, [])
  | some mode =>
    let location := Location.ofPosition decorator.position file
    match elements? decorator with
    | none => (none, [Problem.usage.diagnostic location])
    | some elements =>
      (some (ofElements mode location elements), elements.filterMap (elementError? file))

def ofDecorators (file : Option Files.Path) (decorators : List Expr) :
    List Request × List Diagnostic :=
  let found := decorators.map (ofDecorator file)
  (found.filterMap (·.1), found.flatMap (·.2))

end Request

def Schema.requests (s : Schema) : List Request × List Diagnostic :=
  Request.ofDecorators s.file s.decorators

end Crosswalk

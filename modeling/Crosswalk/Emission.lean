import Crosswalk.Naming
import Crosswalk.Plan

/-! The functions that carry out plans, as small programs and as their text. A construction passes field
values to the target's class; an update stores them one after the other, under the conditions its actions
have. -/

namespace Crosswalk.Emission

/-- What is stored: a field of the source, a copy of it, or the value bound before. -/
inductive Operand
  | field (name : String)
  | copy (name : String)
  | bound
  deriving DecidableEq, Repr

inductive Condition
  | absent (target : String)
  | present (source : String)
  deriving DecidableEq, Repr

inductive Instruction
  | bind (value : Operand)
  | store (target : String) (value : Operand)
  | storeIf (conditions : List Condition) (target : String) (value : Operand)
  deriving DecidableEq, Repr

inductive Body
  | construct (defaulted : List String) (identifier : String) (arguments : List (String × String))
  | update (instructions : List Instruction)
  deriving DecidableEq, Repr

structure Function where
  name : String
  body : Body
  deriving DecidableEq, Repr

/-- A plan as it is written: remarks, and a function unless its schemas are bad. -/
structure EmittedPlan where
  remarks : List String
  function : Option Function
  deriving DecidableEq, Repr

/-! From plans to functions -/

def leadingWord : Mode → String
  | .into => "into"
  | .intoDefault => "into_default"
  | .merge => "merge_into"
  | .mergeRef => "merge_into_ref"

def functionName (p : Plan) : String :=
  leadingWord p.mode ++ "_" ++ Naming.snakeCase p.target.identifier ++
    (if p.soft then "_soft" else "")

def operand (a : FieldAction) : Operand := if a.clone then .copy a.source else .field a.source

def conditions (a : FieldAction) : List Condition :=
  (if a.onlyIfAbsent then [.absent a.target] else []) ++
    (if a.kind = .unwrapIfPresent then [.present a.source] else [])

/-- An eager clone is made before its conditions are looked at. -/
def instructions (a : FieldAction) : List Instruction :=
  if a.eagerClone then [.bind (operand a), .storeIf (conditions a) a.target .bound]
  else if (conditions a).isEmpty then [.store a.target (operand a)]
  else [.storeIf (conditions a) a.target (operand a)]

def body (p : Plan) : Body :=
  if p.mode.isMerge then .update (p.actions.flatMap instructions)
  else .construct (if p.mode = .intoDefault then p.uncovered else []) p.target.identifier
    (p.actions.map fun a => (a.target, a.source))

def EmittedPlan.ofPlan (p : Plan) : EmittedPlan where
  remarks := p.toString :: p.errors.map Diagnostic.toString
  function := if p.shapeValid then some ⟨functionName p, body p⟩ else none

/-! Text -/

def indent : String := "    "

def Operand.text : Operand → String
  | field name => "source." ++ name
  | copy name => "copy.deepcopy(source." ++ name ++ ")"
  | bound => "value"

def Condition.text : Condition → String
  | absent target => "target." ++ target ++ " is None"
  | present source => "source." ++ source ++ " is not None"

def Instruction.lines : Instruction → List String
  | bind value => [indent ++ "value = " ++ value.text]
  | store target value => [indent ++ "target." ++ target ++ " = " ++ value.text]
  | storeIf conditions target value =>
    [indent ++ "if " ++ " and ".intercalate (conditions.map Condition.text) ++ ":",
     indent ++ indent ++ "target." ++ target ++ " = " ++ value.text]

def Body.lines : Body → List String
  | construct defaulted identifier arguments =>
    (if defaulted.isEmpty then []
      else [indent ++ "# Left to " ++ identifier ++ "'s defaults: " ++ ", ".intercalate defaulted])
    ++ [indent ++ "return " ++ identifier ++ "("]
    ++ arguments.map (fun (target, source) =>
      indent ++ indent ++ target ++ "=source." ++ source ++ ",")
    ++ [indent ++ ")"]
  | update [] => [indent ++ "pass"]
  | update instructions => instructions.flatMap Instruction.lines

def Body.parameters : Body → String
  | construct .. => "(source)"
  | update _ => "(source, target)"

def Function.lines (f : Function) : List String :=
  ("def " ++ f.name ++ f.body.parameters ++ ":") :: f.body.lines

def EmittedPlan.lines (u : EmittedPlan) : List String :=
  u.remarks.map ("# " ++ ·) ++ ((u.function.map Function.lines).getD [])

def EmittedPlan.text (u : EmittedPlan) : String := "\n".intercalate u.lines ++ "\n"

def render (p : Plan) : String := (EmittedPlan.ofPlan p).text

def needsCopy (plans : List Plan) : Bool := plans.any fun p => p.actions.any (·.clone)

/-- All plans in one text, under the import that copies need. -/
def renderModule (plans : List Plan) : String :=
  "\n\n".intercalate ((if needsCopy plans then ["import copy\n"] else []) ++ plans.map render)

end Crosswalk.Emission

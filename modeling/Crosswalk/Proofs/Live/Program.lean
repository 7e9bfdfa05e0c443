import Crosswalk.Proofs.Emission.Reading
import Crosswalk.Proofs.Live.Objects
import Crosswalk.Proofs.Plan.Synthesis

/-! How an emitted function runs, once its text is read. Its statements run one after the other and see the two
objects, a value bound before, and the means to copy if the module has imported them; fields are attributes. -/

namespace Crosswalk.Emission

open Live

/-- Why a call of an emitted function ends early. -/
inductive CallError
  | unreadable
  | unbound (name : String)
  | badArguments
  | live (reason : LiveError)
  deriving DecidableEq, Repr

abbrev Call (α : Type) := ExceptT CallError (StateM Store) α

/-- What the statements of a function see. -/
structure Scope where
  imported : Bool
  source : ObjectId
  target : ObjectId
  value : Option Value := none

def perform {α : Type} (x : Step α) : Call α := x.adapt .live

/-- Whether the fields of an object are its attributes; those of a mapping are not. -/
def hasAttributes : RecordKind → Bool
  | .extensible | .validated | .fixed => true
  | .dictionary | .readOnly => false

def needAttributes (o : ObjectId) : Call Unit := do
  if hasAttributes (← perform (record o)).kind then return
  else throw (.live (.access .missingAttribute))

def getAttribute (o : ObjectId) (name : String) : Call Value := do
  needAttributes o
  perform (read o name)

def setAttribute (o : ObjectId) (name : String) (v : Value) : Call Unit := do
  needAttributes o
  perform (write o name v)

/-- The function that copies is looked up before its argument is. -/
def Operand.eval (c : Scope) : Operand → Call Value
  | field name => getAttribute c.source name
  | copy name => do
    if ¬ c.imported then throw (.unbound "copy")
    perform (deepCopy (← getAttribute c.source name))
  | bound =>
    match c.value with
    | some v => return v
    | none => throw (.unbound "value")

def Condition.holds (c : Scope) : Condition → Call Bool
  | absent target => return (← getAttribute c.target target).isNone
  | present source => return !(← getAttribute c.source source).isNone

/-- The first condition that fails decides. -/
def allHold (c : Scope) : List Condition → Call Bool
  | [] => return true
  | condition :: rest => do
    if ← condition.holds c then allHold c rest else return false

/-- Runs one statement; what is seen after it is returned. -/
def Instruction.run (c : Scope) : Instruction → Call Scope
  | bind value => return { c with value := some (← value.eval c) }
  | store target value => do
    setAttribute c.target target (← value.eval c)
    return c
  | storeIf conditions target value => do
    if ← allHold c conditions then setAttribute c.target target (← value.eval c)
    return c

def runAll (c : Scope) : List Instruction → Call Scope
  | [] => return c
  | i :: rest => do runAll (← i.run c) rest

/-- Reads the text of a plan, in a module of that plan alone, and calls its function with two objects. -/
def callUpdate (p : Plan) (source target : ObjectId) : Call Unit :=
  match (EmittedPlan.ofPlan p).function with
  | some ⟨_, .update instructions⟩ => do
    if ¬ (EmittedPlan.ofPlan p).ReadableUpdate then throw .unreadable
    let _ ← runAll ⟨needsCopy [p], source, target, none⟩ (instructions.map Instruction.asRead)
  | some ⟨_, .construct ..⟩ => throw .badArguments
  | none => throw (.unbound (functionName p))

/-! What statements do where fields are attributes -/

theorem run_perform {α : Type} (x : Step α) (s : Store) :
    (perform x).run.run s = ((x.run.run s).1.mapError .live, (x.run.run s).2) := by
  unfold perform
  simp only [ExceptT.run_adapt, StateT.run_map]
  cases x.run.run s
  rfl

/-- An object is there and its fields are attributes. -/
def IsAttributed (s : Store) (o : ObjectId) : Prop :=
  ∃ r, s.object? o = some r ∧ hasAttributes r.kind = true

theorem isObject_of_isAttributed (s : Store) (o : ObjectId) (h : IsAttributed s o) : s.IsObject o := by
  obtain ⟨r, hr, -⟩ := h
  exact ⟨r, hr⟩

theorem run_needAttributes (o : ObjectId) (s : Store) (h : IsAttributed s o) :
    (needAttributes o).run.run s = (.ok (), s) := by
  obtain ⟨r, hr, hkind⟩ := h
  unfold needAttributes record
  simp only [run_bind, run_perform, run_get, hr, run_pure, mapError_ok, hkind, if_true]

theorem run_getAttribute (o : ObjectId) (name : String) (s : Store) (h : IsAttributed s o) :
    (getAttribute o name).run.run s = ((s.field o name).mapError .live, s) := by
  unfold getAttribute
  rw [run_bind, run_needAttributes o s h]
  simp only [run_perform, run_read]

theorem run_setAttribute (o : ObjectId) (name : String) (v : Value) (s : Store)
    (h : IsAttributed s o) :
    (setAttribute o name v).run.run s = (perform (write o name v)).run.run s := by
  unfold setAttribute
  rw [run_bind, run_needAttributes o s h]

end Crosswalk.Emission

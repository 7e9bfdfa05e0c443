import Crosswalk.Live.Class
import Crosswalk.Plan

/-! Carrying out plans on live objects. An update runs its actions one after the other; where one fails,
those before it have had their effect. A construction gathers the values of its fields first. -/

namespace Crosswalk.Live

/-- Whether the target's field keeps its value; it is looked at only if the action asks for absence. -/
def isKept (a : FieldAction) (target : ObjectId) : Step Bool :=
  if a.onlyIfAbsent then do return !(← read target a.target).isNone else return false

def copyIf (needed : Bool) (v : Value) : Step Value := if needed then deepCopy v else return v

/-- One step of an update. -/
def applyAction (a : FieldAction) (source target : ObjectId) : Step Unit := do
  let value ← read source a.source
  let value ← copyIf a.eagerClone value
  if ← isKept a target then return
  if a.kind = .unwrapIfPresent ∧ value.isNone = true then return
  let value ← copyIf (a.clone && !a.eagerClone) value
  write target a.target value

def applyActions (source target : ObjectId) : List FieldAction → Step Unit
  | [] => return
  | a :: rest => do
    applyAction a source target
    applyActions source target rest

def gather (source : ObjectId) (values : OrderedMap String Value) :
    List FieldAction → Step (OrderedMap String Value)
  | [] => return values
  | a :: rest => do
    let v ← read source a.source
    gather source (values.insert a.target v) rest

/-! Plans -/

/-- Why a plan is not carried out, or not to its end. -/
inductive RunError
  | needsConstruction (mode : Mode)
  | needsMerge (mode : Mode)
  | invalid (problems : List Diagnostic)
  | live (reason : LiveError)
  deriving DecidableEq, Repr

def ensureValid (p : Plan) : Except RunError Unit :=
  if p.problems.isEmpty then .ok () else .error (.invalid p.problems)

def Step.after {α : Type} (check : Except RunError Unit) (step : Step α) (s : Store) :
    Except RunError α × Store :=
  match check with
  | .error e => (.error e, s)
  | .ok () =>
    let (result, s) := step.run.run s
    (result.mapError .live, s)

def checkMerge (p : Plan) : Except RunError Unit :=
  if p.mode.isMerge then ensureValid p else .error (.needsMerge p.mode)

def checkConstruction (p : Plan) : Except RunError Unit :=
  if p.mode.isMerge then .error (.needsConstruction p.mode) else ensureValid p

/-- Updates a target in place, and returns it. -/
def mergeInto (p : Plan) (source target : ObjectId) (s : Store) :
    Except RunError ObjectId × Store :=
  Step.after (checkMerge p) (do
    applyActions source target p.actions
    return target) s

/-- Makes a new object of a class. -/
def convert (p : Plan) (source : ObjectId) (c : RecordClass) (s : Store) :
    Except RunError ObjectId × Store :=
  Step.after (checkConstruction p) (do c.build (← gather source .empty p.actions)) s

end Crosswalk.Live

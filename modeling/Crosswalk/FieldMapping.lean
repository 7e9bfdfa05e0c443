import Crosswalk.Mode
import Crosswalk.Optionality

/-! How one field of a source becomes one field of a target. What is done depends on the variant and on
which sides are optional: a value may be wrapped, but an optional is not unwrapped unless an update may
skip it, or the target's default may stand in. -/

namespace Crosswalk

inductive ActionKind
  | assign
  | wrap
  | passThrough
  | unwrapIfPresent
  deriving DecidableEq, Repr

def ActionKind.text : ActionKind → String
  | assign => "assign"
  | wrap => "wrap"
  | passThrough => "pass-through"
  | unwrapIfPresent => "unwrap-if-present"

/-- One step of a plan. An eager clone is made even if the target turns out to be present. -/
structure FieldAction where
  source : String
  target : String
  kind : ActionKind
  clone : Bool := false
  onlyIfAbsent : Bool := false
  eagerClone : Bool := false
  deriving DecidableEq, Repr

inductive FieldOutcome
  | act (action : FieldAction)
  | fail (errors : List Diagnostic)
  | skip
  deriving DecidableEq, Repr

namespace FieldOutcome

def action? : FieldOutcome → Option FieldAction
  | act a => some a
  | fail _ | skip => none

def errors : FieldOutcome → List Diagnostic
  | fail errors => errors
  | act _ | skip => []

def isSkip : FieldOutcome → Bool
  | skip => true
  | act _ | fail _ => false

end FieldOutcome

structure FieldPair where
  source : Field
  target : Field

inductive MappingProblem
  | mismatch (source : TypeExpr) (target : TypeExpr)
  | downgrade

namespace FieldPair

def verb (mode : Mode) : String := if mode.isMerge then "merged" else "converted"

def report (pair : FieldPair) (mode : Mode) : MappingProblem → Diagnostic
  | .mismatch source target =>
    ⟨.typeMismatch, "Type '" ++ source.text ++ "' cannot be " ++ verb mode ++ " into field '" ++
      pair.target.name ++ "' of type '" ++ target.text ++ "'.", pair.source.location⟩
  | .downgrade =>
    ⟨.optionalDowngrade, "inter_struct cannot put an optional into a non-optional value (" ++
      mode.title ++ "): '" ++ pair.source.name ++ ": " ++ pair.source.type.text ++ "' into '" ++
      pair.target.name ++ ": " ++ pair.target.type.text ++ "'.", pair.source.location⟩

def act (pair : FieldPair) (v : Variant) (kind : ActionKind) (eager : Bool := false) :
    FieldOutcome :=
  .act {
    source := pair.source.name
    target := pair.target.name
    kind
    clone := v.mode.clones
    onlyIfAbsent := v.soft
    eagerClone := eager && v.mode.clones && v.soft }

def reject (pair : FieldPair) (v : Variant) (problem : MappingProblem) : FieldOutcome :=
  .fail [pair.report v.mode problem]

/-- An optional into a plain field. A soft update leaves plain fields alone, and a construction with
defaults can do without the value. -/
def demote (pair : FieldPair) (v : Variant) : FieldOutcome :=
  if v.soft ∨ v.mode = .intoDefault then .skip else pair.reject v .downgrade

/-- One optional too many. An update that copies or is soft takes the inner value if it is there. -/
def unwrap (pair : FieldPair) (v : Variant) : FieldOutcome :=
  if v.soft ∨ v.mode = .mergeRef then pair.act v .unwrapIfPresent
  else if v.mode = .intoDefault then .skip
  else pair.reject v .downgrade

/-- Both sides optional: the first agreement decides, of the inner types, of the source's inner type
with the whole target, of the whole source with the target's inner type. -/
def mapOptionals (pair : FieldPair) (v : Variant) (inner outer inner' outer' : TypeExpr) :
    FieldOutcome :=
  if inner.same inner' then pair.act v .passThrough
  else if inner.same outer' then pair.unwrap v
  else if outer.same inner' then pair.act v .wrap true
  else pair.reject v (.mismatch outer outer')

def map (pair : FieldPair) (v : Variant) : FieldOutcome :=
  let source := Optionality.classify pair.source.type pair.source.location
  let target := Optionality.classify pair.target.type pair.target.location
  match source, target with
  | .invalid d, .invalid e => .fail [d, e]
  | .invalid d, _ => .fail [d]
  | _, .invalid e => .fail [e]
  | .plain a, .plain b =>
    if ¬ a.same b then pair.reject v (.mismatch a b)
    else if v.soft then .skip
    else pair.act v .assign
  | .optional .., .plain _ => pair.demote v
  | .plain a, .optional inner _ =>
    if a.same inner then pair.act v .wrap else pair.reject v (.mismatch a pair.target.type)
  | .optional inner outer, .optional inner' outer' => pair.mapOptionals v inner outer inner' outer'

end FieldPair
end Crosswalk

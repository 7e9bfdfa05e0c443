import Crosswalk.OrderedMap

/-! Values of a running program, and objects with named fields. Scalars are what they are; all else is a cell
with an identity, so that two fields can hold the very same list. Kinds of objects differ in how a field that
is not there is told, and in which fields may be written. -/

namespace Crosswalk.Live

abbrev Address := Nat

inductive Scalar
  | none
  | boolean (value : Bool)
  | integer (value : Int)
  | decimal (digits : Int) (scale : Nat)
  | text (value : String)
  deriving DecidableEq, Repr

inductive Value
  | scalar (value : Scalar)
  | ref (address : Address)
  deriving DecidableEq, Repr

def Value.none : Value := scalar .none

def Value.isNone (v : Value) : Bool := v = .none

inductive RecordKind
  /-- Any key can be written. -/
  | dictionary
  /-- Keys can be read only. -/
  | readOnly
  /-- A field that is not there is made by writing it. -/
  | extensible
  /-- Only the declared fields can be written, and others are refused as invalid. -/
  | validated
  /-- Only the declared fields are there at all. -/
  | fixed
  deriving DecidableEq, Repr

inductive AccessError
  | missingKey (key : String)
  | missingAttribute
  | invalidField
  | invalidValue
  deriving DecidableEq, Repr

/-- Single fields may refuse to be written, as those of frozen objects do, each in its own way. -/
structure Record where
  kind : RecordKind
  fields : OrderedMap String Value
  refusals : List (String × AccessError) := []
  deriving DecidableEq, Repr

namespace Record

/-- An object whose fields may be written as far as its kind lets them. -/
def plain (kind : RecordKind) (fields : List (String × Value)) : Record where
  kind := kind
  fields := ⟨fields⟩

def missing (kind : RecordKind) (name : String) : AccessError :=
  match kind with
  | .dictionary | .readOnly => .missingKey name
  | .extensible | .validated | .fixed => .missingAttribute

def get (r : Record) (name : String) : Except AccessError Value :=
  match r.fields.get? name with
  | some v => .ok v
  | none => .error (missing r.kind name)

/-- Whether objects of a kind let a field be written, and how they refuse it. -/
def checkKind (r : Record) (name : String) : Except AccessError Unit :=
  match r.kind with
  | .dictionary | .extensible => .ok ()
  | .readOnly => .error .missingAttribute
  | .validated => if r.fields.contains name then .ok () else .error .invalidField
  | .fixed => if r.fields.contains name then .ok () else .error .missingAttribute

def checkWrite (r : Record) (name : String) : Except AccessError Unit :=
  match r.refusals.lookup name with
  | some e => .error e
  | none => r.checkKind name

/-- The object with a field written. -/
def put (r : Record) (name : String) (v : Value) : Record :=
  { r with fields := r.fields.insert name v }

def set (r : Record) (name : String) (v : Value) : Except AccessError Record :=
  (r.checkWrite name).map fun _ => r.put name v

theorem get_put (r : Record) (name other : String) (v : Value) :
    (r.put name v).get other = if name = other then .ok v else r.get other := by
  unfold put get
  rw [OrderedMap.get?_insert]
  by_cases hn : name = other <;> simp [hn]

theorem put_kind (r : Record) (name : String) (v : Value) : (r.put name v).kind = r.kind := rfl

theorem put_refusals (r : Record) (name : String) (v : Value) :
    (r.put name v).refusals = r.refusals := rfl

theorem contains_put (r : Record) (name other : String) (v : Value) :
    (r.put name v).fields.contains other = true ↔ name = other ∨ r.fields.contains other = true :=
  OrderedMap.contains_insert r.fields name other v

theorem checkWrite_put_of_ne (r : Record) (name other : String) (v : Value) (hne : name ≠ other) :
    (r.put name v).checkWrite other = r.checkWrite other := by
  have hcontains : (r.put name v).fields.contains other = r.fields.contains other := by
    rw [Bool.eq_iff_iff, contains_put, or_iff_right hne]
  unfold checkWrite checkKind
  rw [put_kind, put_refusals, hcontains]

theorem checkWrite_put (r : Record) (name other : String) (v : Value)
    (h : r.checkWrite other = .ok ()) : (r.put name v).checkWrite other = .ok () := by
  by_cases hne : name = other
  · have hcontains := (contains_put r name other v).mpr (.inl hne)
    unfold checkWrite checkKind at h ⊢
    rw [put_kind, put_refusals, hcontains]
    cases hrefusal : r.refusals.lookup other with
    | some e => simp [hrefusal] at h
    | none => cases hkind : r.kind <;> simp_all
  · rw [checkWrite_put_of_ne r name other v hne, h]

end Record
end Crosswalk.Live

import Crosswalk.Diagnostic

/-! A collection of diagnostics in the order they came, each kept once. The main facts: extending by a
list appends what is new in it, and extending twice is extending by both lists. -/

namespace Crosswalk

structure Diagnostics where
  toList : List Diagnostic
  nodup : toList.Nodup

namespace Diagnostics

def empty : Diagnostics := ⟨[], List.nodup_nil⟩

def add (ds : Diagnostics) (d : Diagnostic) : Diagnostics :=
  if h : d ∈ ds.toList then ds
  else ⟨ds.toList ++ [d], by
    refine List.nodup_append.2 ⟨ds.nodup, by simp, ?_⟩
    intro a ha b hb hab
    simp only [List.mem_singleton] at hb
    exact h (hb ▸ hab ▸ ha)⟩

/-- Adds what is told in parts, and gives it back as a whole. -/
def error (ds : Diagnostics) (kind : ErrorKind) (message : String) (location : Location := {}) :
    Diagnostic × Diagnostics :=
  let d : Diagnostic := ⟨kind, message, location⟩
  (d, ds.add d)

def extend (ds : Diagnostics) (items : List Diagnostic) : Diagnostics := items.foldl add ds

def ofList (items : List Diagnostic) : Diagnostics := empty.extend items

def ofKind (ds : Diagnostics) (kind : ErrorKind) : List Diagnostic :=
  ds.toList.filter (·.kind = kind)

def hasErrors (ds : Diagnostics) : Bool := !ds.toList.isEmpty

def size (ds : Diagnostics) : Nat := ds.toList.length

theorem toList_add (ds : Diagnostics) (d : Diagnostic) :
    (ds.add d).toList = if d ∈ ds.toList then ds.toList else ds.toList ++ [d] := by
  unfold add
  split <;> rfl

theorem add_of_mem (ds : Diagnostics) (d : Diagnostic) (h : d ∈ ds.toList) : ds.add d = ds := by
  simp [add, h]

theorem mem_add (ds : Diagnostics) (d e : Diagnostic) :
    e ∈ (ds.add d).toList ↔ e ∈ ds.toList ∨ e = d := by
  rw [toList_add]
  split
  · exact ⟨Or.inl, fun h => h.elim id fun he => he ▸ ‹_›⟩
  · simp

theorem extend_append (ds : Diagnostics) (xs ys : List Diagnostic) :
    ds.extend (xs ++ ys) = (ds.extend xs).extend ys := List.foldl_append

end Diagnostics

/-- The failure of a request whose answer carries diagnostics. -/
structure ReportedErrors where
  diagnostics : List Diagnostic
  deriving DecidableEq, Repr

def ReportedErrors.message (e : ReportedErrors) : String :=
  "inter_struct errors: " ++ "; ".intercalate (e.diagnostics.map (·.toString))

def Diagnostics.raiseIfErrors (ds : Diagnostics) : Except ReportedErrors Unit :=
  if ds.hasErrors then .error ⟨ds.toList⟩ else .ok ()

end Crosswalk

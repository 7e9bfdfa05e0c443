import Crosswalk.Live.Record

/-! Cells and their deep copies. A deep copy makes what a value leads to anew, each cell once, and fails at a
cell that refuses; what it has counted by then stays counted. Cells with a way of their own to be copied may
keep it from their parts. -/

namespace Crosswalk.Live

/-- Lists, objects, and objects that are copied in their own way: a tracked one counts how often it was, a
shallow one counts too and gives its copy the same items, an atomic one is its own copy, and a fragile one has
none. -/
inductive Cell
  | list (items : List Value)
  | record (object : Record)
  | tracked (copies : Nat) (payload : Value)
  | shallow (copies : Nat) (items : List Value)
  | atomic (items : List Value)
  | fragile
  deriving DecidableEq, Repr

structure Heap where
  cells : List Cell := []
  deriving DecidableEq, Repr

namespace Heap

def get? (h : Heap) (a : Address) : Option Cell := h.cells[a]?

def size (h : Heap) : Nat := h.cells.length

/-- The new cell gets the address after all others. -/
def alloc (h : Heap) (c : Cell) : Heap × Address := (⟨h.cells ++ [c]⟩, h.cells.length)

def set (h : Heap) (a : Address) (c : Cell) : Heap := ⟨h.cells.set a c⟩

theorem get?_alloc_of_lt (h : Heap) (c : Cell) (a : Address) (ha : a < h.size) :
    (h.alloc c).1.get? a = h.get? a := by
  simp [alloc, get?, List.getElem?_append_left ha]

theorem get?_set_of_ne (h : Heap) (a b : Address) (c : Cell) (hab : a ≠ b) :
    (h.set a c).get? b = h.get? b := by
  simp [set, get?, List.getElem?_set_ne hab]

theorem get?_set_self (h : Heap) (a : Address) (c : Cell) (ha : a < h.size) :
    (h.set a c).get? a = some c := List.getElem?_set_self ha

theorem size_set (h : Heap) (a : Address) (c : Cell) : (h.set a c).size = h.size := by
  simp [set, size]

end Heap

/-! Deep copies -/

/-- The only way a copy fails. -/
inductive CopyError
  | refused
  deriving DecidableEq, Repr

/-- The heap, and the cells already copied with their copies. -/
structure CopyState where
  heap : Heap
  copied : List (Address × Address) := []

abbrev Copying (α : Type) := ExceptT CopyError (StateM CopyState) α

/-- Makes the copy of a cell known before its parts are copied, so that parts that lead back find it. -/
def reserve (a : Address) (c : Cell) : Copying Address := do
  let s ← get
  let (heap, b) := s.heap.alloc c
  set { s with heap, copied := (a, b) :: s.copied }
  return b

def fill (b : Address) (c : Cell) : Copying Unit :=
  modify fun s => { s with heap := s.heap.set b c }

def copyItems (copy : Value → Copying Value) : List Value → Copying (List Value)
  | [] => return []
  | v :: rest => do
    let w ← copy v
    return w :: (← copyItems copy rest)

def copyEntries (copy : Value → Copying Value) :
    List (String × Value) → Copying (List (String × Value))
  | [] => return []
  | (k, v) :: rest => do
    let w ← copy v
    return (k, w) :: (← copyEntries copy rest)

def copyCell (copy : Value → Copying Value) (a : Address) : Cell → Copying Address
  | .list items => do
    let b ← reserve a (.list [])
    fill b (.list (← copyItems copy items))
    return b
  | .record r => do
    let b ← reserve a (.record { r with fields := .empty })
    fill b (.record { r with fields := ⟨← copyEntries copy r.fields.toList⟩ })
    return b
  | .tracked copies payload => do
    fill a (.tracked (copies + 1) payload)
    let b ← reserve a (.tracked 0 .none)
    fill b (.tracked 0 (← copy payload))
    return b
  | .shallow copies items => do
    fill a (.shallow (copies + 1) items)
    let b ← reserve a (.shallow 0 [])
    fill b (.shallow 0 items)
    return b
  | .atomic _ => return a
  | .fragile => throw .refused

/-- Copies a value. Every cell is entered once, so the number of cells bounds the depth. -/
def copyValue : Nat → Value → Copying Value
  | _, .scalar s => return .scalar s
  | 0, .ref _ => throw .refused
  | fuel + 1, .ref a => do
    let s ← get
    match s.copied.lookup a, s.heap.get? a with
    | some b, _ => return .ref b
    | none, some c => return .ref (← copyCell (copyValue fuel) a c)
    | none, none => throw .refused

/-- The heap after a deep copy, and the copy if there is one. -/
def Heap.deepCopy (h : Heap) (v : Value) : Except CopyError Value × Heap :=
  let (result, s) := (copyValue (h.size + 1) v).run.run { heap := h }
  (result, s.heap)

theorem Heap.deepCopy_scalar (h : Heap) (s : Scalar) :
    h.deepCopy (.scalar s) = (.ok (.scalar s), h) := rfl

end Crosswalk.Live

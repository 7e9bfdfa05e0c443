import Crosswalk.Live.Heap

/-! Steps on live objects. What a step has changed by the time it fails stays changed. -/

namespace Crosswalk.Live

/-- An object is known by its cell. -/
abbrev ObjectId := Address

/-- All cells, and the values deep copies were asked for, the last first. -/
structure Store where
  heap : Heap := {}
  copied : List Value := []

def Store.object? (s : Store) (o : ObjectId) : Option Record :=
  match s.heap.get? o with
  | some (.record r) => some r
  | _ => none

/-- A class refuses its arguments, misses one, or fails in a way of its own. -/
inductive BuildError
  | badArguments
  | missingField
  | raised (kind : String)
  deriving DecidableEq, Repr

inductive LiveError
  | access (reason : AccessError)
  | copy (reason : CopyError)
  | build (reason : BuildError)
  | unknownObject
  deriving DecidableEq, Repr

abbrev Step (α : Type) := ExceptT LiveError (StateM Store) α

def record (o : ObjectId) : Step Record := do
  match (← get).object? o with
  | some r => return r
  | none => throw .unknownObject

def read (o : ObjectId) (name : String) : Step Value := do
  match (← record o).get name with
  | .ok v => return v
  | .error e => throw (.access e)

def write (o : ObjectId) (name : String) (v : Value) : Step Unit := do
  match (← record o).set name v with
  | .ok r => modify fun s => { s with heap := s.heap.set o (.record r) }
  | .error e => throw (.access e)

def deepCopy (v : Value) : Step Value := do
  let s ← get
  let (result, heap) := s.heap.deepCopy v
  set { s with heap, copied := v :: s.copied }
  match result with
  | .ok w => return w
  | .error e => throw (.copy e)

def newObject (r : Record) : Step ObjectId := do
  let s ← get
  let (heap, o) := s.heap.alloc (.record r)
  set { s with heap }
  return o

end Crosswalk.Live

/-! One order for a class and all it inherits from, in which every class comes before its own bases and
bases keep the order they are written in. Where no order does that, the classes in conflict are told. -/

namespace Crosswalk.Linearization

variable {α : Type} [DecidableEq α]

/-- Whether a class may come next: no other has to come before it. -/
def isFree (lists : List (List α)) (a : α) : Bool := lists.all fun l => !(l.drop 1).contains a

def heads (lists : List (List α)) : List α := lists.filterMap List.head?

def dropHead (a : α) (l : List α) : List α := if l.head? = some a then l.drop 1 else l

/-- Merges orders into one, or tells the classes of which none may come next. -/
def merge : Nat → List (List α) → Except (List α) (List α)
  | 0, _ => .ok []
  | fuel + 1, lists =>
    match (heads lists).find? (isFree lists) with
    | some a => (merge fuel (lists.map (dropHead a))).map (a :: ·)
    | none => if (heads lists).isEmpty then .ok [] else .error (heads lists).eraseDups

/-- The order after a class whose bases, each with its own order, are given. -/
def ofBases (bases : List (α × List α)) : Except (List α) (List α) :=
  let lists := bases.map (·.2) ++ [bases.map (·.1)]
  merge (lists.flatten.length + 1) lists

example : ofBases [(1, [1, 0]), (2, [2, 0])] = .ok [1, 2, 0] := by rfl
example : ofBases [(0, [0]), (1, [1, 0])] = .error [0, 1] := by rfl

end Crosswalk.Linearization

import Crosswalk.Plan

/-! A plan as a table: a row for every action with what it does besides, and a row for every field of the
target that no action writes. -/

namespace Crosswalk

structure Table where
  title : String
  rows : List (List String)
  deriving DecidableEq, Repr

namespace Plan

def flagNames (a : FieldAction) : List String :=
  [("clone", a.clone), ("if-absent", a.onlyIfAbsent), ("eager-clone", a.eagerClone)].filterMap
    fun (name, set) => if set then some name else none

def actionRow (a : FieldAction) : List String :=
  [a.target, a.kind.text, ", ".intercalate (flagNames a)]

def uncoveredRow (name : String) : List String := [name, "uncovered", ""]

def tableHead : List String := ["Field", "Action", "Flags"]

def table (p : Plan) : Table :=
  ⟨p.toString, tableHead :: p.actions.map actionRow ++ p.uncovered.map uncoveredRow⟩

theorem table_rows_length (p : Plan) :
    p.table.rows.length = 1 + p.actions.length + p.uncovered.length := by
  simp [table]; omega

end Plan

namespace Table

/-- The widths of the columns: the longest text of each. -/
def widths (t : Table) : List Nat :=
  t.rows.foldl (fun ws row => List.zipWithAll
    (fun w s => max (w.getD 0) ((s.map String.length).getD 0)) ws row) []

def padded (width : Nat) (s : String) : String :=
  s ++ String.ofList (List.replicate (width - s.length) ' ')

def line (ws : List Nat) (row : List String) : String :=
  "  ".intercalate (List.zipWith padded ws row)

/-- The table as it is written for a reader. -/
def render (t : Table) : String :=
  "\n".intercalate (t.title :: t.rows.map (line t.widths))

end Table
end Crosswalk

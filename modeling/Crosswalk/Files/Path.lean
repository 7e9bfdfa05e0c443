import Crosswalk.Text.Split

/-! Paths of files: an anchor and the names below it. Reading a text drops empty names and single dots
but keeps double dots; no name left is written as a dot. -/

namespace Crosswalk.Files

structure Path where
  anchor : String
  parts : List String
  deriving DecidableEq, Repr

namespace Path

/-- Two slashes in front are an anchor of their own; any other number counts as one. -/
def anchorOf (t : List Char) : String :=
  match (t.takeWhile (· == '/')).length with
  | 0 => ""
  | 2 => "//"
  | _ => "/"

def ofString (s : String) : Path :=
  let names := (Text.pieces (· == '/') s.toList).map String.ofList
  ⟨anchorOf s.toList, names.filter fun n => n != "" && n != "."⟩

def toString (p : Path) : String :=
  if p.parts.isEmpty ∧ p.anchor = "" then "." else p.anchor ++ "/".intercalate p.parts

instance : ToString Path := ⟨Path.toString⟩

def child (p : Path) (name : String) : Path := ⟨p.anchor, p.parts ++ [name]⟩

/-- An anchored path replaces the one it is appended to. -/
def append (p q : Path) : Path := if q.anchor = "" then ⟨p.anchor, p.parts ++ q.parts⟩ else q

def parent (p : Path) : Path := ⟨p.anchor, p.parts.dropLast⟩

def name (p : Path) : String := p.parts.getLast?.getD ""

theorem append_child (p q : Path) (name : String) (h : q.anchor = "") :
    p.append (q.child name) = (p.append q).child name := by
  simp [append, child, h]

end Path
end Crosswalk.Files

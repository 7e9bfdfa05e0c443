import Crosswalk.Code.Interpreter

/-! Declared types: an expression together with its text. Types are compared by their texts, since
nothing more is known of them. The main fact: whatever has a text, its parts have one too. -/

namespace Crosswalk

open Code (Expr Interpreter TextFault)

structure TypeExpr where
  expr : Expr
  text : String
  text_eq : expr.text = .ok text

/-- Why a text has no reading as a type or as a schema. -/
inductive SourceError
  | unreadable
  | fault (reason : TextFault)
  | noClass (name : Option String)
  deriving DecidableEq, Repr

def SourceError.message : SourceError → String
  | unreadable => ""
  | fault (.unprintable reason) => reason.message
  | fault (.exhausted _) => ""
  | noClass name => "No class " ++ name.getD "" ++ " found in source"

namespace TypeExpr

/-- Whether two types are written alike. -/
def same (a b : TypeExpr) : Bool := a.text == b.text

section

variable (i : Interpreter)

def ofExpr (e : Expr) : Except TextFault TypeExpr :=
  match h : i.print e with
  | .ok text => .ok ⟨e, text, i.text_of_print e text h⟩
  | .error fault => .error fault

def parse (source : String) : Except SourceError TypeExpr := do
  match ← (i.expression? source).mapError .fault with
  | none => .error .unreadable
  | some e => (ofExpr i e).mapError .fault

theorem text_ofExpr (e : Expr) (t : TypeExpr) (h : ofExpr i e = .ok t) : t.expr = e := by
  unfold ofExpr at h
  split at h
  · cases h
    rfl
  · cases h

end

end TypeExpr
end Crosswalk

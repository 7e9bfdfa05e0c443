import Crosswalk.Code.Printer
import Crosswalk.Code.Source

/-! What reading and printing owe to the interpreter that does them: the characters it knows by name, and
the texts and expressions that are nested so deeply, or are so long, that it gives up. Then there is
neither a result nor an error of the text. Which these are is left open; where a text is read or printed
from does not matter. -/

namespace Crosswalk

section

variable {ε ε' α : Type} (f : ε → ε')

@[simp] theorem mapError_ok (a : α) : (.ok a : Except ε α).mapError f = .ok a := rfl

@[simp] theorem mapError_error (e : ε) : (.error e : Except ε α).mapError f = .error (f e) := rfl

end

namespace Code

inductive Exhaustion
  | depth
  | memory
  deriving DecidableEq, Repr

structure Interpreter where
  character? : String → Option Text.CodePoint := fun _ => none
  reading? : String → Option Exhaustion := fun _ => none
  printing? : Expr → Option Exhaustion := fun _ => none

/-- What keeps a text from being read, or an expression from being printed, but for errors in the text. -/
inductive TextFault
  | unprintable (reason : PrintError)
  | exhausted (reason : Exhaustion)
  deriving DecidableEq, Repr

namespace Interpreter

variable (i : Interpreter)

def statements? (source : String) : Except TextFault (Option (List Statement)) :=
  match i.reading? source with
  | some reason => .error (.exhausted reason)
  | none => .ok (parseModule? i.character? source)

def expression? (source : String) : Except TextFault (Option Expr) :=
  match i.reading? source with
  | some reason => .error (.exhausted reason)
  | none => .ok (parseExpression? i.character? source)

def print (e : Expr) : Except TextFault String :=
  match i.printing? e with
  | some reason => .error (.exhausted reason)
  | none => e.text.mapError .unprintable

theorem text_of_print (e : Expr) (text : String) (h : i.print e = .ok text) : e.text = .ok text := by
  unfold print at h
  split at h
  · cases h
  · cases htext : e.text with
    | error reason =>
      rw [htext] at h
      cases h
    | ok found =>
      rw [htext] at h
      cases h
      rfl

end Interpreter
end Code
end Crosswalk

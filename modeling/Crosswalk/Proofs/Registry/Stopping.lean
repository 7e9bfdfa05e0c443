import Crosswalk.Proofs.Registry.Reading

/-! What stops the reading of a tree. A class cannot be told if a type in it has no text or its printing
exhausts the interpreter, and one such class in any unit stops the reading of all units. So does a text that
exhausts the interpreter, and a path that is too long: of a directory, or of a file's name without its
ending. -/

namespace Crosswalk

open Code (ClassDeclaration FieldDeclaration Expr Interpreter)

/-! Steps that fail -/

section

variable {ε α β σ : Type}

def Faulty (x : Except ε α) : Prop := ∃ e, x = .error e

@[simp] theorem not_faulty_ok (a : α) : ¬ Faulty (.ok a : Except ε α) := nofun

@[simp] theorem faulty_error (e : ε) : Faulty (.error e : Except ε α) := ⟨e, rfl⟩

theorem not_faulty_iff (x : Except ε α) : ¬ Faulty x ↔ ∃ a, x = .ok a := by
  cases x <;> simp

theorem faulty_bind_iff (x : Except ε α) (f : α → Except ε β) :
    Faulty (x >>= f) ↔ Faulty x ∨ ∃ a, x = .ok a ∧ Faulty (f a) := by
  cases x <;> simp [bind, Except.bind]

theorem faulty_mapM_iff (f : α → Except ε β) (items : List α) :
    Faulty (items.mapM f) ↔ ∃ a ∈ items, Faulty (f a) := by
  induction items with
  | nil => simp [pure, Except.pure]
  | cons a rest ih =>
    simp only [List.mapM_cons, faulty_bind_iff, List.mem_cons, exists_eq_or_imp, ← ih]
    cases f a with
    | error e => simp
    | ok b => simp [pure, Except.pure]

end

/-! Questions about paths -/

namespace Files

end Files

/-! Classes -/

section

variable (i : Interpreter)

namespace SourceUnit

end SourceUnit

end

namespace Registry

section

variable (host : Host) (root : Files.Path) (marker : String)

end

end Registry
end Crosswalk

import Crosswalk.Proofs.Code.Printing
import Crosswalk.Proofs.Declared
import Crosswalk.Proofs.Emission.Lines

/-! Text that is told is no code. A module of plans has empty lines, one import, comments, and the functions of
plans with good schemas; what a plan says of itself and of its errors stays in comments. A path with a line
feed at the end of a segment, a file or a hand-made schema with one in its name, and a type that is written
over several lines are left out: they would break a comment. -/

namespace Crosswalk.Emission

open Text

/-- The lines a module of plans may have. -/
inductive Expected (plans : List Plan) : String → Prop
  | blank : Expected plans ""
  | imported (h : needsCopy plans = true) : Expected plans "import copy"
  | comment (text : String) : Expected plans ("#" ++ text)
  | head (p : Plan) (hp : p ∈ plans) (hvalid : p.shapeValid = true) : Expected plans (head p)
  | inner (p : Plan) (hp : p ∈ plans) (hvalid : p.shapeValid = true) (text : String)
      (h : indent ++ text ∈ (body p).lines) : Expected plans (indent ++ text)

theorem mem_intercalate (lists : List (List String)) (line : String)
    (h : line ∈ ["", ""].intercalate lists) : line = "" ∨ ∃ b ∈ lists, line ∈ b := by
  induction lists with
  | nil => cases h
  | cons first rest ih =>
    cases rest with
    | nil =>
      rw [List.intercalate_singleton] at h
      exact .inr ⟨first, List.mem_cons_self, h⟩
    | cons second rest =>
      rw [List.intercalate_cons_cons] at h
      rcases List.mem_append.mp h with h | h
      · rcases List.mem_append.mp h with h | h
        · exact .inr ⟨first, List.mem_cons_self, h⟩
        · exact .inl (by simpa using h)
      · rcases ih h with hblank | ⟨b, hb, hline⟩
        · exact .inl hblank
        · exact .inr ⟨b, List.mem_cons_of_mem first hb, hline⟩

theorem expected_of_mem_lines (plans : List Plan) (hall : ∀ p ∈ plans, p.AllOneLine) (p : Plan)
    (hp : p ∈ plans) (line : String) (h : line ∈ (EmittedPlan.ofPlan p).lines) :
    Expected plans line := by
  rw [lines_ofPlan] at h
  rcases List.mem_append.mp h with h | h
  · obtain ⟨remark, -, rfl⟩ := List.mem_map.mp h
    have hcomment : "# " ++ remark = "#" ++ (" " ++ remark) := by
      rw [← String.append_assoc, show "#" ++ " " = "# " by decide]
    rw [hcomment]
    exact .comment _
  · unfold codeLines at h
    split at h
    · rename_i hvalid
      rcases List.mem_cons.mp h with rfl | h
      · exact .head p hp hvalid
      · obtain ⟨text, rfl⟩ := (inner_body p (hall p hp) line h).indented
        exact .inner p hp hvalid text h
    · cases h

theorem expected_of_mem_renderModule (plans : List Plan) (hall : ∀ p ∈ plans, p.AllOneLine)
    (line : String) (h : line ∈ lines (renderModule plans)) : Expected plans line := by
  rw [lines_renderModule plans hall] at h
  rcases List.mem_append.mp h with h | h
  · rcases mem_intercalate _ line h with rfl | ⟨b, hb, hline⟩
    · exact .blank
    · rcases List.mem_append.mp hb with hb | hb
      · split at hb
        · rename_i hcopy
          rw [List.mem_singleton.mp hb] at hline
          rw [List.mem_singleton.mp hline]
          exact .imported hcopy
        · cases hb
      · obtain ⟨p, hp, rfl⟩ := List.mem_map.mp hb
        exact expected_of_mem_lines plans hall p hp line hline
  · rw [List.mem_singleton.mp h]
    exact .blank

theorem allOneLine_of_madeOf (p : Plan) (h : p.MadeOf Schema.NamesOneLine)
    (hlegible : p.Legible) : p.AllOneLine := by
  cases h with
  | of source target hsource htarget v path location =>
    exact Plan.allOneLine_synthesize source target v path location hsource htarget hlegible

/-- The plans that are synthesized from schemas with their names on one line, as those of a class are, and the
plans of expansions for which no other schemas are registered. -/
inductive Produced : Plan → Prop
  | synthesized (p : Plan) (h : p.MadeOf Schema.NamesOneLine) : Produced p
  | expanded (host : Host) (file shown className : String) (modes : Option (List String))
      (settings : Settings) (locator : Option Locator)
      (hlocator : ∀ l ∈ locator, l.AllSchemas Schema.NamesOneLine) (e : Expansion)
      (h : Expansion.run host file shown className modes settings locator = .ok e)
      (p : Plan) (hp : p ∈ e.plans) : Produced p

theorem madeOf_of_produced (p : Plan) (h : Produced p) : p.MadeOf Schema.NamesOneLine := by
  cases h with
  | synthesized _ h => exact h
  | expanded host file shown className modes settings locator hlocator e h _ hp =>
    exact Expansion.madeOf_of_mem_plans Schema.namesOneLine_of_declared host file shown className modes
      settings locator hlocator e h p hp

/-- What is told stays in comments: a module of plans has no lines but blank ones, the import that copies need,
comments, and the functions of plans with good schemas, and a plan's own text has its remarks in comments
before its function. -/
theorem renderings_contained (plans : List Plan) (h : ∀ p ∈ plans, Produced p)
    (hlegible : ∀ p ∈ plans, p.Legible) :
    (∀ line ∈ lines (renderModule plans), Expected plans line) ∧
    ∀ p ∈ plans, lines (render p) =
      (p.toString :: p.errors.map Diagnostic.toString).map ("# " ++ ·) ++ codeLines p ++ [""] := by
  have hall : ∀ p ∈ plans, p.AllOneLine := fun p hp =>
    allOneLine_of_madeOf p (madeOf_of_produced p (h p hp)) (hlegible p hp)
  exact ⟨expected_of_mem_renderModule plans hall, fun p hp => lines_render p (hall p hp)⟩

/-- A file of two classes, of which the first asks for the second and cannot become it. -/
def stall : Files.Node :=
  .directory [("src", .directory [("s.py", .file (Files.bytesOf
    "@into('crate.s.T')\nclass S:\n    x: int\nclass T:\n    x: str\n"))])]

def stallSettings : Settings := { rootDir := some ⟨"", []⟩ }

theorem renderings_contained_stall :
    ∃ e, Expansion.run stall "src/s.py" "src/s.py" "S" none stallSettings = .ok e ∧
      (∃ p ∈ e.plans, p.hasErrors = true) ∧
      (∀ line ∈ lines (renderModule e.plans), Expected e.plans line) ∧
      ∀ p ∈ e.plans, lines (render p) =
        (p.toString :: p.errors.map Diagnostic.toString).map ("# " ++ ·) ++ codeLines p ++ [""] := by
  have hgood : (match Expansion.run stall "src/s.py" "src/s.py" "S" none stallSettings with
    | .ok e => e.plans.any (·.hasErrors) && e.plans.all fun p => decide p.Legible
    | .error _ => false) = true := by decide +kernel
  split at hgood
  · rename_i e hrun
    rw [Bool.and_eq_true, List.any_eq_true, List.all_eq_true] at hgood
    have hproduced : ∀ p ∈ e.plans, Produced p := fun p hp =>
      .expanded stall "src/s.py" "src/s.py" "S" none stallSettings none nofun e hrun p hp
    have hlegible : ∀ p ∈ e.plans, p.Legible := fun p hp => of_decide_eq_true (hgood.2 p hp)
    exact ⟨e, hrun, hgood.1, renderings_contained e.plans hproduced hlegible⟩
  · cases hgood

/-- A line feed at the end of a segment breaks a comment. -/
example : lines ("# " ++ TargetPath.toString ⟨["crate", "t\n", "T"], by decide, by decide⟩) =
    ["# crate.t", ".T"] := by decide

end Crosswalk.Emission

import Crosswalk.Emission
import Crosswalk.Proofs.Naming
import Crosswalk.Proofs.Plan.Texts

/-! The lines of emitted plans. If all that a plan is written with is on one line, the lines of its text are its
remarks, each after a number sign, and the lines of its function. -/

namespace Crosswalk.Emission

open Text

/-! Functions -/

theorem oneLine_functionName (p : Plan) (h : OneLine p.target.identifier) :
    OneLine (functionName p) := by
  have hword : OneLine (leadingWord p.mode) := by cases p.mode <;> decide
  have hname := Naming.oneLine_snakeCase _ h
  have hsoft : OneLine (if p.soft then "_soft" else "") := by split <;> decide
  simp only [oneLine_append, functionName, hword, hname, hsoft, and_true, true_and]
  decide

def Operand.names : Operand → List String
  | field name | copy name => [name]
  | bound => []

def Condition.names : Condition → List String
  | absent name | present name => [name]

def Instruction.names : Instruction → List String
  | bind value => value.names
  | store target value => target :: value.names
  | storeIf conditions target value => target :: value.names ++ conditions.flatMap Condition.names

theorem oneLine_operand (o : Operand) (h : ∀ name ∈ o.names, OneLine name) : OneLine o.text := by
  unfold Operand.text
  cases o with
  | field name | copy name =>
    have hname := h name List.mem_cons_self
    simp only [oneLine_append, hname, and_true]
    decide
  | bound => exact (by decide : OneLine "value")

theorem oneLine_condition (c : Condition) (h : ∀ name ∈ c.names, OneLine name) : OneLine c.text := by
  cases c with
  | absent name | present name =>
    have hname := h name List.mem_cons_self
    simp only [oneLine_append, Condition.text, hname, and_true]
    decide

/-- A line below the head of a function. -/
structure Inner (line : String) : Prop where
  oneLine : OneLine line
  indented : ∃ text, line = indent ++ text

theorem inner_indent : Inner indent := ⟨by decide, "", by decide⟩

theorem inner_append (line rest : String) (h : Inner line) (hrest : OneLine rest) :
    Inner (line ++ rest) := by
  obtain ⟨text, rfl⟩ := h.indented
  exact ⟨(oneLine_append _ _).mpr ⟨h.oneLine, hrest⟩, text ++ rest, String.append_assoc⟩

theorem inner_store (before target : String) (value : Operand) (hbefore : Inner before)
    (htarget : OneLine target) (hvalue : OneLine value.text) :
    Inner (before ++ "target." ++ target ++ " = " ++ value.text) := by
  refine inner_append _ _ (inner_append _ _ (inner_append _ _ ?_ htarget) (by decide)) hvalue
  exact inner_append _ _ hbefore (by decide)

theorem inner_instruction (i : Instruction) (h : ∀ name ∈ i.names, OneLine name) :
    ∀ line ∈ i.lines, Inner line := by
  intro line hline
  cases i with
  | bind value =>
    have hvalue := oneLine_operand value h
    rw [List.mem_singleton.mp hline]
    exact inner_append _ _ (inner_append _ _ inner_indent (by decide)) hvalue
  | store target value =>
    obtain ⟨htarget, hnames⟩ := List.forall_mem_cons.mp h
    rw [List.mem_singleton.mp hline]
    exact inner_store indent target value inner_indent htarget (oneLine_operand value hnames)
  | storeIf conditions target value =>
    obtain ⟨htarget, hnames⟩ := List.forall_mem_cons.mp h
    obtain ⟨hvalue, hconditions⟩ := List.forall_mem_append.mp hnames
    rcases List.mem_cons.mp hline with rfl | hline
    · refine inner_append _ _ (inner_append _ _ (inner_append _ _ inner_indent (by decide)) ?_)
        (by decide)
      refine oneLine_intercalate _ _ (by decide) fun s hs => ?_
      obtain ⟨c, hc, rfl⟩ := List.mem_map.mp hs
      exact oneLine_condition c fun name hname => hconditions name (List.mem_flatMap.mpr ⟨c, hc, hname⟩)
    · rw [List.mem_singleton.mp hline]
      exact inner_store _ target value (inner_append _ _ inner_indent (by decide)) htarget
        (oneLine_operand value hvalue)

/-- The instructions of an action name its fields only. -/
theorem names_instructions (a : FieldAction) :
    ∀ i ∈ instructions a, ∀ name ∈ i.names, name = a.source ∨ name = a.target := by
  have hoperand : ∀ name ∈ (operand a).names, name = a.source := by
    unfold operand
    split <;> exact fun name hname => List.mem_singleton.mp hname
  have hconditions : ∀ name ∈ (conditions a).flatMap Condition.names,
      name = a.source ∨ name = a.target := by
    intro name hname
    obtain ⟨c, hc, hname⟩ := List.mem_flatMap.mp hname
    unfold conditions at hc
    rcases List.mem_append.mp hc with hc | hc
    · split at hc
      · rw [List.mem_singleton.mp hc] at hname
        exact .inr (List.mem_singleton.mp hname)
      · cases hc
    · split at hc
      · rw [List.mem_singleton.mp hc] at hname
        exact .inl (List.mem_singleton.mp hname)
      · cases hc
  intro i hi name hname
  unfold instructions at hi
  split at hi
  · rcases List.mem_cons.mp hi with rfl | hi
    · exact .inl (hoperand name hname)
    · rw [List.mem_singleton.mp hi] at hname
      rcases List.mem_cons.mp hname with rfl | hname
      · exact .inr rfl
      · exact hconditions name hname
  split at hi
  · rw [List.mem_singleton.mp hi] at hname
    rcases List.mem_cons.mp hname with rfl | hname
    · exact .inr rfl
    · exact .inl (hoperand name hname)
  · rw [List.mem_singleton.mp hi] at hname
    rcases List.mem_cons.mp hname with rfl | hname
    · exact .inr rfl
    · rcases List.mem_append.mp hname with hname | hname
      · exact .inl (hoperand name hname)
      · exact hconditions name hname

theorem inner_construct (defaulted : List String) (identifier : String)
    (arguments : List (String × String)) (hidentifier : OneLine identifier)
    (hdefaulted : ∀ name ∈ defaulted, OneLine name)
    (harguments : ∀ a ∈ arguments, OneLine a.1 ∧ OneLine a.2) :
    ∀ line ∈ (Body.construct defaulted identifier arguments).lines, Inner line := by
  intro line hline
  unfold Body.lines at hline
  dsimp only at hline
  rcases List.mem_append.mp hline with hline | hline
  · rcases List.mem_append.mp hline with hline | hline
    · rcases List.mem_append.mp hline with hline | hline
      · split at hline
        · cases hline
        · rw [List.mem_singleton.mp hline]
          refine inner_append _ _ (inner_append _ _ (inner_append _ _ ?_ hidentifier) (by decide)) ?_
          · exact inner_append _ _ inner_indent (by decide)
          · exact oneLine_intercalate _ _ (by decide) hdefaulted
      · rw [List.mem_singleton.mp hline]
        refine inner_append _ _ (inner_append _ _ ?_ hidentifier) (by decide)
        exact inner_append _ _ inner_indent (by decide)
    · obtain ⟨a, ha, rfl⟩ := List.mem_map.mp hline
      obtain ⟨htarget, hsource⟩ := harguments a ha
      refine inner_append _ _ (inner_append _ _ (inner_append _ _ (inner_append _ _ ?_ htarget) ?_)
        hsource) (by decide)
      · exact inner_append _ _ inner_indent (by decide)
      · decide
  · rw [List.mem_singleton.mp hline]
    exact inner_append _ _ inner_indent (by decide)

theorem inner_update (is : List Instruction) (h : ∀ i ∈ is, ∀ name ∈ i.names, OneLine name) :
    ∀ line ∈ (Body.update is).lines, Inner line := by
  intro line hline
  cases is with
  | nil =>
    rw [List.mem_singleton.mp hline]
    exact inner_append _ _ inner_indent (by decide)
  | cons first rest =>
    obtain ⟨i, hi, hline⟩ := List.mem_flatMap.mp hline
    exact inner_instruction i (h i hi) line hline

/-- The lines below the head of a plan's function. -/
theorem inner_body (p : Plan) (h : p.AllOneLine) : ∀ line ∈ (body p).lines, Inner line := by
  unfold body
  split
  · refine inner_update _ fun i hi name hname => ?_
    obtain ⟨a, ha, hi⟩ := List.mem_flatMap.mp hi
    rcases names_instructions a i hi name hname with rfl | rfl
    · exact (h.actions a ha).1
    · exact (h.actions a ha).2
  · refine inner_construct _ _ _ h.identifier ?_ ?_
    · split
      · exact h.uncovered
      · exact List.forall_mem_nil _
    · intro pair hpair
      obtain ⟨a, ha, rfl⟩ := List.mem_map.mp hpair
      exact (h.actions a ha).symm

/-- The line that a plan's function begins with. -/
def head (p : Plan) : String := "def " ++ functionName p ++ (body p).parameters ++ ":"

theorem oneLine_head (p : Plan) (h : p.AllOneLine) : OneLine (head p) := by
  have hparameters : OneLine (body p).parameters := by
    cases body p with
    | construct => exact (by decide : OneLine "(source)")
    | update => exact (by decide : OneLine "(source, target)")
  unfold head
  simp only [oneLine_append, oneLine_functionName p h.identifier, hparameters, and_true]
  decide

/-! Plans -/

/-- The lines of the code of a plan, if its schemas are good. -/
def codeLines (p : Plan) : List String := if p.shapeValid then head p :: (body p).lines else []

theorem lines_ofPlan (p : Plan) :
    (EmittedPlan.ofPlan p).lines = (EmittedPlan.ofPlan p).remarks.map ("# " ++ ·) ++ codeLines p := by
  unfold EmittedPlan.lines EmittedPlan.ofPlan codeLines
  cases p.shapeValid <;> rfl

theorem oneLine_ofPlan (p : Plan) (h : p.AllOneLine) :
    ∀ line ∈ (EmittedPlan.ofPlan p).lines, OneLine line := by
  intro line hline
  rw [lines_ofPlan] at hline
  rcases List.mem_append.mp hline with hline | hline
  · obtain ⟨remark, hremark, rfl⟩ := List.mem_map.mp hline
    refine (oneLine_append _ _).mpr ⟨by decide, ?_⟩
    rcases List.mem_cons.mp hremark with rfl | hremark
    · exact h.description
    · obtain ⟨d, hd, rfl⟩ := List.mem_map.mp hremark
      exact h.errors d hd
  · unfold codeLines at hline
    split at hline
    · rcases List.mem_cons.mp hline with rfl | hline
      · exact oneLine_head p h
      · exact (inner_body p h line hline).oneLine
    · cases hline

theorem lines_ne_nil (p : Plan) : (EmittedPlan.ofPlan p).lines ≠ [] := by
  rw [lines_ofPlan]
  exact List.cons_ne_nil _ _

/-- A plan's text has its remarks, the lines of its function, and nothing else. -/
theorem lines_render (p : Plan) (h : p.AllOneLine) :
    lines (render p) =
      (EmittedPlan.ofPlan p).remarks.map ("# " ++ ·) ++ codeLines p ++ [""] := by
  have hlines := lines_intercalate _ "" (lines_ne_nil p) (oneLine_ofPlan p h)
  rw [String.append_empty, lines_of_oneLine "" (by decide), lines_ofPlan p] at hlines
  rw [← hlines, ← lines_ofPlan]
  rfl

/-! Modules -/

/-- A block, and the two empty lines that part it from what follows. -/
theorem lines_gap (b : List String) (rest : String) (hne : b ≠ []) (h : ∀ line ∈ b, OneLine line) :
    lines ("\n".intercalate b ++ "\n" ++ "\n\n" ++ rest) = b ++ ["", ""] ++ lines rest := by
  have hgap : "\n\n" ++ rest = "" ++ "\n" ++ ("" ++ "\n" ++ rest) := by
    rw [← String.append_assoc, show "" ++ "\n" ++ ("" ++ "\n") = "\n\n" by decide]
  rw [String.append_assoc, hgap, lines_intercalate b _ hne h, lines_append "" _ (by decide),
    lines_append "" _ (by decide)]
  simp

theorem lines_blocks (blocks : List (List String)) (hne : ∀ b ∈ blocks, b ≠ [])
    (h : ∀ b ∈ blocks, ∀ line ∈ b, OneLine line) :
    lines ("\n\n".intercalate (blocks.map fun b => "\n".intercalate b ++ "\n")) =
      ["", ""].intercalate blocks ++ [""] := by
  induction blocks with
  | nil => decide
  | cons first rest ih =>
    obtain ⟨hfirstne, hrestne⟩ := List.forall_mem_cons.mp hne
    obtain ⟨hfirst, hrest⟩ := List.forall_mem_cons.mp h
    have ih := ih hrestne hrest
    cases rest with
    | nil =>
      have hlines := lines_intercalate first "" hfirstne hfirst
      rw [String.append_empty, lines_of_oneLine "" (by decide)] at hlines
      rw [List.map_singleton, String.intercalate_singleton, hlines, List.intercalate_singleton]
    | cons second rest =>
      rw [List.map_cons] at ih
      rw [List.map_cons, List.map_cons, String.intercalate_cons_cons, lines_gap first _ hfirstne hfirst,
        ih, List.intercalate_cons_cons, List.append_assoc _ _ [""]]

/-- The parts of a module: the import that copies need, and the plans. -/
def blocks (plans : List Plan) : List (List String) :=
  (if needsCopy plans then [["import copy"]] else []) ++
    plans.map fun p => (EmittedPlan.ofPlan p).lines

/-- A module has the lines of its parts, two empty lines between them, and nothing else. -/
theorem lines_renderModule (plans : List Plan) (h : ∀ p ∈ plans, p.AllOneLine) :
    lines (renderModule plans) = ["", ""].intercalate (blocks plans) ++ [""] := by
  have htext : (if needsCopy plans then ["import copy\n"] else []) ++ plans.map render =
      (blocks plans).map fun b => "\n".intercalate b ++ "\n" := by
    have himport : "\n".intercalate ["import copy"] ++ "\n" = "import copy\n" := by decide
    unfold blocks
    rw [List.map_append, List.map_map]
    split
    · rw [List.map_singleton, himport]
      rfl
    · rfl
  have hblock : ∀ b ∈ blocks plans, b = ["import copy"] ∨
      ∃ p ∈ plans, b = (EmittedPlan.ofPlan p).lines := by
    intro b hb
    rcases List.mem_append.mp hb with hb | hb
    · split at hb
      · exact .inl (List.mem_singleton.mp hb)
      · cases hb
    · obtain ⟨p, hp, rfl⟩ := List.mem_map.mp hb
      exact .inr ⟨p, hp, rfl⟩
  unfold renderModule
  rw [htext]
  refine lines_blocks _ (fun b hb => ?_) (fun b hb => ?_)
  · rcases hblock b hb with rfl | ⟨p, -, rfl⟩
    · decide
    · exact lines_ne_nil p
  · rcases hblock b hb with rfl | ⟨p, hp, rfl⟩
    · decide
    · exact oneLine_ofPlan p (h p hp)

end Crosswalk.Emission

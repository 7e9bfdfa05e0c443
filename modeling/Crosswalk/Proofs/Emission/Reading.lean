import Crosswalk.Proofs.Emission.Lines

/-! Emitted functions as they are read again. Their text is code only if every name in it is read as one, no
remark breaks off, and nothing is written that cannot be; names are taken in compatible form. -/

namespace Crosswalk.Emission

open Text

/-- A text that is read as one name. -/
def IsWord (name : String) : Prop := Code.isSpelling name = true ∧ Code.isKeyword name = false

instance (name : String) : Decidable (IsWord name) := inferInstanceAs (Decidable (_ ∧ _))

def parameter : String := "source"

/-- The one name with a meaning of its own everywhere. It cannot be set, not even as an argument. -/
def constant : String := "__debug__"

/-- Whether a plan's text is the code of a construction. What a line feed breaks off a comment is none;
arguments have different names, and names are compared in compatible form. -/
def EmittedPlan.Readable : EmittedPlan → Prop
  | ⟨remarks, some ⟨name, .construct defaulted identifier arguments⟩⟩ =>
    (∀ r ∈ remarks, OneLine r) ∧ (∀ n ∈ defaulted, OneLine n) ∧ IsWord name ∧ IsWord identifier ∧
      (∀ a ∈ arguments, IsWord a.1 ∧ IsWord a.2 ∧ Code.canonicalName a.1 ≠ constant) ∧
      (arguments.map fun a => Code.canonicalName a.1).Nodup
  | ⟨_, some ⟨_, .update _⟩⟩ | ⟨_, none⟩ => False

instance : (u : EmittedPlan) → Decidable u.Readable
  | ⟨_, some ⟨_, .construct ..⟩⟩ => inferInstanceAs (Decidable (_ ∧ _ ∧ _ ∧ _ ∧ _ ∧ _))
  | ⟨_, some ⟨_, .update _⟩⟩ | ⟨_, none⟩ => isFalse id

/-! Updates -/

/-- The field a statement writes. -/
def Instruction.written? : Instruction → Option String
  | bind _ => none
  | store target _ | storeIf _ target _ => some target

/-- Whether a plan's text is the code of an update. -/
def EmittedPlan.ReadableUpdate : EmittedPlan → Prop
  | ⟨remarks, some ⟨name, .update instructions⟩⟩ =>
    (∀ r ∈ remarks, OneLine r) ∧ IsWord name ∧
      ∀ i ∈ instructions, (∀ n ∈ i.names, IsWord n) ∧
        ∀ n ∈ i.written?, Code.canonicalName n ≠ constant
  | ⟨_, some ⟨_, .construct ..⟩⟩ | ⟨_, none⟩ => False

instance : (u : EmittedPlan) → Decidable u.ReadableUpdate
  | ⟨_, some ⟨_, .update _⟩⟩ => inferInstanceAs (Decidable (_ ∧ _ ∧ _))
  | ⟨_, some ⟨_, .construct ..⟩⟩ | ⟨_, none⟩ => isFalse id

theorem written_instructions (a : FieldAction) :
    ∀ i ∈ instructions a, ∀ n ∈ i.written?, n = a.target := by
  intro i hi n hn
  unfold instructions at hi
  split at hi
  · rcases List.mem_cons.mp hi with rfl | hi
    · cases hn
    · rw [List.mem_singleton.mp hi] at hn
      exact (Option.mem_some_iff.mp hn).symm
  split at hi
  all_goals
    rw [List.mem_singleton.mp hi] at hn
    exact (Option.mem_some_iff.mp hn).symm

/-- The statements of an action name both its fields, and write the one. -/
theorem mentions_instructions (a : FieldAction) :
    (∃ i ∈ instructions a, a.source ∈ i.names) ∧
      ∃ i ∈ instructions a, a.target ∈ i.names ∧ a.target ∈ i.written? := by
  have hoperand : a.source ∈ (operand a).names := by
    unfold operand
    split <;> exact List.mem_singleton_self _
  unfold instructions
  split
  · exact ⟨⟨_, List.mem_cons_self, hoperand⟩,
      ⟨_, List.mem_cons_of_mem _ (List.mem_singleton_self _), List.mem_cons_self, rfl⟩⟩
  split
  · exact ⟨⟨_, List.mem_singleton_self _, List.mem_cons_of_mem _ hoperand⟩,
      ⟨_, List.mem_singleton_self _, List.mem_cons_self, rfl⟩⟩
  · exact ⟨⟨_, List.mem_singleton_self _,
      List.mem_cons_of_mem _ (List.mem_append_left _ hoperand)⟩,
      ⟨_, List.mem_singleton_self _, List.mem_cons_self, rfl⟩⟩

/-- The text of an update is code just where its header and the fields of its actions are fit for it. -/
theorem readableUpdate_iff (p : Plan) (hmode : p.mode.isMerge = true) (hshape : p.shapeValid = true) :
    (EmittedPlan.ofPlan p).ReadableUpdate ↔
      (∀ r ∈ (EmittedPlan.ofPlan p).remarks, OneLine r) ∧ IsWord (functionName p) ∧
        ∀ a ∈ p.actions, IsWord a.source ∧ IsWord a.target ∧
          Code.canonicalName a.target ≠ constant := by
  have hfunction : (EmittedPlan.ofPlan p).function =
      some ⟨functionName p, .update (p.actions.flatMap instructions)⟩ := by
    simp [EmittedPlan.ofPlan, hshape, body, hmode]
  rcases hplan : EmittedPlan.ofPlan p with ⟨remarks, function⟩
  obtain rfl : function = _ := (congrArg EmittedPlan.function hplan).symm.trans hfunction
  refine and_congr_right fun _ => and_congr_right fun _ => ?_
  constructor
  · intro hall a ha
    obtain ⟨⟨i, hi, hsource⟩, ⟨j, hj, htarget, hwritten⟩⟩ := mentions_instructions a
    have hmem := fun k (hk : k ∈ instructions a) => hall k (List.mem_flatMap.mpr ⟨a, ha, hk⟩)
    exact ⟨(hmem i hi).1 _ hsource, (hmem j hj).1 _ htarget, (hmem j hj).2 _ hwritten⟩
  · intro hall i hi
    obtain ⟨a, ha, hi⟩ := List.mem_flatMap.mp hi
    obtain ⟨hsource, htarget, hconstant⟩ := hall a ha
    constructor
    · intro n hn
      rcases names_instructions a i hi n hn with rfl | rfl
      · exact hsource
      · exact htarget
    · intro n hn
      rw [written_instructions a i hi n hn]
      exact hconstant

/-! Names as they are read -/

def Operand.asRead : Operand → Operand
  | field name => field (Code.canonicalName name)
  | copy name => copy (Code.canonicalName name)
  | bound => bound

def Condition.asRead : Condition → Condition
  | absent target => absent (Code.canonicalName target)
  | present source => present (Code.canonicalName source)

def Instruction.asRead : Instruction → Instruction
  | bind value => bind value.asRead
  | store target value => store (Code.canonicalName target) value.asRead
  | storeIf conditions target value =>
    storeIf (conditions.map Condition.asRead) (Code.canonicalName target) value.asRead

theorem asRead_of_names (i : Instruction) (h : ∀ n ∈ i.names, Code.canonicalName n = n) :
    i.asRead = i := by
  have hoperand : ∀ o : Operand, (∀ n ∈ o.names, Code.canonicalName n = n) → o.asRead = o := by
    intro o ho
    cases o with
    | field name => exact congrArg Operand.field (ho name List.mem_cons_self)
    | copy name => exact congrArg Operand.copy (ho name List.mem_cons_self)
    | bound => rfl
  have hcondition : ∀ c : Condition, (∀ n ∈ c.names, Code.canonicalName n = n) → c.asRead = c := by
    intro c hc
    cases c with
    | absent name => exact congrArg Condition.absent (hc name List.mem_cons_self)
    | present name => exact congrArg Condition.present (hc name List.mem_cons_self)
  cases i with
  | bind value => exact congrArg Instruction.bind (hoperand value h)
  | store target value =>
    obtain ⟨htarget, hvalue⟩ := List.forall_mem_cons.mp h
    simp only [Instruction.asRead, htarget, hoperand value hvalue]
  | storeIf conditions target value =>
    obtain ⟨htarget, hnames⟩ := List.forall_mem_cons.mp h
    obtain ⟨hvalue, hconditions⟩ := List.forall_mem_append.mp hnames
    have hall : conditions.map Condition.asRead = conditions := by
      refine (List.map_congr_left fun c hc => ?_).trans (List.map_id _)
      exact hcondition c fun n hn => hconditions n (List.mem_flatMap.mpr ⟨c, hc, hn⟩)
    simp only [Instruction.asRead, hall, htarget, hoperand value hvalue]

theorem asRead_instructions (actions : List FieldAction)
    (h : ∀ a ∈ actions, Code.canonicalName a.source = a.source ∧ Code.canonicalName a.target = a.target) :
    (actions.flatMap instructions).map Instruction.asRead = actions.flatMap instructions := by
  refine (List.map_congr_left fun i hi => ?_).trans (List.map_id _)
  obtain ⟨a, ha, hi⟩ := List.mem_flatMap.mp hi
  refine asRead_of_names i fun n hn => ?_
  rcases names_instructions a i hi n hn with rfl | rfl
  · exact (h a ha).1
  · exact (h a ha).2

end Crosswalk.Emission

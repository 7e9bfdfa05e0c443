import Crosswalk.Proofs.Live.Construction
import Crosswalk.Proofs.Live.Program

/-! Calling the function of a construction. Its text is read, the class is looked up by its name, the fields of
the source are read in order, and the class is called with them by name. This does what the construction does,
unless the text is not read as it is meant, or the parameter or a constant has the name of the class. -/

namespace Crosswalk.Emission

open Live

/-! Running -/

/-- What a name stands for in the function. -/
inductive Referent
  | constant
  | argument (o : ObjectId)
  | cls (c : RecordClass)

/-- The parameter hides what the module has under its name. -/
def Referent.ofName (globals : String → Option RecordClass) (o : ObjectId) (name : String) :
    Option Referent :=
  if name = Emission.constant then some .constant
  else if name = parameter then some (.argument o)
  else (globals name).map .cls

def evalArguments (o : ObjectId) : List (String × String) → Call (List (String × Value))
  | [] => return []
  | (key, name) :: rest => do
    let v ← getAttribute o (Code.canonicalName name)
    return (Code.canonicalName key, v) :: (← evalArguments o rest)

/-- Only a class makes something of its arguments. -/
def Referent.call (arguments : OrderedMap String Value) : Referent → Call ObjectId
  | .cls c => perform (c.call arguments)
  | .argument _ | .constant => throw .badArguments

/-- What is called is looked up first; whether it can be called is found out last. -/
def runConstruct (globals : String → Option RecordClass) (o : ObjectId) (identifier : String)
    (arguments : List (String × String)) : Call ObjectId := do
  match Referent.ofName globals o (Code.canonicalName identifier) with
  | none => throw (.unbound identifier)
  | some callee => callee.call ⟨← evalArguments o arguments⟩

/-! Failures -/

/-- The kinds of failures that a caller can tell from each other. -/
inductive Failure
  | unreadable
  | name
  | type
  | attribute
  | key
  | value
  | validation
  | copying
  | plan
  | unknown
  | raised (kind : String)
  deriving DecidableEq, Repr

def LiveError.failure : LiveError → Failure
  | .access (.missingKey _) => .key
  | .access .missingAttribute => .attribute
  | .access .invalidField => .value
  | .access .invalidValue => .validation
  | .copy .refused => .copying
  | .build .badArguments => .type
  | .build .missingField => .validation
  | .build (.raised kind) => .raised kind
  | .unknownObject => .unknown

def CallError.failure : CallError → Failure
  | .unreadable => .unreadable
  | .unbound _ => .name
  | .badArguments => .type
  | .live reason => LiveError.failure reason

def RunError.failure : RunError → Failure
  | .needsConstruction _ | .needsMerge _ => .value
  | .invalid _ => .plan
  | .live reason => LiveError.failure reason

/-- What a construction comes to, as far as a caller can tell. -/
def converted (p : Plan) (o : ObjectId) (c : RecordClass) (s : Store) : Except Failure ObjectId × Store :=
  ((convert p o c s).1.mapError RunError.failure, (convert p o c s).2)

/-- Reads the text of a plan and calls the function, in a module that has some classes. -/
def callConstruct (globals : String → Option RecordClass) (p : Plan) (o : ObjectId) (s : Store) :
    Except Failure ObjectId × Store :=
  match (EmittedPlan.ofPlan p).function with
  | some ⟨_, .construct _ identifier arguments⟩ =>
    if (EmittedPlan.ofPlan p).Readable then
      let (result, s) := (runConstruct globals o identifier arguments).run.run s
      (result.mapError CallError.failure, s)
    else (.error .unreadable, s)
  | some ⟨_, .update _⟩ => (.error .type, s)
  | none => (.error .name, s)

/-! Fields in order -/

/-- The fields that a list of actions reads, by the names of those it writes, up to the first that is not
there. -/
def readAll (s : Store) (o : ObjectId) : List FieldAction → Except LiveError (List (String × Value))
  | [] => .ok []
  | a :: rest =>
    match s.field o a.source, readAll s o rest with
    | .error e, _ => .error e
    | .ok _, .error e => .error e
    | .ok v, .ok l => .ok ((a.target, v) :: l)

theorem run_gather_eq (s : Store) (o : ObjectId) (actions : List FieldAction)
    (values : OrderedMap String Value) (hdistinct : (values.keys ++ actions.map (·.target)).Nodup) :
    (gather o values actions).run.run s =
      ((readAll s o actions).map fun l => ⟨values.toList ++ l⟩, s) := by
  induction actions generalizing values with
  | nil =>
    rw [readAll, Except.map, List.append_nil]
    rfl
  | cons a rest ih =>
    have hsplit := List.nodup_append.mp hdistinct
    have hfresh : a.target ∉ values.toList.map (·.1) := fun hmem =>
      hsplit.2.2 a.target hmem a.target List.mem_cons_self rfl
    have hinsert : ∀ v, (values.insert a.target v).toList = values.toList ++ [(a.target, v)] :=
      fun v => OrderedMap.put_of_not_mem values.toList a.target v hfresh
    unfold gather readAll
    rw [run_bind, run_read]
    cases s.field o a.source with
    | error e => rfl
    | ok v =>
      have hkeys : (values.insert a.target v).keys = values.keys ++ [a.target] := by
        simp [OrderedMap.keys, hinsert]
      have hrun := ih (values.insert a.target v) (by simpa [hkeys] using hdistinct)
      rw [hinsert] at hrun
      simp only [hrun]
      cases readAll s o rest with
      | error e => rfl
      | ok l => simp [Except.map]

theorem run_evalArguments (s : Store) (o : ObjectId) (ho : IsAttributed s o) (actions : List FieldAction)
    (hnames : ∀ a ∈ actions, a.source = a.target ∧ Code.canonicalName a.target = a.target) :
    (evalArguments o (actions.map fun a => (a.target, a.source))).run.run s =
      ((readAll s o actions).mapError .live, s) := by
  induction actions with
  | nil => rfl
  | cons a rest ih =>
    obtain ⟨hname, hcanonical⟩ := hnames a List.mem_cons_self
    have hrest := ih fun b hb => hnames b (List.mem_cons_of_mem a hb)
    rw [List.map_cons, evalArguments, readAll, hname, hcanonical, run_bind,
      run_getAttribute o a.target s ho]
    cases s.field o a.target with
    | error e => rfl
    | ok v =>
      simp only [mapError_ok, run_bind, hrest]
      cases readAll s o rest <;> rfl

theorem isOk_readAll (s : Store) (o : ObjectId) (actions : List FieldAction) :
    (readAll s o actions).isOk = true ↔ ∀ a ∈ actions, (s.field o a.source).isOk = true := by
  induction actions with
  | nil => simp [readAll, Except.isOk, Except.toBool]
  | cons a rest ih =>
    rw [List.forall_mem_cons, ← ih, readAll]
    cases s.field o a.source with
    | error e => simp [Except.isOk, Except.toBool]
    | ok v => cases readAll s o rest <;> simp [Except.isOk, Except.toBool]

/-! Plans -/

section

variable (globals : String → Option RecordClass) (c : RecordClass) (p : Plan) (o : ObjectId) (s : Store)

/-- A construction whose actions write different fields. -/
theorem convert_eq (hmode : p.mode.isMerge = false) (hvalid : ensureValid p = .ok ())
    (hdistinct : (p.actions.map (·.target)).Nodup) :
    convert p o c s =
      match readAll s o p.actions with
      | .error e => (.error (.live e), s)
      | .ok l => Step.after (.ok ()) (c.build ⟨l⟩) s := by
  have hnames : ((OrderedMap.empty : OrderedMap String Value).keys ++ p.actions.map (·.target)).Nodup := by
    simpa [OrderedMap.keys, OrderedMap.empty] using hdistinct
  have hgather := run_gather_eq s o p.actions .empty hnames
  unfold convert checkConstruction
  simp only [hmode, Bool.false_eq_true, if_false, hvalid, Step.after, run_bind, hgather]
  cases readAll s o p.actions with
  | error e => rfl
  | ok l => rfl

/-- A class that makes the same of a call as of a mapping builds what it is called for. -/
theorem build_eq_call
    (hvalidate : ∀ validate ∈ c.validate, ∀ arguments, c.call arguments = validate arguments)
    (arguments : OrderedMap String Value) : c.build arguments = c.call arguments := by
  unfold RecordClass.build
  cases hv : c.validate with
  | none => rfl
  | some validate => exact (hvalidate validate hv arguments).symm

theorem callConstruct_eq (hmode : p.mode.isMerge = false) (hshape : p.shapeValid = true) :
    callConstruct globals p o s =
      if (EmittedPlan.ofPlan p).Readable then
        let r := (runConstruct globals o p.target.identifier
          (p.actions.map fun a => (a.target, a.source))).run.run s
        (r.1.mapError CallError.failure, r.2)
      else (.error .unreadable, s) := by
  have hfunction : (EmittedPlan.ofPlan p).function = some ⟨functionName p, body p⟩ := if_pos hshape
  unfold callConstruct
  rw [hfunction, body, hmode]
  rfl

theorem call_of_hidden (identifier : String) (h : identifier = parameter ∨ identifier = constant) :
    ∃ callee, Referent.ofName globals o identifier = some callee ∧
      ∀ arguments, callee.call arguments = throw .badArguments := by
  unfold Referent.ofName
  by_cases hconstant : identifier = constant
  · exact ⟨.constant, if_pos hconstant, fun _ => rfl⟩
  · have hparameter := h.resolve_right hconstant
    exact ⟨.argument o, by rw [if_neg hconstant, if_pos hparameter], fun _ => rfl⟩

/-- Once the class's name is looked up, the fields are read, and then the call is made. -/
theorem run_runConstruct (ho : IsAttributed s o) (identifier : String) (callee : Referent)
    (hcallee : Referent.ofName globals o (Code.canonicalName identifier) = some callee)
    (hnames : ∀ a ∈ p.actions, a.source = a.target ∧ Code.canonicalName a.target = a.target) :
    (runConstruct globals o identifier (p.actions.map fun a => (a.target, a.source))).run.run s =
      match readAll s o p.actions with
      | .error e => (.error (.live e), s)
      | .ok l => (callee.call ⟨l⟩).run.run s := by
  unfold runConstruct
  simp only [hcallee]
  rw [run_bind, run_evalArguments s o ho p.actions hnames]
  cases readAll s o p.actions <;> rfl

end

/-- Calling the function of a construction in a module where the class has its name does what the construction
does: the same object from the same values, or a failure of the same kind. But where the text cannot be read,
there is no function; and a class that has the name of the parameter or of a constant is never called. A class
may do as it likes with its arguments, so long as one that validates makes the same of a mapping as of a call. -/
theorem callConstruct_agrees (source target : Schema) (v : Variant) (path : Option TargetPath)
    (location : Option Location) (p : Plan) (hp : p = Plan.synthesize source target v path location)
    (hmode : v.mode.isMerge = false) (hvalid : ensureValid p = .ok ())
    (hdistinct : (p.actions.map (·.target)).Nodup)
    (hcanonical : ∀ name ∈ p.target.identifier :: p.actions.map (·.target),
      Code.canonicalName name = name)
    (globals : String → Option RecordClass) (c : RecordClass)
    (hvalidate : ∀ validate ∈ c.validate, ∀ arguments, c.call arguments = validate arguments)
    (hbound : globals p.target.identifier = some c) (o : ObjectId) (s : Store)
    (ho : IsAttributed s o) :
    ((EmittedPlan.ofPlan p).Readable → p.target.identifier ≠ parameter →
      p.target.identifier ≠ constant → callConstruct globals p o s = converted p o c s) ∧
    ((EmittedPlan.ofPlan p).Readable →
      p.target.identifier = parameter ∨ p.target.identifier = constant →
      callConstruct globals p o s =
        if ∀ a ∈ p.actions, (s.field o a.source).isOk then (.error .type, s)
        else converted p o c s) ∧
    (¬ (EmittedPlan.ofPlan p).Readable →
      callConstruct globals p o s = (.error .unreadable, s)) := by
  have hmode' : p.mode.isMerge = false := by
    rw [hp, Plan.mode_synthesize, hmode]
  have hshape : p.shapeValid = true := by
    have herrors := (List.append_eq_nil_iff.mp ((ensureValid_eq_ok_iff p).mp hvalid)).1
    rw [hp] at herrors ⊢
    exact Plan.shapeValid_synthesize source target v path location
      (Plan.shapeError_of_errors_nil source target v path location herrors)
  have hnames : ∀ a ∈ p.actions, a.source = a.target ∧ Code.canonicalName a.target = a.target := by
    intro a ha
    refine ⟨?_, hcanonical _ (List.mem_cons_of_mem _ (List.mem_map_of_mem ha))⟩
    rw [hp] at ha
    exact (Plan.action_fields source target v path location a ha).1
  have hidentifier := hcanonical p.target.identifier List.mem_cons_self
  have hconverted := convert_eq c p o s hmode' hvalid hdistinct
  rw [callConstruct_eq globals p o s hmode' hshape]
  refine ⟨?_, ?_, fun hread => if_neg hread⟩
  · intro hread hparameter hconstant
    have hcallee : Referent.ofName globals o (Code.canonicalName p.target.identifier) =
        some (.cls c) := by
      rw [hidentifier, Referent.ofName, if_neg hconstant, if_neg hparameter, hbound]
      rfl
    rw [if_pos hread,
      run_runConstruct globals p o s ho p.target.identifier (.cls c) hcallee hnames]
    simp only [converted, hconverted]
    cases readAll s o p.actions with
    | error e => rfl
    | ok l =>
      simp only [Referent.call, run_perform, build_eq_call c hvalidate, Step.after]
      generalize (c.call ⟨l⟩).run.run s = result
      obtain ⟨r, t⟩ := result
      cases r <;> rfl
  · intro hread hhidden
    obtain ⟨callee, hname, hcall⟩ := call_of_hidden globals o p.target.identifier hhidden
    rw [if_pos hread, run_runConstruct globals p o s ho p.target.identifier callee
      (hidentifier.symm ▸ hname) hnames]
    have hfields := isOk_readAll s o p.actions
    cases hall : readAll s o p.actions with
    | error e =>
      rw [hall] at hfields
      have hmissing : ¬ ∀ a ∈ p.actions, (s.field o a.source).isOk = true := fun hok =>
        Bool.false_ne_true (hfields.mpr hok)
      rw [if_neg hmissing]
      simp only [converted, hconverted, hall]
      rfl
    | ok l =>
      rw [hall] at hfields
      rw [if_pos (hfields.mp rfl)]
      simp only [hcall]
      rfl

/-- A draft whose class has the name of the parameter. -/
def hiddenDraft : Schema := { draft with identifier := "source" }

theorem callConstruct_agrees_article :
    (callConstruct (fun _ => some (.model articleFields)) (Plan.synthesize article draft (.hard .into)) 0
        desk).1 = .ok 3 ∧
      (convert (Plan.synthesize article hiddenDraft (.hard .into)) 0 (.model articleFields) desk).1 =
        .ok 3 ∧
      callConstruct (fun _ => some (.model articleFields))
        (Plan.synthesize article hiddenDraft (.hard .into)) 0 desk = (.error .type, desk) := by
  have hvalidate : ∀ validate ∈ (RecordClass.model articleFields).validate, ∀ arguments,
      (RecordClass.model articleFields).call arguments = validate arguments := by
    intro validate hv arguments
    cases hv
    rfl
  obtain ⟨hagrees, -, -⟩ := callConstruct_agrees article draft (.hard .into) none none _ rfl rfl rfl
    (by decide) (by decide) (fun _ => some (.model articleFields)) (.model articleFields) hvalidate rfl 0
    desk ⟨_, rfl, rfl⟩
  obtain ⟨-, hhidden, -⟩ := callConstruct_agrees article hiddenDraft (.hard .into) none none _ rfl rfl rfl
    (by decide) (by decide) (fun _ => some (.model articleFields)) (.model articleFields) hvalidate rfl 0
    desk ⟨_, rfl, rfl⟩
  refine ⟨?_, rfl, ?_⟩
  · rw [hagrees (by decide +kernel) (by decide) (by decide)]
    rfl
  · rw [hhidden (by decide +kernel) (.inl rfl)]
    rfl

end Crosswalk.Emission

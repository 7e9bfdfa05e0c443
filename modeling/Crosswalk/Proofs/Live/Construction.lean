import Crosswalk.Proofs.Live.Steps
import Crosswalk.Proofs.Optionality
import Crosswalk.Proofs.Plan.Synthesis

/-! What a construction hands to the class it builds. The arguments have the names the actions write and
the values of the fields they read; under a plan without problems and without defaults, these are the
names of all fields of the target. -/

namespace Crosswalk.Live

/-! Arguments -/

/-- The argument of a name comes from an action that writes the name, or was there before. -/
def Gathered (s : Store) (o : ObjectId) (actions : List FieldAction)
    (values arguments : OrderedMap String Value) : Prop :=
  ∀ name v, arguments.get? name = some v →
    values.get? name = some v ∨ ∃ a ∈ actions, a.target = name ∧ s.field o a.source = .ok v

theorem gathered_cons (s : Store) (o : ObjectId) (a : FieldAction) (rest : List FieldAction)
    (values arguments : OrderedMap String Value) (v : Value) (hv : s.field o a.source = .ok v)
    (h : Gathered s o rest (values.insert a.target v) arguments) :
    Gathered s o (a :: rest) values arguments := by
  intro name w hw
  rcases h name w hw with hinsert | ⟨b, hb, hname, hfield⟩
  · rw [OrderedMap.get?_insert] at hinsert
    by_cases hname : a.target = name
    · rw [if_pos hname] at hinsert
      cases hinsert
      exact .inr ⟨a, List.mem_cons_self, hname, hv⟩
    · rw [if_neg hname] at hinsert
      exact .inl hinsert
  · exact .inr ⟨b, List.mem_cons_of_mem a hb, hname, hfield⟩

/-- Where the fields that are read are there, gathering succeeds and changes nothing. -/
theorem run_gather (s : Store) (o : ObjectId) (actions : List FieldAction)
    (values : OrderedMap String Value)
    (hfields : ∀ a ∈ actions, ∃ v, s.field o a.source = .ok v) :
    ∃ arguments, (gather o values actions).run.run s = (.ok arguments, s) ∧
      Gathered s o actions values arguments ∧
      ∀ name, arguments.contains name = true ↔
        values.contains name = true ∨ ∃ a ∈ actions, a.target = name := by
  induction actions generalizing values with
  | nil => exact ⟨values, rfl, fun name v hv => .inl hv, fun name => by simp⟩
  | cons a rest ih =>
    obtain ⟨v, hv⟩ := hfields a List.mem_cons_self
    obtain ⟨arguments, hrun, hgathered, hnames⟩ :=
      ih (values.insert a.target v) fun b hb => hfields b (List.mem_cons_of_mem a hb)
    refine ⟨arguments, ?_, gathered_cons s o a rest values arguments v hv hgathered, ?_⟩
    · unfold gather
      rw [run_bind, run_read, hv]
      exact hrun
    · intro name
      rw [hnames name, OrderedMap.contains_insert, or_assoc, or_left_comm]
      simp only [List.mem_cons, or_and_right, exists_or, exists_eq_left]

/-! Constructions without defaults -/

section

variable (source target : Schema) (path : Option TargetPath) (location : Option Location)

/-- A plan of a construction without defaults that has no problems writes every field: a pair that is not
refused has an action, and a name without a pair is a problem. -/
theorem action_of_problems_nil (v : Variant) (hmode : v.mode = .into)
    (hproblems : (Plan.synthesize source target v path location).problems = [])
    (name : String) (hname : name ∈ target.fieldNames) :
    ∃ a ∈ (Plan.synthesize source target v path location).actions, a.target = name := by
  obtain ⟨herrors, hcompleteness⟩ := List.append_eq_nil_iff.mp hproblems
  have hshape := Plan.shapeError_of_errors_nil source target v path location herrors
  have hunmatched : name ∉ (Plan.synthesize source target v path location).unmatched := by
    have hvalid := Plan.shapeValid_synthesize source target v path location hshape
    have hinto : (Plan.synthesize source target v path location).mode = .into := by
      rw [Plan.mode_synthesize, hmode]
    unfold Plan.completeness Plan.missing at hcompleteness
    rw [if_pos ⟨hinto, hvalid⟩, List.map_eq_nil_iff] at hcompleteness
    rw [hcompleteness]
    exact List.not_mem_nil
  rw [Plan.mem_unmatched source target v path location hshape] at hunmatched
  have hpair : ∃ pair ∈ matchFields source target, pair.target.name = name := by
    apply Classical.byContradiction
    intro hnone
    exact hunmatched ⟨hname, fun pair hpair heq => hnone ⟨pair, hpair, heq⟩⟩
  obtain ⟨pair, hpair, rfl⟩ := hpair
  have hpairErrors := Plan.pair_errors_nil source target v path location herrors pair hpair
  have hsoft : v.soft = false := v.not_soft (by rw [hmode]; rfl)
  obtain ⟨a, ha⟩ := FieldPair.act_of_map pair v hsoft (by simp [hmode]) hpairErrors
  refine ⟨a, ?_, FieldPair.target_of_map pair v a ha⟩
  exact (Plan.mem_actions source target v path location a).mpr ⟨hshape, pair, hpair, ha⟩

theorem uncovered_eq_nil_iff (v : Variant)
    (hshape : Plan.shapeError source target location = none) :
    (Plan.synthesize source target v path location).uncovered = [] ↔
      ∀ name ∈ target.fieldNames,
        ∃ a ∈ (Plan.synthesize source target v path location).actions, a.target = name := by
  rw [List.eq_nil_iff_forall_not_mem]
  refine forall_congr' fun name => ?_
  rw [Plan.mem_uncovered source target v path location hshape, not_and]
  simp only [Classical.not_forall, Classical.not_not, exists_prop, ne_eq]

/-- What a plan gathers: a value for each name that is written, which is that of the source's field. -/
theorem gather_synthesized (v : Variant) (p : Plan)
    (hp : p = Plan.synthesize source target v path location) (o : ObjectId) (s : Store)
    (hfields : ∀ a ∈ p.actions, ∃ v, s.field o a.source = .ok v) :
    ∃ arguments, (gather o .empty p.actions).run.run s = (.ok arguments, s) ∧
      (∀ name, arguments.contains name = true ↔ ∃ a ∈ p.actions, a.target = name) ∧
      ∀ name v, arguments.get? name = some v → s.field o name = .ok v := by
  obtain ⟨arguments, hrun, hgathered, hnames⟩ := run_gather s o p.actions .empty hfields
  refine ⟨arguments, hrun, ?_, ?_⟩
  · intro name
    rw [hnames name]
    exact or_iff_right nofun
  · intro name v hv
    rcases hgathered name v hv with hempty | ⟨a, ha, rfl, hfield⟩
    · cases hempty
    · rw [hp] at ha
      obtain ⟨hsame, -, -⟩ := Plan.action_fields source target _ path location a ha
      rw [← hsame]
      exact hfield

/-- The arguments of a valid construction without defaults. -/
theorem into_arguments (p : Plan)
    (hp : p = Plan.synthesize source target (.hard .into) path location)
    (hproblems : p.problems = []) (o : ObjectId) (s : Store)
    (hfields : ∀ a ∈ p.actions, ∃ v, s.field o a.source = .ok v) :
    ∃ arguments, (gather o .empty p.actions).run.run s = (.ok arguments, s) ∧
      (∀ name, arguments.contains name = true ↔ name ∈ target.fieldNames) ∧
      ∀ name v, arguments.get? name = some v → s.field o name = .ok v := by
  obtain ⟨arguments, hrun, hnames, hvalues⟩ :=
    gather_synthesized source target path location _ p hp o s hfields
  refine ⟨arguments, hrun, fun name => ?_, hvalues⟩
  rw [hnames name]
  subst hp
  constructor
  · rintro ⟨a, ha, rfl⟩
    exact (Plan.action_fields source target _ path location a ha).2.2
  · exact action_of_problems_nil source target path location _ rfl hproblems name

/-- A plan of a construction without defaults that is valid leaves no field of the target out: its class
gets the source's value of every declared field, and nothing else. One that leaves a field out is never
valid. -/
theorem into_complete (p : Plan)
    (hp : p = Plan.synthesize source target (.hard .into) path location) :
    (ensureValid p = .ok () →
      p.uncovered = [] ∧ (∀ name ∈ target.fieldNames, ∃ a ∈ p.actions, a.target = name) ∧
      ∀ (c : RecordClass) (o : ObjectId) (s : Store),
        (∀ a ∈ p.actions, ∃ v, s.field o a.source = .ok v) →
        ∃ arguments : OrderedMap String Value,
          (∀ name, arguments.contains name = true ↔ name ∈ target.fieldNames) ∧
          (∀ name v, arguments.get? name = some v → s.field o name = .ok v) ∧
          convert p o c s = Step.after (.ok ()) (c.build arguments) s) ∧
    ∀ name ∈ target.fieldNames, (∀ a ∈ p.actions, a.target ≠ name) →
      p.problems ≠ [] ∧ ensureValid p = .error (.invalid p.problems) := by
  have hwritten : p.problems = [] → ∀ name ∈ target.fieldNames, ∃ a ∈ p.actions, a.target = name := by
    intro hproblems name hname
    subst hp
    exact action_of_problems_nil source target path location _ rfl hproblems name hname
  constructor
  · intro hvalid
    have hproblems := (ensureValid_eq_ok_iff p).mp hvalid
    have hall := hwritten hproblems
    refine ⟨?_, hall, ?_⟩
    · have herrors := (List.append_eq_nil_iff.mp hproblems).1
      subst hp
      have hshape := Plan.shapeError_of_errors_nil source target _ path location herrors
      exact (uncovered_eq_nil_iff source target path location _ hshape).mpr hall
    · intro c o s hfields
      have hmode : p.mode.isMerge = false := by
        rw [hp, Plan.mode_synthesize]
        rfl
      obtain ⟨arguments, hrun, hnames, hvalues⟩ :=
        into_arguments source target path location p hp hproblems o s hfields
      exact ⟨arguments, hnames, hvalues, run_convert p hmode hvalid o c s arguments hrun⟩
  · intro name hname hunwritten
    have hproblems : p.problems ≠ [] := by
      intro hnil
      obtain ⟨a, ha, htarget⟩ := hwritten hnil name hname
      exact hunwritten a ha htarget
    refine ⟨hproblems, ?_⟩
    unfold ensureValid
    rw [if_neg (by simpa using hproblems)]

end

/-- The fields of articles and of drafts. -/
def articleFields : Declarations := [("tags", none), ("size", none)]

theorem into_complete_article :
    (Plan.synthesize article draft (.hard .into)).uncovered = [] ∧
      (convert (Plan.synthesize article draft (.hard .into)) 0 (.strict articleFields) desk).1 =
        .ok 3 ∧
      ∃ arguments : OrderedMap String Value,
        (∀ name, arguments.contains name = true ↔ name ∈ ["tags", "size"]) ∧
        convert (Plan.synthesize article draft (.hard .into)) 0 (.strict articleFields) desk =
          Step.after (.ok ()) ((RecordClass.strict articleFields).build arguments) desk := by
  obtain ⟨hcomplete, -⟩ := into_complete article draft none none _ rfl
  obtain ⟨huncovered, -, hbuild⟩ := hcomplete rfl
  have hactions : (Plan.synthesize article draft (.hard .into)).actions =
      [⟨"tags", "tags", .wrap, false, false, false⟩, ⟨"size", "size", .wrap, false, false, false⟩] := rfl
  have hfields : ∀ a ∈ (Plan.synthesize article draft (.hard .into)).actions,
      ∃ v, desk.field 0 a.source = .ok v := by
    intro a ha
    rw [hactions, List.mem_cons, List.mem_singleton] at ha
    rcases ha with rfl | rfl
    · exact ⟨.ref 2, rfl⟩
    · exact ⟨.scalar (.integer 3), rfl⟩
  obtain ⟨arguments, hnames, -, hconvert⟩ := hbuild (.strict articleFields) 0 desk hfields
  exact ⟨huncovered, rfl, arguments, hnames, hconvert⟩

end Crosswalk.Live

import Mathlib.Data.List.Forall2
import Crosswalk.Proofs.FieldMapping.Fit
import Crosswalk.Proofs.Plan.Synthesis

/-! What the hard modes differ in. All construct and update alike, apart from the verbs of their messages,
where the types of a pair neither narrow nor demote an optional. A construction with defaults passes over
what another refuses, and an update that copies takes a value out of an optional if it is there. -/

namespace Crosswalk

/-- What is told where. -/
def Diagnostic.subject (d : Diagnostic) : ErrorKind × Location := (d.kind, d.location)

def FieldAction.uncloned (a : FieldAction) : FieldAction := { a with clone := false }

namespace FieldPair

/-- The errors of a pair, each with the pair. -/
def complaints (pair : FieldPair) (v : Variant) : List (FieldPair × Diagnostic) :=
  (pair.map v).errors.map (pair, ·)

/-- Whether two optional sides are told to be one optional too many. -/
def isNarrowing (complaint : FieldPair × Diagnostic) : Bool :=
  complaint.1.sourceOptionality.isOptional && complaint.1.targetOptionality.isOptional &&
    complaint.2.kind = .optionalDowngrade

section

variable (pair : FieldPair)

@[simp] theorem subject_report (mode : Mode) (p : MappingProblem) :
    (pair.report mode p).subject = (p.kind, pair.source.location) := by
  unfold Diagnostic.subject
  rw [kind_report, location_report]

/-- A mismatch is told in one way by both constructions, and in one by both updates. -/
theorem report_mismatch (mode mode' : Mode) (h : mode.isMerge = mode'.isMerge) (a b : TypeExpr) :
    pair.report mode (.mismatch a b) = pair.report mode' (.mismatch a b) := by
  unfold report verb
  rw [h]

theorem action?_intoDefault :
    (pair.map (.hard .intoDefault)).action? = (pair.map (.hard .into)).action? := by
  rw [map_eq_outcome, map_eq_outcome]
  cases pair.fit <;> simp [Fit.outcome, demote, unwrap, Variant.hard, Mode.clones]

theorem action?_merge : (pair.map (.hard .merge)).action? = (pair.map (.hard .into)).action? := by
  rw [map_eq_outcome, map_eq_outcome]
  cases pair.fit <;> simp [Fit.outcome, demote, unwrap, Variant.hard, Mode.clones]

/-- A construction with defaults has all errors but those of optionals that it passes over. -/
theorem errors_intoDefault :
    (pair.map (.hard .intoDefault)).errors =
      (pair.map (.hard .into)).errors.filter (·.kind ≠ .optionalDowngrade) := by
  obtain ⟨s, t, -, -, hbetween⟩ := between_fit pair
  rw [map_eq_outcome, map_eq_outcome]
  generalize pair.fit = f at hbetween
  cases hbetween with
  | invalid _ _ first rest told =>
    symm
    apply List.filter_eq_self.mpr
    intro d hd
    simp [told d hd]
  | mismatch =>
    simp [Fit.outcome, Variant.hard, MappingProblem.kind, report_mismatch pair .intoDefault .into rfl]
  | plain | demotion | wrapping | passing | narrowing | widening =>
    simp [Fit.outcome, demote, unwrap, Variant.hard, MappingProblem.kind]

theorem subjects_merge :
    (pair.map (.hard .merge)).errors.map Diagnostic.subject =
      (pair.map (.hard .into)).errors.map Diagnostic.subject := by
  rw [map_eq_outcome, map_eq_outcome]
  cases pair.fit <;> simp [Fit.outcome, demote, unwrap, Variant.hard]

/-- Apart from its copies, an update that copies only does more. -/
theorem action?_mergeRef :
    ((pair.map (.hard .mergeRef)).action?.filter (·.kind ≠ .unwrapIfPresent)).map
      FieldAction.uncloned = (pair.map (.hard .merge)).action? := by
  rw [map_eq_outcome, map_eq_outcome]
  cases pair.fit <;>
    simp [Fit.outcome, demote, unwrap, Variant.hard, Mode.clones, FieldAction.uncloned]

/-- Two optional sides are told to be one optional too many just where they are. -/
theorem isNarrowing_iff (c : FieldPair × Diagnostic) (hc : c ∈ pair.complaints (.hard .merge)) :
    isNarrowing c = true ↔ pair.fit = .narrowing := by
  obtain ⟨d, hd, rfl⟩ := List.mem_map.mp hc
  obtain ⟨s, t, hs, ht, hbetween⟩ := between_fit pair
  rw [map_eq_outcome] at hd
  generalize pair.fit = f at hbetween hd
  cases hbetween with
  | invalid _ _ first rest told =>
    have hkind : d.kind = .fieldType := told d hd
    simp [isNarrowing, hkind]
  | plain | wrapping | passing | widening => simp [Fit.outcome, Variant.hard] at hd
  | mismatch =>
    cases List.mem_singleton.mp hd
    simp [isNarrowing, MappingProblem.kind]
  | demotion =>
    simp [isNarrowing, ht, Optionality.isOptional]
  | narrowing =>
    cases List.mem_singleton.mp hd
    simp [isNarrowing, hs, ht, Optionality.isOptional, MappingProblem.kind]

theorem map_mergeRef_of_narrowing (h : pair.fit = .narrowing) :
    pair.map (.hard .mergeRef) = pair.act (.hard .mergeRef) .unwrapIfPresent := by
  simp [map_eq_outcome, h, Fit.outcome, unwrap, Variant.hard]

theorem map_merge_of_narrowing (h : pair.fit = .narrowing) :
    pair.map (.hard .merge) = pair.reject (.hard .merge) .downgrade := by
  simp [map_eq_outcome, h, Fit.outcome, unwrap, Variant.hard]

/-- An update that copies takes values out of the optionals that another complains of. -/
theorem unwraps_mergeRef :
    List.Forall₂ (fun a complaint => FieldPair.map complaint.1 (.hard .mergeRef) = .act a)
      ((pair.map (.hard .mergeRef)).action?.toList.filter (·.kind = .unwrapIfPresent))
      ((pair.complaints (.hard .merge)).filter isNarrowing) := by
  by_cases hfit : pair.fit = .narrowing
  · have hact := pair.map_mergeRef_of_narrowing hfit
    have hall : (pair.complaints (.hard .merge)).filter isNarrowing =
        pair.complaints (.hard .merge) :=
      List.filter_eq_self.mpr fun c hc => (pair.isNarrowing_iff c hc).mpr hfit
    rw [hall, complaints, pair.map_merge_of_narrowing hfit, hact]
    exact .cons hact .nil
  · have hnone : (pair.complaints (.hard .merge)).filter isNarrowing = [] :=
      List.filter_eq_nil_iff.mpr fun c hc h => hfit ((pair.isNarrowing_iff c hc).mp h)
    rw [hnone, map_eq_outcome]
    revert hfit
    cases pair.fit <;> simp [Fit.outcome, demote, Variant.hard]

/-- Otherwise it complains of what the other complains of. -/
theorem subjects_mergeRef :
    (pair.map (.hard .mergeRef)).errors.map Diagnostic.subject =
      ((pair.complaints (.hard .merge)).filter (!isNarrowing ·)).map (·.2.subject) := by
  by_cases hfit : pair.fit = .narrowing
  · have hnone : (pair.complaints (.hard .merge)).filter (!isNarrowing ·) = [] :=
      List.filter_eq_nil_iff.mpr fun c hc => by simp [(pair.isNarrowing_iff c hc).mpr hfit]
    rw [hnone, pair.map_mergeRef_of_narrowing hfit]
    rfl
  · have hall : (pair.complaints (.hard .merge)).filter (!isNarrowing ·) =
        pair.complaints (.hard .merge) :=
      List.filter_eq_self.mpr fun c hc => by
        rw [← pair.isNarrowing_iff c hc] at hfit
        simpa using hfit
    rw [hall, complaints, List.map_map, map_eq_outcome, map_eq_outcome]
    revert hfit
    cases pair.fit <;> simp [Fit.outcome, demote, Variant.hard]

end
end FieldPair

namespace Plan

/-! Whole plans -/

section

variable (source target : Schema) (v w : Variant) (path : Option TargetPath)
  (location : Option Location)

/-- The errors of the pairs, each with its pair. -/
def complaints : List (FieldPair × Diagnostic) :=
  (mapped source target location).flatMap (·.complaints v)

/-- The errors of a plan are the error of shape and those of its pairs. -/
theorem errors_eq_complaints :
    (synthesize source target v path location).errors =
      (shapeError source target location).toList ++
        (complaints source target v location).map (·.2) := by
  rw [errors_mapped, complaints, List.map_flatMap]
  congr 1
  apply List.flatMap_congr
  intro pair _
  simp [FieldPair.complaints, Function.comp_def]

/-- Which fields are matched is no matter of the variant. -/
theorem unmatched_synthesize :
    (synthesize source target v path location).unmatched =
      (synthesize source target w path location).unmatched := by
  unfold synthesize
  cases shapeError source target location <;> rfl

end

variable (source target : Schema) (path : Option TargetPath) (location : Option Location)

def hard (mode : Mode) : Plan := synthesize source target (.hard mode) path location

theorem actions_hard_intoDefault :
    (hard source target path location .intoDefault).actions =
      (hard source target path location .into).actions := by
  unfold hard
  rw [actions_mapped, actions_mapped]
  exact List.filterMap_congr fun pair _ => pair.action?_intoDefault

theorem actions_hard_merge :
    (hard source target path location .merge).actions =
      (hard source target path location .into).actions := by
  unfold hard
  rw [actions_mapped, actions_mapped]
  exact List.filterMap_congr fun pair _ => pair.action?_merge

theorem not_clone_hard (mode : Mode) (hmode : mode ≠ .mergeRef) (a : FieldAction)
    (h : a ∈ (hard source target path location mode).actions) :
    a.clone = false ∧ a.eagerClone = false := by
  obtain ⟨-, pair, -, ha⟩ := (mem_actions source target (.hard mode) path location a).mp h
  obtain ⟨_, _, -, rfl⟩ := pair.allows_of_map (.hard mode) a ha
  simp [Variant.hard, Mode.clones, hmode]

theorem errors_hard_intoDefault :
    (hard source target path location .intoDefault).errors =
      (hard source target path location .into).errors.filter (·.kind ≠ .optionalDowngrade) := by
  have hshape : (shapeError source target location).toList.filter (·.kind ≠ .optionalDowngrade) =
      (shapeError source target location).toList := by
    apply List.filter_eq_self.mpr
    intro d hd
    obtain ⟨_, _, -, -, hkind, -⟩ :=
      problem_of_shapeError source target location d (Option.mem_toList.mp hd)
    simp [hkind]
  unfold hard
  rw [errors_mapped, errors_mapped, List.filter_append, hshape, List.filter_flatMap]
  congr 1
  exact List.flatMap_congr fun pair _ => pair.errors_intoDefault

theorem subjects_hard_merge :
    (hard source target path location .merge).errors.map Diagnostic.subject =
      (hard source target path location .into).errors.map Diagnostic.subject := by
  unfold hard
  rw [errors_mapped, errors_mapped, List.map_append, List.map_append, List.map_flatMap,
    List.map_flatMap]
  congr 1
  exact List.flatMap_congr fun pair _ => pair.subjects_merge

theorem actions_hard_mergeRef :
    ((hard source target path location .mergeRef).actions.filter (·.kind ≠ .unwrapIfPresent)).map
      FieldAction.uncloned = (hard source target path location .merge).actions := by
  unfold hard
  rw [actions_mapped, actions_mapped, List.filter_filterMap, List.map_filterMap]
  exact List.filterMap_congr fun pair _ => pair.action?_mergeRef

theorem unwraps_hard_mergeRef :
    List.Forall₂ (fun a complaint => FieldPair.map complaint.1 (.hard .mergeRef) = .act a)
      ((hard source target path location .mergeRef).actions.filter (·.kind = .unwrapIfPresent))
      ((complaints source target (.hard .merge) location).filter FieldPair.isNarrowing) := by
  unfold hard
  rw [actions_mapped, complaints, List.filterMap_eq_flatMap_toList, List.filter_flatMap,
    List.filter_flatMap]
  induction mapped source target location with
  | nil => exact .nil
  | cons pair rest ih => exact List.rel_append pair.unwraps_mergeRef ih

theorem subjects_hard_mergeRef :
    (hard source target path location .mergeRef).errors.map Diagnostic.subject =
      ((shapeError source target location).toList ++
        ((complaints source target (.hard .merge) location).filter
          (!FieldPair.isNarrowing ·)).map (·.2)).map Diagnostic.subject := by
  unfold hard
  rw [errors_mapped, complaints, List.filter_flatMap, List.map_append, List.map_append,
    List.map_flatMap, List.map_flatMap, List.map_flatMap]
  congr 1
  apply List.flatMap_congr
  intro pair _
  rw [pair.subjects_mergeRef, List.map_map]
  rfl

/-- What the hard modes differ in. All take the same actions and have the same errors, but that a
construction with defaults passes over optionals that others refuse, and that an update that copies takes
the values out of optionals that have one optional around them too many. -/
theorem hard_modes_differ :
    let plan := hard source target path location
    let told := complaints source target (.hard .merge) location
    ((plan .intoDefault).actions = (plan .into).actions ∧
      (plan .merge).actions = (plan .into).actions ∧
      ∀ mode, mode ≠ .mergeRef → ∀ a ∈ (plan mode).actions,
        a.clone = false ∧ a.eagerClone = false) ∧
    (plan .intoDefault).errors = (plan .into).errors.filter (·.kind ≠ .optionalDowngrade) ∧
    (plan .into).errors.map Diagnostic.subject = (plan .merge).errors.map Diagnostic.subject ∧
    ((plan .mergeRef).actions.filter (·.kind ≠ .unwrapIfPresent)).map FieldAction.uncloned =
      (plan .merge).actions ∧
    List.Forall₂ (fun a complaint => FieldPair.map complaint.1 (.hard .mergeRef) = .act a)
      ((plan .mergeRef).actions.filter (·.kind = .unwrapIfPresent))
      (told.filter FieldPair.isNarrowing) ∧
    (plan .merge).errors = (shapeError source target location).toList ++ told.map (·.2) ∧
    (plan .mergeRef).errors.map Diagnostic.subject =
      ((shapeError source target location).toList ++
        (told.filter (!FieldPair.isNarrowing ·)).map (·.2)).map Diagnostic.subject ∧
    ∀ mode, (plan mode).unmatched = (plan .into).unmatched := by
  intro plan told
  exact ⟨⟨actions_hard_intoDefault source target path location,
      actions_hard_merge source target path location, not_clone_hard source target path location⟩,
    errors_hard_intoDefault source target path location,
    (subjects_hard_merge source target path location).symm,
    actions_hard_mergeRef source target path location,
    unwraps_hard_mergeRef source target path location,
    errors_eq_complaints source target (.hard .merge) path location,
    subjects_hard_mergeRef source target path location,
    fun mode => unmatched_synthesize source target (.hard mode) (.hard .into) path location⟩

/-- Of two optionals too many a construction with defaults has no error, and an update that copies has one. -/
theorem hard_modes_differ_draft :
    (hard draft article none none .into).errors.length = 2 ∧
      (hard draft article none none .intoDefault).errors = [] ∧
      (hard draft article none none .mergeRef).errors.map Diagnostic.subject =
        [(.optionalDowngrade, {})] := by
  obtain ⟨-, hdefault, -, -, -, -, href, -⟩ := hard_modes_differ draft article none none
  refine ⟨rfl, ?_, ?_⟩
  · rw [hdefault]
    rfl
  · rw [href]
    rfl

end Plan
end Crosswalk

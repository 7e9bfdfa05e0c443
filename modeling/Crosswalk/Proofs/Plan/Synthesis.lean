import Crosswalk.Plan
import Crosswalk.Proofs.FieldMapping

/-! What a plan is made of. Without an error of shape, its actions are those of the matched pairs and its
errors are theirs; the lists of unmatched and uncovered names are filters of the target's names. -/

namespace Crosswalk

theorem mem_matchFields (source target : Schema) (pair : FieldPair) :
    pair ∈ matchFields source target ↔
      pair.source ∈ source.fields ∧ target.get? pair.source.name = some pair.target := by
  unfold matchFields
  constructor
  · intro h
    obtain ⟨f, hf, hmap⟩ := List.mem_filterMap.mp h
    obtain ⟨g, hg, rfl⟩ := Option.map_eq_some_iff.mp hmap
    exact ⟨hf, hg⟩
  · rintro ⟨hf, hg⟩
    exact List.mem_filterMap.mpr ⟨pair.source, hf, by simp [hg]⟩

theorem target_mem_of_matched (source target : Schema) (pair : FieldPair)
    (h : pair ∈ matchFields source target) : pair.target ∈ target.fields :=
  target.get?_mem _ _ ((mem_matchFields source target pair).mp h).2

/-- Matched fields have one name. -/
theorem name_of_matched (source target : Schema) (pair : FieldPair)
    (h : pair ∈ matchFields source target) : pair.target.name = pair.source.name :=
  target.get?_name _ _ ((mem_matchFields source target pair).mp h).2

namespace Plan

variable (source target : Schema) (v : Variant) (path : Option TargetPath)
  (location : Option Location)

theorem shapeError_of_errors_nil (h : (synthesize source target v path location).errors = []) :
    shapeError source target location = none := by
  unfold synthesize at h
  cases hs : shapeError source target location with
  | none => rfl
  | some error => simp [hs] at h

theorem shapeError_eq_none_iff :
    shapeError source target location = none ↔ source.isNamed = true ∧ target.isNamed = true := by
  unfold shapeError Schema.shapeError Schema.isNamed
  cases source.problem <;> cases target.problem <;> simp

/-- An error of shape tells the problem of one of the schemas. -/
theorem problem_of_shapeError (d : Diagnostic) (h : shapeError source target location = some d) :
    ∃ s p, (s = source ∨ s = target) ∧ s.problem = some p ∧ d.kind = .schemaShape ∧
      d.message = p.message := by
  unfold shapeError Schema.shapeError at h
  cases hsource : source.problem with
  | some p =>
    rw [hsource] at h
    cases h
    exact ⟨source, p, .inl rfl, hsource, rfl, rfl⟩
  | none =>
    rw [hsource] at h
    obtain ⟨p, htarget, rfl⟩ := Option.map_eq_some_iff.mp h
    exact ⟨target, p, .inr rfl, htarget, rfl, rfl⟩

theorem actions_synthesize (h : shapeError source target location = none) :
    (synthesize source target v path location).actions =
      (matchFields source target).filterMap fun pair => (pair.map v).action? := by
  simp only [synthesize, h, List.filterMap_map]
  rfl

theorem errors_synthesize (h : shapeError source target location = none) :
    (synthesize source target v path location).errors =
      (matchFields source target).flatMap fun pair => (pair.map v).errors := by
  simp [synthesize, h, List.flatMap_map]

/-- The pairs that are mapped: none, if a schema is no list of named fields. -/
def mapped : List FieldPair :=
  if shapeError source target location = none then matchFields source target else []

theorem actions_mapped :
    (synthesize source target v path location).actions =
      (mapped source target location).filterMap fun pair => (pair.map v).action? := by
  unfold mapped
  split
  · exact actions_synthesize source target v path location ‹_›
  · rename_i hshape
    obtain ⟨error, herror⟩ := Option.ne_none_iff_exists'.mp hshape
    simp [synthesize, herror]

theorem errors_mapped :
    (synthesize source target v path location).errors =
      (shapeError source target location).toList ++
        (mapped source target location).flatMap fun pair => (pair.map v).errors := by
  unfold mapped
  cases hshape : shapeError source target location with
  | none => simp [errors_synthesize source target v path location hshape]
  | some error => simp [synthesize, hshape]

theorem variant_synthesize : (synthesize source target v path location).variant = v := by
  unfold synthesize
  cases shapeError source target location <;> rfl

theorem mode_synthesize : (synthesize source target v path location).mode = v.mode := by
  unfold synthesize mode
  cases shapeError source target location <;> rfl

theorem source_synthesize : (synthesize source target v path location).source = source := by
  unfold synthesize
  cases shapeError source target location <;> rfl

theorem target_synthesize : (synthesize source target v path location).target = target := by
  unfold synthesize
  cases shapeError source target location <;> rfl

theorem targetPath_synthesize : (synthesize source target v path location).targetPath = path := by
  unfold synthesize
  cases shapeError source target location <;> rfl

theorem shapeValid_synthesize (h : shapeError source target location = none) :
    (synthesize source target v path location).shapeValid = true := by
  have hnamed := (shapeError_eq_none_iff source target location).mp h
  simp [synthesize, h, shapeValid, hnamed]

theorem mem_actions (a : FieldAction) :
    a ∈ (synthesize source target v path location).actions ↔
      shapeError source target location = none ∧
        ∃ pair ∈ matchFields source target, pair.map v = .act a := by
  cases hs : shapeError source target location with
  | some error => simp [synthesize, hs]
  | none =>
    rw [actions_synthesize source target v path location hs]
    simp only [List.mem_filterMap, true_and]
    refine exists_congr fun pair => and_congr_right fun _ => ?_
    cases pair.map v <;> simp [FieldOutcome.action?]

theorem mem_unmatched (h : shapeError source target location = none) (name : String) :
    name ∈ (synthesize source target v path location).unmatched ↔
      name ∈ target.fieldNames ∧ ∀ pair ∈ matchFields source target, pair.target.name ≠ name := by
  simp [synthesize, h]

theorem mem_uncovered (h : shapeError source target location = none) (name : String) :
    name ∈ (synthesize source target v path location).uncovered ↔
      name ∈ target.fieldNames ∧
        ∀ a ∈ (synthesize source target v path location).actions, a.target ≠ name := by
  simp [synthesize, h]

/-- What is wrong with a plan is no matter of finding its target, nor of asking for it. -/
theorem kinds_of_problem (d : Diagnostic)
    (h : d ∈ (synthesize source target v path location).errors ++
      (synthesize source target v path location).completeness location) :
    d.kind ≠ .pathResolution ∧ d.kind ≠ .configuration := by
  rcases List.mem_append.mp h with h | h
  · cases hs : shapeError source target location with
    | some error =>
      have herror : d = error := by simpa [synthesize, hs] using h
      obtain ⟨_, _, -, -, hkind, -⟩ := problem_of_shapeError source target location error hs
      rw [herror, hkind]
      exact ⟨nofun, nofun⟩
    | none =>
      rw [errors_synthesize source target v path location hs] at h
      obtain ⟨pair, -, hd⟩ := List.mem_flatMap.mp h
      cases FieldPair.complaint_of_map pair v d hd <;> exact ⟨nofun, nofun⟩
  · obtain ⟨name, -, rfl⟩ := List.mem_map.mp h
    exact ⟨nofun, nofun⟩

theorem kind_of_problem (d : Diagnostic)
    (h : d ∈ (synthesize source target v path location).errors ++
      (synthesize source target v path location).completeness location) :
    d.kind ≠ .pathResolution :=
  (kinds_of_problem source target v path location d h).1

/-- Only a construction can be incomplete. -/
theorem completeness_of_merge (p : Plan) (hmerge : p.mode.isMerge = true) :
    p.completeness location = [] := by
  have hmode : p.mode ≠ .into := by
    intro h
    simp [h, Mode.isMerge] at hmerge
  simp [completeness, missing, hmode]

theorem problems_of_merge (p : Plan) (hmerge : p.mode.isMerge = true) : p.problems = p.errors := by
  simp [problems, completeness_of_merge none p hmerge]

/-- A plan without errors has no pair with one. -/
theorem pair_errors_nil (h : (synthesize source target v path location).errors = [])
    (pair : FieldPair) (hpair : pair ∈ matchFields source target) : (pair.map v).errors = [] := by
  have hs := shapeError_of_errors_nil source target v path location h
  rw [errors_synthesize source target v path location hs] at h
  exact List.flatMap_eq_nil_iff.mp h pair hpair

/-- Every action reads a field of the source and writes a field of the target, of the same name. -/
theorem action_fields (a : FieldAction)
    (h : a ∈ (synthesize source target v path location).actions) :
    a.source = a.target ∧ a.source ∈ source.fieldNames ∧ a.target ∈ target.fieldNames := by
  obtain ⟨-, pair, hpair, ha⟩ := (mem_actions source target v path location a).mp h
  rw [FieldPair.source_of_map pair v a ha, FieldPair.target_of_map pair v a ha]
  refine ⟨(name_of_matched source target pair hpair).symm, ?_, ?_⟩
  · exact List.mem_map_of_mem ((mem_matchFields source target pair).mp hpair).1
  · exact List.mem_map_of_mem (target_mem_of_matched source target pair hpair)

theorem action_eager (a : FieldAction)
    (h : a ∈ (synthesize source target v path location).actions) (he : a.eagerClone = true) :
    a.clone = true ∧ a.onlyIfAbsent = true ∧ a.kind = .wrap := by
  obtain ⟨-, pair, -, ha⟩ := (mem_actions source target v path location a).mp h
  exact FieldPair.eager_of_map pair v a ha he

end Plan
end Crosswalk

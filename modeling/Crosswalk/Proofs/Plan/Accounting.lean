import Mathlib.Data.List.Basic
import Crosswalk.Proofs.Plan.Softness
import Crosswalk.Proofs.Plan.Written

/-! How a plan accounts for the fields of two schemas. Each matched pair comes to an action, to its errors, or
is left alone on purpose; the plan strings these together in the order of the source. So a target whose names
are not repeated has each name once among the fields that are written and those that are not, and a field that
has no partner has no part in the actions and errors. -/

namespace Crosswalk

/-! One pair -/

namespace FieldPair

variable (pair : FieldPair) (v : Variant)

/-- Neither of the two types is one. -/
def BothInvalid : Prop :=
  ∃ d e, pair.sourceOptionality = .invalid d ∧ pair.targetOptionality = .invalid e

/-- What is skipped on purpose: by a soft update a plain field that holds the source's type or gets an
optional, by a construction with defaults a field for which the source has an optional too many. -/
def LeftAlone : Prop :=
  v.soft = true ∧ (pair.fit = .plain ∨ pair.fit = .demotion) ∨
    v.mode = .intoDefault ∧ (pair.fit = .demotion ∨ pair.fit = .narrowing)

/-- What one pair comes to. -/
inductive ComesTo : FieldOutcome → Prop
  | act (a : FieldAction) (wanted : ¬ pair.LeftAlone v) : ComesTo (.act a)
  | fail (d : Diagnostic) (wanted : ¬ pair.LeftAlone v) (one : ¬ pair.BothInvalid) :
    ComesTo (.fail [d])
  | failTwice (d e : Diagnostic) (wanted : ¬ pair.LeftAlone v)
      (source : pair.sourceOptionality = .invalid d) (target : pair.targetOptionality = .invalid e) :
    ComesTo (.fail [d, e])
  | skip (alone : pair.LeftAlone v) : ComesTo .skip

theorem Fit.ofOptionals_ne_invalid (inner outer inner' outer' : TypeExpr) (first : Diagnostic)
    (rest : List Diagnostic) : ofOptionals inner outer inner' outer' ≠ invalid first rest := by
  unfold ofOptionals
  split
  · exact nofun
  split
  · exact nofun
  split <;> exact nofun

/-- A pair that does not fit for its types has one error, or one for each of them. -/
theorem invalid_of_fit (first : Diagnostic) (rest : List Diagnostic)
    (h : pair.fit = .invalid first rest) :
    rest = [] ∧ ¬ pair.BothInvalid ∨
      ∃ e, rest = [e] ∧ pair.sourceOptionality = .invalid first ∧
        pair.targetOptionality = .invalid e := by
  unfold fit at h
  unfold BothInvalid
  generalize pair.sourceOptionality = s at h ⊢
  generalize pair.targetOptionality = t at h ⊢
  cases s with
  | invalid d =>
    cases t with
    | invalid e =>
      cases h
      exact .inr ⟨e, rfl, rfl, rfl⟩
    | plain b | optional inner outer =>
      cases h
      exact .inl ⟨rfl, by simp⟩
  | plain a =>
    cases t with
    | invalid e =>
      cases h
      exact .inl ⟨rfl, by simp⟩
    | plain b | optional inner outer =>
      dsimp only [Fit.ofTypes] at h
      split at h <;> cases h
  | optional inner outer =>
    cases t with
    | invalid e =>
      cases h
      exact .inl ⟨rfl, by simp⟩
    | plain b => cases h
    | optional inner' outer' => exact absurd h (Fit.ofOptionals_ne_invalid _ _ _ _ _ _)

theorem fit_of_bothInvalid (h : pair.BothInvalid) : ∃ d e, pair.fit = .invalid d [e] := by
  obtain ⟨d, e, hs, ht⟩ := h
  exact ⟨d, e, by rw [fit, hs, ht, Fit.ofTypes]⟩

theorem not_bothInvalid (h : ∀ d e, pair.fit ≠ .invalid d [e]) : ¬ pair.BothInvalid := by
  intro hboth
  obtain ⟨d, e, hfit⟩ := pair.fit_of_bothInvalid hboth
  exact h d e hfit

/-- Of every pair exactly one thing becomes. -/
theorem comesTo_map : pair.ComesTo v (pair.map v) := by
  have hinvalid := pair.invalid_of_fit
  have hone := pair.not_bothInvalid
  rw [map_eq_outcome]
  cases hfit : pair.fit with
  | invalid first rest =>
    have hwanted : ¬ pair.LeftAlone v := by simp [LeftAlone, hfit]
    rcases hinvalid first rest hfit with ⟨rfl, hone⟩ | ⟨e, rfl, hs, ht⟩
    · exact .fail first hwanted hone
    · exact .failTwice first e hwanted hs ht
  | mismatch => exact .fail _ (by simp [LeftAlone, hfit]) (hone (by simp [hfit]))
  | plain =>
    dsimp only [Fit.outcome]
    split
    · exact .skip (.inl ⟨‹_›, .inl hfit⟩)
    · exact .act _ (by simp_all [LeftAlone])
  | demotion =>
    dsimp only [Fit.outcome]
    unfold demote
    split
    · rename_i hlenient
      exact .skip (by simpa [LeftAlone, hfit] using hlenient)
    · rename_i hstrict
      exact .fail _ (by simpa [LeftAlone, hfit] using hstrict) (hone (by simp [hfit]))
  | narrowing =>
    dsimp only [Fit.outcome]
    unfold unwrap
    split
    · rename_i hcautious
      refine .act _ ?_
      rintro (⟨-, h⟩ | ⟨hmode, -⟩)
      · simp [hfit] at h
      · simp [hmode, v.not_soft (by rw [hmode]; rfl)] at hcautious
    split
    · exact .skip (.inr ⟨‹_›, .inr hfit⟩)
    · exact .fail _ (by simp_all [LeftAlone]) (hone (by simp [hfit]))
  | wrapping | passing | widening => exact .act _ (by simp [LeftAlone, hfit])

end FieldPair

/-! The fields both schemas have -/

/-- The fields of a schema that another has the name of. -/
def Schema.shared (s t : Schema) : Schema :=
  { s with fields := s.fields.filter (·.name ∈ t.fieldNames) }

@[simp] theorem Schema.fields_shared (s t : Schema) :
    (s.shared t).fields = s.fields.filter (·.name ∈ t.fieldNames) := rfl

theorem Schema.exists_get?_iff (s : Schema) (name : String) :
    (∃ f, s.get? name = some f) ↔ name ∈ s.fieldNames := by
  simp only [← Option.isSome_iff_exists, Schema.get?, List.find?_isSome, Schema.fieldNames,
    List.mem_map, beq_iff_eq]

section

variable (source target : Schema)

/-- The sources of the pairs are the fields that the target has too, in their order. -/
theorem sources_matchFields :
    (matchFields source target).map (·.source) = (source.shared target).fields := by
  rw [Schema.fields_shared]
  unfold matchFields
  have hshared := target.exists_get?_iff
  induction source.fields with
  | nil => rfl
  | cons f rest ih =>
    cases hg : target.get? f.name with
    | none =>
      have hnone : f.name ∉ target.fieldNames := by simp [← hshared, hg]
      simpa [hg, hnone] using ih
    | some g =>
      have hsome : f.name ∈ target.fieldNames := (hshared _).mp ⟨g, hg⟩
      simpa [hg, hsome] using ih

theorem get?_shared (name : String) (h : name ∈ source.fieldNames) :
    (target.shared source).get? name = target.get? name := by
  unfold Schema.shared Schema.get?
  rw [List.find?_filter]
  congr 1
  funext g
  by_cases hg : g.name = name
  · simp [hg, h]
  · simp [hg]

/-- Fields without a partner make no pairs. -/
theorem matchFields_shared :
    matchFields (source.shared target) (target.shared source) = matchFields source target := by
  have hpartner := get?_shared source target
  have hmem : ∀ f ∈ source.fields, f.name ∈ source.fieldNames := fun f => List.mem_map_of_mem
  have hshared := target.exists_get?_iff
  unfold matchFields
  rw [Schema.fields_shared, List.filterMap_filter]
  apply List.filterMap_congr
  intro f hf
  rw [hpartner f.name (hmem f hf)]
  cases hg : target.get? f.name with
  | none => simp
  | some g => simp [(hshared f.name).mp ⟨g, hg⟩]

end

namespace Plan

section

variable (source target : Schema) (v : Variant) (path : Option TargetPath)
  (location : Option Location)

/-! Names -/

theorem sources_eq_targets :
    (synthesize source target v path location).actions.map (·.source) =
      (synthesize source target v path location).actions.map (·.target) :=
  List.map_congr_left fun a ha => (action_fields source target v path location a ha).1

theorem sources_sublist :
    ((synthesize source target v path location).actions.map (·.source)).Sublist
      source.fieldNames := by
  rw [sources_eq_targets]
  by_cases hshape : shapeError source target location = none
  · rw [targets_synthesize source target v path location hshape]
    exact List.filter_sublist.map _
  · rw [actions_of_shapeError source target v path location hshape]
    exact List.nil_sublist _

theorem uncovered_sublist :
    (synthesize source target v path location).uncovered.Sublist target.fieldNames := by
  unfold synthesize
  cases shapeError source target location with
  | some error => exact List.nil_sublist _
  | none => exact List.filter_sublist

/-- What no field of the source has the name of, no action writes. -/
theorem unmatched_sublist :
    (synthesize source target v path location).unmatched.Sublist
      (synthesize source target v path location).uncovered := by
  have hactions := mem_actions source target v path location
  unfold synthesize at hactions ⊢
  cases hshape : shapeError source target location with
  | some error => exact List.nil_sublist _
  | none =>
    simp only [hshape] at hactions ⊢
    refine List.monotone_filter_right _ fun name hname => ?_
    simp only [Bool.not_eq_true', List.contains_eq_mem, decide_eq_false_iff_not, List.mem_map,
      not_exists, not_and] at hname ⊢
    rintro a ha rfl
    obtain ⟨-, pair, hpair, hmap⟩ := (hactions a).mp ha
    exact hname pair hpair (pair.target_of_map v a hmap).symm

/-- Each name of a target is written or not, and is listed once. -/
theorem targets_append_uncovered (hshape : shapeError source target location = none)
    (hsource : source.fieldNames.Nodup) (htarget : target.fieldNames.Nodup) :
    ((synthesize source target v path location).actions.map (·.target) ++
      (synthesize source target v path location).uncovered).Perm target.fieldNames := by
  have hfields := action_fields source target v path location
  have huncovered := mem_uncovered source target v path location hshape
  have hwritten := nodup_targets source target v path location hsource
  have hrest := htarget.sublist (uncovered_sublist source target v path location)
  generalize synthesize source target v path location = p at *
  have hapart : ∀ name ∈ p.actions.map (·.target), ∀ other ∈ p.uncovered, name ≠ other := by
    rintro name hname _ hother rfl
    obtain ⟨a, ha, rfl⟩ := List.mem_map.mp hname
    exact ((huncovered _).mp hother).2 a ha rfl
  rw [List.perm_ext_iff_of_nodup (List.nodup_append.mpr ⟨hwritten, hrest, hapart⟩) htarget]
  intro name
  rw [List.mem_append, huncovered]
  constructor
  · rintro (hname | ⟨hname, -⟩)
    · obtain ⟨a, ha, rfl⟩ := List.mem_map.mp hname
      exact (hfields a ha).2.2
    · exact hname
  · intro hname
    by_cases hdone : name ∈ p.actions.map (·.target)
    · exact .inl hdone
    · exact .inr ⟨hname, fun a ha heq => hdone (heq ▸ List.mem_map_of_mem ha)⟩

/-- Fields without a partner add nothing to the actions and errors. -/
theorem synthesize_shared (hshape : shapeError source target location = none) :
    (synthesize (source.shared target) (target.shared source) v path location).actions =
        (synthesize source target v path location).actions ∧
      (synthesize (source.shared target) (target.shared source) v path location).errors =
        (synthesize source target v path location).errors := by
  have hshape' : shapeError (source.shared target) (target.shared source) location = none := hshape
  rw [actions_synthesize _ _ v path location hshape, actions_synthesize _ _ v path location hshape',
    errors_synthesize _ _ v path location hshape, errors_synthesize _ _ v path location hshape',
    matchFields_shared]
  exact ⟨rfl, rfl⟩

end

/-- That a plan accounts for every field of its schemas. -/
structure Accounts (source target : Schema) (v : Variant) (p : Plan) : Prop where
  /-- Each name of the target is written or uncovered, once. -/
  once : (p.actions.map (·.target) ++ p.uncovered).Perm target.fieldNames
  sourceOrder : (p.actions.map (·.source)).Sublist source.fieldNames
  targetOrder : p.uncovered.Sublist target.fieldNames
  unmatched : p.unmatched.Sublist p.uncovered
  /-- The pairs are those of the fields that the target has too, in the order of the source. -/
  pairs : (matchFields source target).map (·.source) =
    source.fields.filter (·.name ∈ target.fieldNames)
  outcomes : ∀ pair ∈ matchFields source target, pair.ComesTo v (pair.map v)
  actions : p.actions = (matchFields source target).filterMap fun pair => (pair.map v).action?
  errors : p.errors = (matchFields source target).flatMap fun pair => (pair.map v).errors

/-- A plan of two well-shaped schemas without repeated names accounts for every field, and the fields that
only one of them has do not matter to its actions and errors. -/
theorem accounts_synthesize (source target : Schema) (hsource : source.isNamed = true)
    (htarget : target.isNamed = true) (hsourceNames : source.fieldNames.Nodup)
    (htargetNames : target.fieldNames.Nodup) (v : Variant) (path : Option TargetPath)
    (location : Option Location) :
    Accounts source target v (synthesize source target v path location) ∧
      (synthesize (source.shared target) (target.shared source) v path location).actions =
        (synthesize source target v path location).actions ∧
      (synthesize (source.shared target) (target.shared source) v path location).errors =
        (synthesize source target v path location).errors := by
  have hshape : shapeError source target location = none :=
    (shapeError_eq_none_iff source target location).mpr ⟨hsource, htarget⟩
  refine ⟨?_, synthesize_shared source target v path location hshape⟩
  exact {
    once := targets_append_uncovered source target v path location hshape hsourceNames htargetNames
    sourceOrder := sources_sublist source target v path location
    targetOrder := uncovered_sublist source target v path location
    unmatched := unmatched_sublist source target v path location
    pairs := sources_matchFields source target
    outcomes := fun pair _ => pair.comesTo_map v
    actions := actions_synthesize source target v path location hshape
    errors := errors_synthesize source target v path location hshape }

end Plan

/-! Two schemas that share a field of no type, an optional too many and a plain field -/

def entry : Schema :=
  Schema.ofTypes "Entry"
    [("kind", TypeExpr.named "Optional"), ("body", TypeExpr.named "bytes"),
      ("note", (TypeExpr.named "bytes").wrapped), ("own", TypeExpr.named "bytes")]

def row : Schema :=
  Schema.ofTypes "Row"
    [("note", TypeExpr.named "bytes"), ("extra", TypeExpr.named "bytes"),
      ("kind", TypeExpr.named "Optional"), ("body", TypeExpr.named "bytes")]

theorem accounts_synthesize_entry :
    Plan.Accounts entry row (.hard .intoDefault)
        (Plan.synthesize entry row (.hard .intoDefault)) ∧
      (Plan.synthesize entry row (.hard .intoDefault)).actions.map (·.target) = ["body"] ∧
      (Plan.synthesize entry row (.hard .intoDefault)).unmatched = ["extra"] ∧
      (Plan.synthesize entry row (.hard .intoDefault)).uncovered = ["note", "extra", "kind"] ∧
      (Plan.synthesize entry row (.hard .intoDefault)).errors.length = 2 :=
  ⟨(Plan.accounts_synthesize entry row rfl rfl (by decide) (by decide) (.hard .intoDefault) none
      none).1, by decide, by decide, by decide, by decide⟩

end Crosswalk

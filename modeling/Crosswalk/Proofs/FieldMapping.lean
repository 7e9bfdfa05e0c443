import Crosswalk.FieldMapping
import Crosswalk.Proofs.Optionality

/-! What the mapping of one pair can come to. An action names the two fields of its pair and has the
flags of its variant, and the pair's types are related in one of five ways; a pair that is refused has
an error; only a soft update and a construction with defaults skip a pair. -/

namespace Crosswalk

/-- Only updates are soft. -/
theorem Variant.not_soft (v : Variant) (h : v.mode.isMerge = false) : v.soft = false := by
  rw [Bool.eq_false_iff]
  intro hsoft
  rw [v.allowed hsoft] at h
  cases h

namespace FieldPair

/-- The five ways in which classified types allow an action of a kind. The flag says whether a clone may
be made before the target is looked at. -/
inductive Allows (v : Variant) : Optionality → Optionality → ActionKind → Bool → Prop
  | assign (a b : TypeExpr) (same : a.same b = true) (hard : v.soft = false) :
    Allows v (.plain a) (.plain b) .assign false
  | wrap (a inner outer : TypeExpr) (same : a.same inner = true) :
    Allows v (.plain a) (.optional inner outer) .wrap false
  | passThrough (inner outer inner' outer' : TypeExpr) (same : inner.same inner' = true) :
    Allows v (.optional inner outer) (.optional inner' outer') .passThrough false
  | unwrap (inner outer inner' outer' : TypeExpr) (same : inner.same outer' = true)
      (cautious : v.soft = true ∨ v.mode = .mergeRef) :
    Allows v (.optional inner outer) (.optional inner' outer') .unwrapIfPresent false
  | rewrap (inner outer inner' outer' : TypeExpr) (same : outer.same inner' = true) :
    Allows v (.optional inner outer) (.optional inner' outer') .wrap true

/-- What a pair of classified types comes to: an action that the types allow, a skip that the variant
allows, or errors. -/
inductive Outcome (pair : FieldPair) (v : Variant) (s t : Optionality) : FieldOutcome → Prop
  | act (kind : ActionKind) (eager : Bool) (allowed : Allows v s t kind eager) :
    Outcome pair v s t (pair.act v kind eager)
  | skip (lenient : v.soft = true ∨ v.mode = .intoDefault) : Outcome pair v s t .skip
  | fail (errors : List Diagnostic) (some : errors ≠ []) : Outcome pair v s t (.fail errors)

def sourceOptionality (pair : FieldPair) : Optionality :=
  Optionality.classify pair.source.type pair.source.location

def targetOptionality (pair : FieldPair) : Optionality :=
  Optionality.classify pair.target.type pair.target.location

theorem outcome_reject (pair : FieldPair) (v : Variant) (s t : Optionality) (p : MappingProblem) :
    Outcome pair v s t (pair.reject v p) := .fail _ (by simp)

theorem outcome_demote (pair : FieldPair) (v : Variant) (s t : Optionality) :
    Outcome pair v s t (pair.demote v) := by
  unfold demote
  split
  · exact .skip (by assumption)
  · exact outcome_reject pair v s t _

theorem outcome_mapOptionals (pair : FieldPair) (v : Variant)
    (inner outer inner' outer' : TypeExpr) :
    Outcome pair v (.optional inner outer) (.optional inner' outer')
      (pair.mapOptionals v inner outer inner' outer') := by
  unfold mapOptionals unwrap
  split
  · exact .act _ _ (.passThrough _ _ _ _ (by assumption))
  split
  · split
    · exact .act _ _ (.unwrap _ _ _ _ (by assumption) (by assumption))
    · split
      · exact .skip (.inr (by assumption))
      · exact outcome_reject pair v _ _ _
  split
  · exact .act _ _ (.rewrap _ _ _ _ (by assumption))
  · exact outcome_reject pair v _ _ _

/-- All that the mapping of a pair can do. -/
theorem outcome_map (pair : FieldPair) (v : Variant) :
    Outcome pair v pair.sourceOptionality pair.targetOptionality (pair.map v) := by
  unfold map sourceOptionality targetOptionality
  generalize Optionality.classify pair.source.type pair.source.location = s
  generalize Optionality.classify pair.target.type pair.target.location = t
  cases s with
  | invalid d => cases t <;> exact .fail _ (by simp)
  | plain a =>
    cases t with
    | invalid e => exact .fail _ (by simp)
    | plain b =>
      by_cases hsame : a.same b = true
      · cases hsoft : v.soft with
        | true => simpa [hsame, hsoft] using Outcome.skip (.inl hsoft)
        | false => simpa [hsame, hsoft] using Outcome.act _ _ (.assign a b hsame hsoft)
      · simpa [hsame] using outcome_reject pair v _ _ _
    | optional inner outer =>
      by_cases hsame : a.same inner = true
      · simpa [hsame] using Outcome.act _ _ (.wrap a inner outer hsame)
      · simpa [hsame] using outcome_reject pair v _ _ _
  | optional inner outer =>
    cases t with
    | invalid e => exact .fail _ (by simp)
    | plain b => exact outcome_demote pair v _ _
    | optional inner' outer' => exact outcome_mapOptionals pair v inner outer inner' outer'

theorem allows_of_map (pair : FieldPair) (v : Variant) (a : FieldAction)
    (h : pair.map v = .act a) :
    ∃ kind eager, Allows v pair.sourceOptionality pair.targetOptionality kind eager ∧
      a = ⟨pair.source.name, pair.target.name, kind, v.mode.clones, v.soft,
        eager && v.mode.clones && v.soft⟩ := by
  have hout := outcome_map pair v
  rw [h] at hout
  generalize ho : FieldOutcome.act a = o at hout
  cases hout with
  | act kind eager allowed =>
    cases ho
    exact ⟨kind, eager, allowed, rfl⟩
  | skip => cases ho
  | fail => cases ho

theorem source_of_map (pair : FieldPair) (v : Variant) (a : FieldAction)
    (h : pair.map v = .act a) : a.source = pair.source.name := by
  obtain ⟨kind, eager, -, rfl⟩ := allows_of_map pair v a h
  rfl

theorem target_of_map (pair : FieldPair) (v : Variant) (a : FieldAction)
    (h : pair.map v = .act a) : a.target = pair.target.name := by
  obtain ⟨kind, eager, -, rfl⟩ := allows_of_map pair v a h
  rfl

/-- A clone is eager only where an optional is wrapped as a whole, by a soft update that copies. -/
theorem eager_of_map (pair : FieldPair) (v : Variant) (a : FieldAction)
    (h : pair.map v = .act a) (he : a.eagerClone = true) :
    a.clone = true ∧ a.onlyIfAbsent = true ∧ a.kind = .wrap := by
  obtain ⟨kind, eager, hallow, rfl⟩ := allows_of_map pair v a h
  simp only [Bool.and_eq_true] at he
  obtain ⟨⟨rfl, hclone⟩, hsoft⟩ := he
  refine ⟨hclone, hsoft, ?_⟩
  generalize pair.sourceOptionality = s at hallow
  generalize pair.targetOptionality = t at hallow
  cases hallow
  rfl

/-- A construction never asks whether the source's value is there. -/
theorem kind_of_map_construction (pair : FieldPair) (v : Variant) (a : FieldAction)
    (hv : v.mode.isMerge = false) (h : pair.map v = .act a) : a.kind ≠ .unwrapIfPresent := by
  obtain ⟨kind, eager, hallow, rfl⟩ := allows_of_map pair v a h
  generalize pair.sourceOptionality = s at hallow
  generalize pair.targetOptionality = t at hallow
  cases hallow with
  | unwrap _ _ _ _ _ cautious =>
    rcases cautious with hsoft | hmode
    · simp [v.not_soft hv] at hsoft
    · simp [hmode, Mode.isMerge] at hv
  | assign | wrap | passThrough | rewrap => simp

/-- Unless the variant may skip a pair, every pair that it does not refuse has an action. -/
theorem act_of_map (pair : FieldPair) (v : Variant) (hsoft : v.soft = false)
    (hmode : v.mode ≠ .intoDefault) (h : (pair.map v).errors = []) : ∃ a, pair.map v = .act a := by
  have hout := outcome_map pair v
  generalize pair.map v = o at h hout
  cases hout with
  | act kind eager allowed => exact ⟨_, rfl⟩
  | fail errors some => exact absurd h some
  | skip lenient =>
    rcases lenient with hlenient | hlenient
    · rw [hsoft] at hlenient
      cases hlenient
    · exact absurd hlenient hmode

/-! Errors -/

/-- What a pair can be refused for: a type that is none, or two that do not go together. -/
inductive Complaint (pair : FieldPair) (v : Variant) : Diagnostic → Prop
  | type (field : Field) (hfield : field = pair.source ∨ field = pair.target) (p : TypeProblem)
      (hp : p = .missingArgument ∨ p = .badArgument ∨ p = .unsupported field.type.text) :
    Complaint pair v ⟨.fieldType, p.message, field.location⟩
  | mismatch : Complaint pair v (pair.report v.mode (.mismatch pair.source.type pair.target.type))
  | downgrade : Complaint pair v (pair.report v.mode .downgrade)

section

variable (pair : FieldPair) (v : Variant)

theorem complaint_of_source (d : Diagnostic) (h : pair.sourceOptionality = .invalid d) :
    Complaint pair v d := by
  obtain ⟨p, rfl, hp⟩ := Optionality.problem_of_classify_invalid _ _ d h
  exact .type pair.source (.inl rfl) p hp

theorem complaint_of_target (d : Diagnostic) (h : pair.targetOptionality = .invalid d) :
    Complaint pair v d := by
  obtain ⟨p, rfl, hp⟩ := Optionality.problem_of_classify_invalid _ _ d h
  exact .type pair.target (.inr rfl) p hp

theorem complaint_mapOptionals (inner outer inner' outer' : TypeExpr)
    (hs : outer = pair.source.type) (ht : outer' = pair.target.type) (d : Diagnostic)
    (h : d ∈ (pair.mapOptionals v inner outer inner' outer').errors) : Complaint pair v d := by
  unfold mapOptionals unwrap at h
  split at h
  · cases h
  split at h
  · split at h
    · cases h
    · split at h
      · cases h
      · rw [List.mem_singleton.mp h]
        exact .downgrade
  split at h
  · cases h
  · rw [List.mem_singleton.mp h, hs, ht]
    exact .mismatch

/-- Every error of a pair is one of these. -/
theorem complaint_of_map (d : Diagnostic) (h : d ∈ (pair.map v).errors) : Complaint pair v d := by
  have hsource := complaint_of_source pair v
  have htarget := complaint_of_target pair v
  have hplain := fun a => Optionality.eq_of_classify_plain pair.source.type a pair.source.location
  have hplain' := fun b => Optionality.eq_of_classify_plain pair.target.type b pair.target.location
  have houter := fun inner outer =>
    Optionality.eq_of_classify_optional pair.source.type inner outer pair.source.location
  have houter' := fun inner outer =>
    Optionality.eq_of_classify_optional pair.target.type inner outer pair.target.location
  unfold map at h
  unfold sourceOptionality at hsource
  unfold targetOptionality at htarget
  generalize Optionality.classify pair.source.type pair.source.location = s at *
  generalize Optionality.classify pair.target.type pair.target.location = t at *
  cases s with
  | invalid a =>
    cases t with
    | invalid b =>
      rcases List.mem_cons.mp h with rfl | h
      · exact hsource d rfl
      · rw [List.mem_singleton.mp h]
        exact htarget b rfl
    | plain b | optional inner outer =>
      rw [List.mem_singleton.mp h]
      exact hsource a rfl
  | plain a =>
    cases t with
    | invalid b =>
      rw [List.mem_singleton.mp h]
      exact htarget b rfl
    | plain b =>
      dsimp only at h
      split at h
      · rw [List.mem_singleton.mp h, hplain a rfl, hplain' b rfl]
        exact .mismatch
      split at h <;> cases h
    | optional inner outer =>
      dsimp only at h
      split at h
      · cases h
      · rw [List.mem_singleton.mp h, hplain a rfl]
        exact .mismatch
  | optional inner outer =>
    cases t with
    | invalid b =>
      rw [List.mem_singleton.mp h]
      exact htarget b rfl
    | plain b =>
      dsimp only at h
      unfold demote at h
      split at h
      · cases h
      · rw [List.mem_singleton.mp h]
        exact .downgrade
    | optional inner' outer' =>
      exact complaint_mapOptionals pair v inner outer inner' outer' (houter _ _ rfl)
        (houter' _ _ rfl) d h

end

end FieldPair
end Crosswalk

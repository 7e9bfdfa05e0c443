import Mathlib.Data.List.Flatten
import Crosswalk.Proofs.FieldMapping.Fit
import Crosswalk.Proofs.Plan.Synthesis

/-! What softness takes away. A soft update only fills optional fields that are absent. It has an action for
a pair just where the target's type is optional and the pair has no error, and every error it has is one of
the hard update, told in the same words. -/

namespace Crosswalk

namespace FieldPair

variable (pair : FieldPair) (v : Variant) (hsoft : v.soft = true)

include hsoft

/-- A soft update leaves out errors of optionals, and has the others as they are. -/
theorem errors_soft : (pair.map v).errors.Sublist (pair.map (.hard v.mode)).errors := by
  rw [map_eq_outcome, map_eq_outcome]
  cases pair.fit <;> simp [Fit.outcome, demote, unwrap, Variant.hard, hsoft]

theorem act_soft_iff :
    (∃ a, pair.map v = .act a) ↔
      pair.targetOptionality.isOptional = true ∧ (pair.map v).errors = [] := by
  obtain ⟨s, t, -, ht, hbetween⟩ := between_fit pair
  rw [map_eq_outcome, ht]
  generalize pair.fit = f at hbetween
  cases hbetween <;>
    simp [Fit.outcome, demote, unwrap, act, reject, hsoft, Optionality.isOptional]

end FieldPair

namespace Plan

variable (source target : Schema) (v : Variant) (hsoft : v.soft = true) (path : Option TargetPath)
  (location : Option Location)

include hsoft

/-- The hard update has all errors of the soft one, in their order. -/
theorem errors_soft_sublist :
    (synthesize source target v path location).errors.Sublist
      (synthesize source target (.hard v.mode) path location).errors := by
  rw [errors_mapped, errors_mapped]
  exact (List.Sublist.refl _).append (.flatMap_right _ fun pair _ => pair.errors_soft v hsoft)

theorem onlyIfAbsent_soft (a : FieldAction)
    (h : a ∈ (synthesize source target v path location).actions) : a.onlyIfAbsent = true := by
  obtain ⟨-, pair, -, ha⟩ := (mem_actions source target v path location a).mp h
  obtain ⟨_, _, -, rfl⟩ := pair.allows_of_map v a ha
  exact hsoft

/-- No soft update writes a field whose type is not optional. -/
theorem optional_of_soft_target (a : FieldAction)
    (h : a ∈ (synthesize source target v path location).actions) (g : Field)
    (hg : target.get? a.target = some g) :
    (Optionality.classify g.type g.location).isOptional = true := by
  obtain ⟨-, pair, hpair, ha⟩ := (mem_actions source target v path location a).mp h
  have hfound := ((mem_matchFields source target pair).mp hpair).2
  have hname : a.target = pair.source.name :=
    (pair.target_of_map v a ha).trans (name_of_matched source target pair hpair)
  rw [hname, hfound] at hg
  cases hg
  exact ((pair.act_soft_iff v hsoft).mp ⟨a, ha⟩).1

end Plan
end Crosswalk

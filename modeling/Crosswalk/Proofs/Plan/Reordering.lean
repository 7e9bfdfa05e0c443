import Mathlib.Data.List.Nodup
import Crosswalk.Proofs.Plan.Accounting

/-! Schemas whose fields stand in another order. A plan goes through the fields of its source and looks those
of its target up by name. So another order of the source reorders the actions and errors and nothing else, and
another order of a target without repeated names reorders the lists of its names and nothing else. -/

namespace Crosswalk

/-- That a schema is another with its fields, and all that belongs to them, in a new order. -/
def Schema.Reorders (t s : Schema) : Prop :=
  ∃ fields : List Field, fields.Perm s.fields ∧ t = { s with fields }

section

variable {s t : Schema} (h : t.Reorders s)

include h

theorem Schema.Reorders.fields_perm : t.fields.Perm s.fields := by
  obtain ⟨fields, hperm, rfl⟩ := h
  exact hperm

theorem Schema.Reorders.names_perm : t.fieldNames.Perm s.fieldNames :=
  h.fields_perm.map _

theorem Schema.Reorders.shapeError_eq (location : Option Location) :
    t.shapeError location = s.shapeError location := by
  obtain ⟨fields, -, rfl⟩ := h
  rfl

end

/-! Looking a field up -/

/-- Where no name is repeated, looking a field up finds the one of that name. -/
theorem Schema.get?_eq_some_iff (s : Schema) (hnames : s.fieldNames.Nodup) (name : String)
    (f : Field) : s.get? name = some f ↔ f ∈ s.fields ∧ f.name = name := by
  constructor
  · intro h
    exact ⟨s.get?_mem name f h, s.get?_name name f h⟩
  · rintro ⟨hf, rfl⟩
    obtain ⟨g, hg⟩ := (s.exists_get?_iff f.name).mpr (List.mem_map_of_mem hf)
    have hsame : g = f :=
      List.inj_on_of_nodup_map hnames (s.get?_mem _ g hg) hf (s.get?_name _ g hg)
    rw [hg, hsame]

theorem Schema.Reorders.get?_eq {s t : Schema} (h : t.Reorders s) (hnames : s.fieldNames.Nodup)
    (name : String) : t.get? name = s.get? name := by
  have hperm := h.fields_perm
  have hnames' := h.names_perm.nodup_iff.mpr hnames
  ext f
  rw [t.get?_eq_some_iff hnames', s.get?_eq_some_iff hnames, hperm.mem_iff]

namespace Plan

variable (source target : Schema) (v : Variant) (path : Option TargetPath)
  (location : Option Location)

/-! Another order of the source -/

section

variable (source' : Schema) (h : source'.Reorders source)

include h

theorem shapeError_reordered_source :
    shapeError source' target location = shapeError source target location := by
  unfold shapeError
  rw [h.shapeError_eq]

theorem matchFields_reordered_source : (matchFields source' target).Perm (matchFields source target) :=
  h.fields_perm.filterMap _

theorem mapped_reordered_source :
    (mapped source' target location).Perm (mapped source target location) := by
  unfold mapped
  rw [shapeError_reordered_source source target location source' h]
  split
  · exact matchFields_reordered_source source target source' h
  · exact .refl _

theorem actions_reordered_source :
    (synthesize source' target v path location).actions.Perm
      (synthesize source target v path location).actions := by
  rw [actions_mapped, actions_mapped]
  exact (mapped_reordered_source source target location source' h).filterMap _

theorem errors_reordered_source :
    (synthesize source' target v path location).errors.Perm
      (synthesize source target v path location).errors := by
  rw [errors_mapped, errors_mapped, shapeError_reordered_source source target location source' h]
  exact ((mapped_reordered_source source target location source' h).flatMap_right _).append_left _

/-- The names of a target that are listed do not depend on the order of what was matched or written. -/
theorem names_reordered_source :
    (synthesize source' target v path location).unmatched =
        (synthesize source target v path location).unmatched ∧
      (synthesize source' target v path location).uncovered =
        (synthesize source target v path location).uncovered := by
  have hshape := shapeError_reordered_source source target location source' h
  have hpairs := matchFields_reordered_source source target source' h
  have houtcomes := hpairs.map (·.map v)
  unfold synthesize
  rw [hshape]
  cases shapeError source target location with
  | some error => exact ⟨rfl, rfl⟩
  | none =>
    constructor
    · refine List.filter_congr fun name _ => ?_
      simp only [List.contains_eq_mem, (hpairs.map (·.target.name)).mem_iff]
    · refine List.filter_congr fun name _ => ?_
      simp only [List.contains_eq_mem,
        ((houtcomes.filterMap FieldOutcome.action?).map (·.target)).mem_iff]

end

/-! Another order of the target -/

section

variable (target' : Schema) (h : target'.Reorders target) (hnames : target.fieldNames.Nodup)

include h

theorem shapeError_reordered_target :
    shapeError source target' location = shapeError source target location := by
  unfold shapeError
  rw [h.shapeError_eq]

include hnames

theorem matchFields_reordered_target : matchFields source target' = matchFields source target := by
  unfold matchFields
  simp only [h.get?_eq hnames]

/-- The plan of a reordered target has the same actions and errors, and lists the same names. -/
theorem synthesize_reordered_target :
    (synthesize source target' v path location).actions =
        (synthesize source target v path location).actions ∧
      (synthesize source target' v path location).errors =
        (synthesize source target v path location).errors ∧
      (synthesize source target' v path location).unmatched.Perm
        (synthesize source target v path location).unmatched ∧
      (synthesize source target' v path location).uncovered.Perm
        (synthesize source target v path location).uncovered := by
  have hshape := shapeError_reordered_target source target location target' h
  have hpairs := matchFields_reordered_target source target target' h hnames
  have hperm := h.names_perm
  unfold synthesize
  rw [hshape]
  cases shapeError source target location with
  | some error => exact ⟨rfl, rfl, .refl _, .refl _⟩
  | none =>
    simp only [hpairs]
    exact ⟨trivial, trivial, hperm.filter _, hperm.filter _⟩

end

end Plan
end Crosswalk

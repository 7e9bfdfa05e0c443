import Crosswalk.Proofs.Plan.Reordering

/-! Plans of a schema onto itself. Where no name is repeated each field is matched with itself, and whatever
is a type is written like itself. So nothing is refused or left without a partner: a hard plan gives every
field its own value, in the order of the fields, and a soft one gives it to the optional ones. -/

namespace Crosswalk

/-- A list of named fields, none named twice, whose types are types. -/
structure Schema.Regular (s : Schema) : Prop where
  named : s.isNamed = true
  distinct : s.fieldNames.Nodup
  typed : ∀ f ∈ s.fields, ∀ d, Optionality.classify f.type f.location ≠ .invalid d

@[simp] theorem TypeExpr.same_self (ty : TypeExpr) : ty.same ty = true := beq_self_eq_true ty.text

namespace Field

variable (f : Field) (v : Variant)

def isOptional : Bool := (Optionality.classify f.type f.location).isOptional

/-- Whether a variant gives a field its own value. -/
def isCarried : Bool := !v.soft || f.isOptional

def carried : FieldAction where
  source := f.name
  target := f.name
  kind := if f.isOptional then .passThrough else .assign
  clone := v.mode.clones
  onlyIfAbsent := v.soft

def paired : FieldPair := ⟨f, f⟩

variable (htyped : ∀ d, Optionality.classify f.type f.location ≠ .invalid d)

include htyped

/-- A field fits itself. -/
theorem fit_paired : f.paired.fit = if f.isOptional then .passing else .plain := by
  unfold FieldPair.fit FieldPair.sourceOptionality FieldPair.targetOptionality isOptional paired
  cases hf : Optionality.classify f.type f.location with
  | invalid d => exact absurd hf (htyped d)
  | plain a => simp [FieldPair.Fit.ofTypes, Optionality.isOptional]
  | optional inner outer =>
    simp [FieldPair.Fit.ofTypes, FieldPair.Fit.ofOptionals, Optionality.isOptional]

theorem map_paired :
    f.paired.map v = if f.isCarried v then .act (f.carried v) else .skip := by
  rw [FieldPair.map_eq_outcome, fit_paired f htyped]
  cases hoptional : f.isOptional <;> cases hsoft : v.soft <;>
    simp [isCarried, carried, paired, FieldPair.Fit.outcome, FieldPair.act, hoptional, hsoft]

end Field

/-- Looked up among the fields it stands in, a field is found itself. -/
theorem matchFields_self (s : Schema) (hnames : s.fieldNames.Nodup) :
    matchFields s s = s.fields.map Field.paired := by
  refine List.filterMap_eq_map_iff_forall_eq_some.mpr fun f hf => ?_
  rw [(s.get?_eq_some_iff hnames f.name f).mpr ⟨hf, rfl⟩]
  rfl

namespace Plan

/-- That a plan gives some fields of a schema their own values, without problems, and leaves the others. -/
structure Carries (p : Plan) (fields others : List Field) : Prop where
  errors : p.errors = []
  problems : p.problems = []
  unmatched : p.unmatched = []
  uncovered : p.uncovered = others.map (·.name)
  actions : p.actions = fields.map (·.carried p.variant)

variable (s : Schema) (hs : s.Regular) (v : Variant) (path : Option TargetPath)
  (location : Option Location)

include hs

theorem shapeError_self : shapeError s s location = none :=
  (shapeError_eq_none_iff s s location).mpr ⟨hs.named, hs.named⟩

theorem errors_self : (synthesize s s v path location).errors = [] := by
  rw [errors_synthesize s s v path location (shapeError_self s hs location),
    matchFields_self s hs.distinct, List.flatMap_map, List.flatMap_eq_nil_iff]
  intro f hf
  rw [f.map_paired v (hs.typed f hf)]
  split <;> rfl

theorem actions_self :
    (synthesize s s v path location).actions =
      (s.fields.filter (·.isCarried v)).map (·.carried v) := by
  rw [actions_synthesize s s v path location (shapeError_self s hs location),
    matchFields_self s hs.distinct, List.filterMap_map, ← List.filterMap_eq_filter, List.map_filterMap]
  refine List.filterMap_congr fun f hf => ?_
  rw [Function.comp_apply, f.map_paired v (hs.typed f hf), Option.guard]
  split <;> rfl

theorem unmatched_self : (synthesize s s v path location).unmatched = [] := by
  rw [List.eq_nil_iff_forall_not_mem]
  intro name hname
  rw [mem_unmatched s s v path location (shapeError_self s hs location),
    matchFields_self s hs.distinct] at hname
  obtain ⟨hmem, hnone⟩ := hname
  obtain ⟨f, hf, rfl⟩ := List.mem_map.mp hmem
  exact hnone f.paired (List.mem_map_of_mem hf) rfl

/-- What is not written is what is not carried: no other field has the name. -/
theorem uncovered_self :
    (synthesize s s v path location).uncovered =
      (s.fields.filter (!·.isCarried v)).map (·.name) := by
  have hactions := actions_self s hs v path location
  simp only [synthesize, shapeError_self s hs location] at hactions ⊢
  rw [hactions, Schema.fieldNames, List.filter_map, List.map_map]
  refine congrArg _ (List.filter_congr fun f hf => congrArg not ?_)
  rw [Bool.eq_iff_iff, List.contains_iff_mem, List.mem_map]
  constructor
  · rintro ⟨g, hg, hname⟩
    obtain ⟨hmem, hcarried⟩ := List.mem_filter.mp hg
    rwa [← List.inj_on_of_nodup_map hs.distinct hmem hf hname]
  · intro hcarried
    exact ⟨f, List.mem_filter.mpr ⟨hf, hcarried⟩, rfl⟩

theorem problems_self : (synthesize s s v path location).problems = [] := by
  unfold problems completeness missing
  rw [errors_self s hs v path location, unmatched_self s hs v path location]
  split <;> rfl

theorem carries_self :
    (synthesize s s v path location).Carries (s.fields.filter (·.isCarried v))
      (s.fields.filter (!·.isCarried v)) where
  errors := errors_self s hs v path location
  problems := problems_self s hs v path location
  unmatched := unmatched_self s hs v path location
  uncovered := uncovered_self s hs v path location
  actions := by
    rw [variant_synthesize]
    exact actions_self s hs v path location

theorem carries_hard (hhard : v.soft = false) : (synthesize s s v path location).Carries s.fields [] := by
  have hall : ∀ f : Field, f.isCarried v = true := by simp [Field.isCarried, hhard]
  have hcarries := carries_self s hs v path location
  rwa [List.filter_eq_self.mpr fun f _ => hall f,
    List.filter_eq_nil_iff.mpr fun f _ => by simp [hall f]] at hcarries

theorem carries_soft (hsoft : v.soft = true) :
    (synthesize s s v path location).Carries (s.fields.filter (·.isOptional))
      (s.fields.filter (!·.isOptional)) := by
  have hoptional : ∀ f : Field, f.isCarried v = f.isOptional := by simp [Field.isCarried, hsoft]
  simpa only [hoptional] using carries_self s hs v path location

end Plan
end Crosswalk

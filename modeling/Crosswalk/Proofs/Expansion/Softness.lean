import Crosswalk.Proofs.Expansion.Outcomes
import Crosswalk.Proofs.Optionality
import Crosswalk.Proofs.Plan.Softness

/-! What soft plans add to an expansion: nothing that is told. Wherever a target is updated, what is wrong
with its soft plan is wrong with its hard plan, which is told first. So an expansion tells what it would
tell if no soft plan were made. -/

namespace Crosswalk.Expansion

variable (resolve : TargetPath → Location → Except Failure Schema) (source : Schema)

/-- What is wrong with the hard plan of a path, or with the path. -/
def hardTold (a : Request × TargetPath) : List Diagnostic :=
  match resolve a.2 a.1.location with
  | .ok target =>
    let hard := planOf source a target (.hard a.1.mode)
    hard.errors ++ hard.completeness (some a.1.location)
  | .error (.reported d) => [d]
  | .error (.stopped _) => []

/-- Where the hard plan has been told, telling the soft one changes nothing. -/
theorem extend_soft (v : Variant) (hsoft : v.soft = true) (target : Schema) (path : Option TargetPath)
    (location : Option Location) (ds : Diagnostics) :
    let soft := Plan.synthesize source target v path location
    let hard := Plan.synthesize source target (.hard v.mode) path location
    (ds.extend (hard.errors ++ hard.completeness location)).extend
        (soft.errors ++ soft.completeness location) =
      ds.extend (hard.errors ++ hard.completeness location) := by
  intro soft hard
  have hmerge : soft.mode.isMerge = true := by
    rw [Plan.mode_synthesize]
    exact v.allowed hsoft
  -- Softness is for updates only, and an update is never incomplete.
  rw [soft.completeness_of_merge location hmerge, List.append_nil]
  apply Diagnostics.extend_of_subset
  intro d hd
  have hold := (Plan.errors_soft_sublist source target v hsoft path location).subset hd
  exact (Diagnostics.mem_extend ds _ d).mpr (.inr (List.mem_append_left _ hold))

theorem extend_planTarget (a : Request × TargetPath) (target : Schema)
    (h : resolve a.2 a.1.location = .ok target) (ds : Diagnostics) :
    ds.extend (planTarget source a.1 a.2 target).2 = ds.extend (hardTold resolve source a) := by
  unfold hardTold planTarget Variant.ofMode
  rw [h]
  by_cases hmerge : a.1.mode.isMerge = true
  · rw [dif_pos hmerge]
    simp only [List.map_cons, List.map_nil, List.flatMap_cons, List.flatMap_nil, List.append_nil]
    rw [Diagnostics.extend_append]
    exact extend_soft source ⟨a.1.mode, true, fun _ => hmerge⟩ rfl target _ _ ds
  · rw [dif_neg hmerge]
    simp only [List.map_cons, List.map_nil, List.flatMap_cons, List.flatMap_nil, List.append_nil]
    rfl

theorem extend_answered (a : Request × TargetPath) (outcome : List Plan × List Diagnostic)
    (h : Answered resolve source a outcome) (ds : Diagnostics) :
    ds.extend outcome.2 = ds.extend (hardTold resolve source a) := by
  cases h with
  | planned target hfound => exact extend_planTarget resolve source a target hfound ds
  | reported d hreported =>
    unfold hardTold
    rw [hreported]

theorem extend_outcomes (l : List (Request × TargetPath))
    (outcomes : List (List Plan × List Diagnostic))
    (h : List.Forall₂ (Answered resolve source) l outcomes) (ds : Diagnostics) :
    ds.extend (outcomes.flatMap (·.2)) = ds.extend (l.flatMap (hardTold resolve source)) := by
  induction h generalizing ds with
  | nil => rfl
  | cons hfirst _ ih =>
    rw [List.flatMap_cons, List.flatMap_cons, Diagnostics.extend_append, Diagnostics.extend_append,
      extend_answered resolve source _ _ hfirst, ih]

theorem diagnostics_eq_hardTold (modes : Option (List String)) (e : Expansion)
    (h : ofRequests resolve source modes = .ok e) :
    ∃ wanted, wantedModes modes source.requests.1 = .ok wanted ∧
      e.diagnostics = Diagnostics.ofList (source.requests.2 ++
        missingRequests source source.requests.1 wanted ++
          (asked source wanted).flatMap (hardTold resolve source)) := by
  obtain ⟨wanted, outcomes, hwanted, hanswered, rfl⟩ := exists_outcomes resolve source modes e h
  refine ⟨wanted, hwanted, ?_⟩
  unfold Diagnostics.ofList
  rw [Diagnostics.extend_append, Diagnostics.extend_append _ _ (List.flatMap _ _),
    extend_outcomes resolve source _ _ hanswered]

/-- Beside every soft plan stands the hard plan of its target. -/
theorem exists_hard (modes : Option (List String)) (e : Expansion)
    (h : ofRequests resolve source modes = .ok e) (p : Plan) (hp : p ∈ e.plans)
    (hsoft : p.soft = true) :
    ∃ a target v, v.soft = true ∧ resolve a.2 a.1.location = .ok target ∧
      p = planOf source a target v ∧ planOf source a target (.hard v.mode) ∈ e.plans := by
  obtain ⟨wanted, -, hwanted, -, -⟩ := exists_outcomes resolve source modes e h
  have hplans := mem_plans resolve source modes e h wanted hwanted
  obtain ⟨a, ha, target, hfound, v, hv, rfl⟩ := (hplans p).mp hp
  refine ⟨a, target, v, ?_, hfound, rfl, (hplans _).mpr ⟨a, ha, target, hfound, _, ?_, rfl⟩⟩
  · rw [← Plan.variant_synthesize source target v (some a.2) (some a.1.location)]
    exact hsoft
  · rw [Variant.mode_of_mem_ofMode v a.1.mode hv]
    unfold Variant.ofMode
    split <;> exact List.mem_cons_self

/-- A soft plan has no error and no diagnostic that its hard plan has not. It acts on a pair of fields just
where the target's type is optional and the pair has no error, and only on what is absent. So the
diagnostics of an expansion are those of its hard plans. -/
theorem soft_adds_nothing :
    (∀ (v : Variant) (source target : Schema) (path : Option TargetPath) (location : Option Location),
      v.soft = true →
      let soft := Plan.synthesize source target v path location
      let hard := Plan.synthesize source target (.hard v.mode) path location
      soft.errors.Sublist hard.errors ∧
      (∀ a ∈ soft.actions, a.onlyIfAbsent = true) ∧
      (source.isNamed = true → target.isNamed = true →
        soft.actions = (matchFields source target).filterMap (fun pair => (pair.map v).action?) ∧
        ∀ pair ∈ matchFields source target, (∃ a, pair.map v = .act a) ↔
          pair.targetOptionality.isOptional = true ∧ (pair.map v).errors = []) ∧
      (∀ a ∈ soft.actions, ∀ g, target.get? a.target = some g →
        (Optionality.classify g.type g.location).isOptional = true) ∧
      ∀ ds : Diagnostics, (ds.extend (hard.errors ++ hard.completeness location)).extend
          (soft.errors ++ soft.completeness location) =
        ds.extend (hard.errors ++ hard.completeness location)) ∧
    ∀ (host : Host) (file shown className : String) (modes : Option (List String))
      (settings : Settings) (locator : Option Locator) (source : Schema) (l : Locator) (e : Expansion),
      findSource host file shown className = .ok source →
      chooseLocator host settings source.location locator = .ok l →
      run host file shown className modes settings locator = .ok e →
      let resolve := fun path location => l.resolve host path location
      (∀ p ∈ e.plans, p.soft = true → ∃ a target v, v.soft = true ∧
        resolve a.2 a.1.location = .ok target ∧ p = planOf source a target v ∧
        planOf source a target (.hard v.mode) ∈ e.plans) ∧
      ∃ wanted, wantedModes modes source.requests.1 = .ok wanted ∧
        e.diagnostics = Diagnostics.ofList (source.requests.2 ++
          missingRequests source source.requests.1 wanted ++
            (asked source wanted).flatMap (hardTold resolve source)) := by
  constructor
  · intro v source target path location hsoft soft hard
    refine ⟨Plan.errors_soft_sublist source target v hsoft path location,
      Plan.onlyIfAbsent_soft source target v hsoft path location, fun hsource htarget => ⟨?_, ?_⟩,
      Plan.optional_of_soft_target source target v hsoft path location,
      extend_soft source v hsoft target path location⟩
    · have hshape := (Plan.shapeError_eq_none_iff source target location).mpr ⟨hsource, htarget⟩
      exact Plan.actions_synthesize source target v path location hshape
    · exact fun pair _ => pair.act_soft_iff v hsoft
  · intro host file shown className modes settings locator source l e hsource hlocator hrun resolve
    rw [run_eq_ofRequests host file shown className modes settings locator source l hsource hlocator]
      at hrun
    exact ⟨exists_hard resolve source modes e hrun,
      diagnostics_eq_hardTold resolve source modes e hrun⟩

/-- A file of two classes, the first of which updates the second, with one field of another type. -/
def stall : Files.Node :=
  .directory [("src", .directory [("s.py", .file (Files.bytesOf
    "@merge_ref('crate.s.T')\nclass S:\n    x: int\n    y: str\nclass T:\n    x: Optional[int]\n    y: int\n"))])]

def stallRun : Except ExpandError Expansion :=
  run stall "src/s.py" "src/s.py" "S" none { rootDir := some ⟨"", []⟩ }

/-- Both plans of a target have the error of one field, and it is told once. -/
theorem soft_adds_nothing_stall :
    (let soft := Plan.synthesize draft article ⟨.mergeRef, true, by decide⟩
     soft.errors.Sublist (Plan.synthesize draft article (.hard .mergeRef)).errors ∧
       soft.actions.length = 1 ∧ ∀ a ∈ soft.actions, a.onlyIfAbsent = true) ∧
    ∃ source l e wanted, stallRun = .ok e ∧ (e.plans.map (·.errors.length)) = [1, 1] ∧
      e.diagnostics.size = 1 ∧
      e.diagnostics = Diagnostics.ofList (source.requests.2 ++
        missingRequests source source.requests.1 wanted ++ (asked source wanted).flatMap
          (hardTold (fun path location => Locator.resolve stall l path location) source)) := by
  obtain ⟨hplans, hruns⟩ := soft_adds_nothing
  constructor
  · obtain ⟨herrors, habsent, -⟩ :=
      hplans ⟨.mergeRef, true, by decide⟩ draft article none none rfl
    exact ⟨herrors, rfl, habsent⟩
  obtain ⟨e, hrun, htold, hsize⟩ : ∃ e, stallRun = .ok e ∧
      e.plans.map (·.errors.length) = [1, 1] ∧ e.diagnostics.size = 1 := by
    have hgood : (match stallRun with
      | .ok e => e.plans.map (·.errors.length) == [1, 1] && e.diagnostics.size == 1
      | .error _ => false) = true := by decide +kernel
    split at hgood
    · rename_i e he
      rw [Bool.and_eq_true, beq_iff_eq, beq_iff_eq] at hgood
      exact ⟨e, he, hgood⟩
    · cases hgood
  have hne : e.plans ≠ [] := by
    intro hnil
    rw [hnil] at htold
    cases htold
  obtain ⟨source, l, hsource, hlocator, -⟩ := ofRequests_of_run _ _ _ _ _ _ _ e hrun hne
  obtain ⟨-, wanted, -, hdiagnostics⟩ :=
    hruns stall "src/s.py" "src/s.py" "S" none _ none source l e hsource hlocator hrun
  exact ⟨source, l, e, wanted, hrun, htold, hsize, hdiagnostics⟩

end Crosswalk.Expansion

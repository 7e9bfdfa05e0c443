import Crosswalk.Proofs.Live.Invocation
import Crosswalk.Proofs.SourceUnit

/-! Which fields a plan writes, and how often. A field of the source is carried if the target has one of its
name and the types of the two allow an action. The actions write the names of the carried fields in their
order, so a name is written twice just where a class annotates it twice and both times it is carried. A
construction then has an argument twice, and its text is no call. -/

namespace Crosswalk

open Code (FieldDeclaration ClassDeclaration Interpreter)

/-! Annotated names -/

/-- The name a line annotates, unless it annotates something else. -/
def Code.FieldDeclaration.name? (d : FieldDeclaration) : Option String :=
  match d.target with
  | .name _ id => some id.text
  | _ => none

/-- The names a class annotates, each as often as it does. -/
def Code.ClassDeclaration.annotated (d : ClassDeclaration) : List String :=
  d.fields.filterMap FieldDeclaration.name?

theorem name?_of_ofDeclaration (i : Interpreter) (file : Option Files.Path) (d : FieldDeclaration)
    (m : Member) (h : Member.ofDeclaration i file d = .ok m) : d.name? = m.field?.map (·.name) := by
  obtain ⟨position, target, type, hasValue⟩ := d
  unfold Member.ofDeclaration at h
  cases target with
  | name p id =>
    obtain ⟨ty, -, h⟩ := exists_of_bind_ok _ _ _ h
    cases h
    rfl
  | _ =>
    obtain ⟨text, -, h⟩ := exists_of_bind_ok _ _ _ h
    cases h
    rfl

theorem names_of_mapM (i : Interpreter) (file : Option Files.Path) (lines : List FieldDeclaration)
    (members : List Member) (h : lines.mapM (Member.ofDeclaration i file) = .ok members) :
    (members.filterMap Member.field?).map (·.name) = lines.filterMap FieldDeclaration.name? := by
  induction lines generalizing members with
  | nil =>
    cases h
    rfl
  | cons line rest ih =>
    obtain ⟨m, others, hm, hothers, rfl⟩ := exists_of_mapM_cons _ line rest members h
    have hname := name?_of_ofDeclaration i file line m hm
    rw [List.filterMap_cons, List.filterMap_cons, hname]
    cases m with
    | field f => exact congrArg (f.name :: ·) (ih others hothers)
    | unnamed target => exact ih others hothers

/-- The fields of a class are its annotated names, repeated or not. -/
theorem fieldNames_of_ofClass (i : Interpreter) (d : ClassDeclaration) (file : Option Files.Path)
    (s : Schema) (h : Schema.ofClass i d file = .ok s) : s.fieldNames = d.annotated := by
  unfold Schema.ofClass at h
  obtain ⟨members, hmembers, h⟩ := exists_of_bind_ok _ _ _ h
  cases h
  exact names_of_mapM i file d.fields members hmembers

namespace Plan

/-! Carried fields -/

/-- Whether a field of the source has an action. -/
def carries (target : Schema) (v : Variant) (f : Field) : Bool :=
  match target.get? f.name with
  | some g => (FieldPair.map ⟨f, g⟩ v).action?.isSome
  | none => false

section

variable (source target : Schema) (v : Variant) (path : Option TargetPath)
  (location : Option Location)

theorem actions_of_shapeError (h : shapeError source target location ≠ none) :
    (synthesize source target v path location).actions = [] := by
  obtain ⟨error, herror⟩ := Option.ne_none_iff_exists'.mp h
  simp [synthesize, herror]

/-- The actions write the names of the carried fields, in their order. -/
theorem targets_synthesize (h : shapeError source target location = none) :
    (synthesize source target v path location).actions.map (·.target) =
      (source.fields.filter (carries target v)).map (·.name) := by
  rw [actions_synthesize source target v path location h, matchFields]
  generalize source.fields = fields
  induction fields with
  | nil => rfl
  | cons f rest ih =>
    cases hg : target.get? f.name with
    | none => simpa [carries, hg] using ih
    | some g =>
      cases hmap : FieldPair.map ⟨f, g⟩ v with
      | act a =>
        have htarget : a.target = f.name :=
          (FieldPair.target_of_map ⟨f, g⟩ v a hmap).trans (target.get?_name _ _ hg)
        simpa [carries, hg, hmap, FieldOutcome.action?, htarget] using ih
      | fail errors => simpa [carries, hg, hmap, FieldOutcome.action?] using ih
      | skip => simpa [carries, hg, hmap, FieldOutcome.action?] using ih

theorem nodup_targets_iff (h : shapeError source target location = none) :
    ((synthesize source target v path location).actions.map (·.target)).Nodup ↔
      (source.fields.filter (carries target v)).Pairwise fun f g => f.name ≠ g.name := by
  rw [targets_synthesize source target v path location h, List.Nodup, List.pairwise_map]

/-- Names that the source has once are written once, however often the target has them. -/
theorem nodup_targets (h : source.fieldNames.Nodup) :
    ((synthesize source target v path location).actions.map (·.target)).Nodup := by
  by_cases hshape : shapeError source target location = none
  · rw [targets_synthesize source target v path location hshape]
    exact List.Nodup.sublist (List.filter_sublist.map _) h
  · rw [actions_of_shapeError source target v path location hshape]
    exact List.nodup_nil

/-- Unless the variant may skip a pair, a plan without errors carries all fields that the target has too. -/
theorem carries_iff_mem (hsoft : v.soft = false) (hmode : v.mode ≠ .intoDefault)
    (herrors : (synthesize source target v path location).errors = []) (f : Field)
    (hf : f ∈ source.fields) : carries target v f = true ↔ f.name ∈ target.fieldNames := by
  unfold carries Schema.fieldNames
  cases hg : target.get? f.name with
  | none =>
    have hnone : ∀ g ∈ target.fields, g.name ≠ f.name := by
      simpa [Schema.get?] using hg
    simpa using hnone
  | some g =>
    have hpair : ⟨f, g⟩ ∈ matchFields source target := (mem_matchFields _ _ _).mpr ⟨hf, hg⟩
    have hnil := pair_errors_nil source target v path location herrors ⟨f, g⟩ hpair
    obtain ⟨a, ha⟩ := FieldPair.act_of_map ⟨f, g⟩ v hsoft hmode hnil
    have hmem : f.name ∈ target.fields.map (·.name) :=
      target.get?_name _ _ hg ▸ List.mem_map_of_mem (target.get?_mem _ _ hg)
    simp [ha, FieldOutcome.action?, hmem]

theorem targets_of_errors_nil (hsoft : v.soft = false) (hmode : v.mode ≠ .intoDefault)
    (herrors : (synthesize source target v path location).errors = []) :
    (synthesize source target v path location).actions.map (·.target) =
      source.fieldNames.filter (· ∈ target.fieldNames) := by
  have hshape := shapeError_of_errors_nil source target v path location herrors
  rw [targets_synthesize source target v path location hshape]
  unfold Schema.fieldNames
  rw [List.filter_map]
  congr 1
  apply List.filter_congr
  intro f hf
  rw [Bool.eq_iff_iff, carries_iff_mem source target v path location hsoft hmode herrors f hf]
  simp [Schema.fieldNames]

end

/-! Arguments -/

theorem arguments_body (p : Plan) (defaulted : List String) (identifier : String)
    (arguments : List (String × String))
    (h : Emission.body p = .construct defaulted identifier arguments) :
    arguments.map (·.1) = p.actions.map (·.target) := by
  unfold Emission.body at h
  split at h
  · cases h
  · cases h
    rw [List.map_map]
    rfl

/-- A text with an argument twice is no call. -/
theorem not_readable_of_repeated (p : Plan) (h : ¬ (p.actions.map (·.target)).Nodup) :
    ¬ (Emission.EmittedPlan.ofPlan p).Readable := by
  unfold Emission.EmittedPlan.ofPlan
  by_cases hshape : p.shapeValid = true
  · rw [if_pos hshape]
    cases hbody : Emission.body p with
    | update instructions => exact id
    | construct defaulted identifier arguments =>
      rintro ⟨-, -, -, -, -, hnodup⟩
      have hnames := arguments_body p defaulted identifier arguments hbody
      have hkeys : (arguments.map (·.1)).Nodup := by
        have hcanonical : ((arguments.map (·.1)).map Code.canonicalName).Nodup := by
          rw [List.map_map]
          exact hnodup
        exact List.Pairwise.of_map Code.canonicalName (fun a b hne heq => hne (congrArg _ heq))
          hcanonical
      exact h (hnames ▸ hkeys)
  · rw [if_neg hshape]
    exact id

/-! Classes -/

theorem shapeError_eq_none_iff_shapeValid (source target : Schema) (v : Variant)
    (path : Option TargetPath) (location : Option Location) :
    shapeError source target location = none ↔
      (synthesize source target v path location).shapeValid = true := by
  rw [shapeError_eq_none_iff, shapeValid, source_synthesize, target_synthesize, Bool.and_eq_true]

/-- The plan of two classes writes a field twice just where two lines of the source's class annotate one
name and both are carried; what the target's class annotates twice makes no difference. Where no pair may
be skipped and none is refused, every line of the source is carried that the target's class has a name of.
A construction that writes a field twice has an argument twice, and its text is no call. -/
theorem written_once_iff (i : Interpreter) (d e : ClassDeclaration) (file file' : Option Files.Path)
    (source target : Schema) (hsource : Schema.ofClass i d file = .ok source)
    (htarget : Schema.ofClass i e file' = .ok target) (v : Variant) (path : Option TargetPath)
    (location : Option Location) (p : Plan) (hp : p = synthesize source target v path location) :
    (p.shapeValid = false → p.actions = []) ∧
    (p.shapeValid = true →
      ((p.actions.map (·.target)).Nodup ↔
        (source.fields.filter (carries target v)).Pairwise fun f g => f.name ≠ g.name)) ∧
    (d.annotated.Nodup → (p.actions.map (·.target)).Nodup) ∧
    (p.errors = [] → v.soft = false → v.mode ≠ .intoDefault →
      p.actions.map (·.target) = d.annotated.filter (· ∈ e.annotated)) ∧
    (∀ defaulted identifier arguments,
      Emission.body p = .construct defaulted identifier arguments →
        arguments.map (·.1) = p.actions.map (·.target)) ∧
    (¬ (p.actions.map (·.target)).Nodup → ¬ (Emission.EmittedPlan.ofPlan p).Readable) := by
  have hshape := shapeError_eq_none_iff_shapeValid source target v path location
  rw [← fieldNames_of_ofClass i d file source hsource, ← fieldNames_of_ofClass i e file' target htarget]
  refine ⟨fun hbad => ?_, fun hgood => ?_, fun hnames => ?_, fun herrors hsoft hmode => ?_,
    arguments_body p, not_readable_of_repeated p⟩
  · subst hp
    apply actions_of_shapeError
    rw [ne_eq, hshape, hbad]
    exact Bool.false_ne_true
  · subst hp
    exact nodup_targets_iff source target v path location (hshape.mpr hgood)
  · subst hp
    exact nodup_targets source target v path location hnames
  · subst hp
    exact targets_of_errors_nil source target v path location hsoft hmode herrors

end Plan

/-! A class that annotates a name twice -/

def weightLine : FieldDeclaration :=
  ⟨{}, .name {} ⟨"weight", "weight", by decide, by decide⟩, (TypeExpr.named "float").expr, false⟩

def tallyClass : ClassDeclaration :=
  ⟨"Tally", {}, [], [weightLine, weightLine], "Tally", by decide, by decide⟩

def weightField : Field :=
  { name := "weight", type := TypeExpr.named "float", location := ⟨none, 0, 0, some "weight"⟩ }

def tally : Schema := { identifier := "Tally", fields := [weightField, weightField] }

theorem written_once_iff_tally :
    ¬ ((Plan.synthesize tally tally (.hard .into)).actions.map (·.target)).Nodup ∧
      ¬ (Emission.EmittedPlan.ofPlan (Plan.synthesize tally tally (.hard .into))).Readable := by
  obtain ⟨-, -, -, htargets, -, hreadable⟩ :=
    Plan.written_once_iff {} tallyClass tallyClass none none tally tally rfl rfl (.hard .into) none none _ rfl
  have htwice : ¬ ((Plan.synthesize tally tally (.hard .into)).actions.map (·.target)).Nodup := by
    rw [htargets rfl rfl (by decide)]
    decide
  exact ⟨htwice, hreadable htwice⟩

end Crosswalk

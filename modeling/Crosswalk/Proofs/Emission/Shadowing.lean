import Crosswalk.Proofs.Emission.Containment
import Crosswalk.Proofs.Text.Composition
import Crosswalk.Proofs.Walk

/-! Functions of one name. A name tells whether a function makes or updates, and after that the class's name in
words, with what the variant adds before and behind it. So variants of one target have names of their own;
classes of one name do not, nor do those whose names hold what a variant adds. A module binds a name to the
last function that has it. -/

namespace Crosswalk

/-! Targets -/

theorem Registry.resolve_ok (r : Registry) (path : TargetPath) (location : Location)
    (schema : Schema) (h : r.resolve path location = .ok schema) (place : Location) :
    r.resolve path place = .ok schema := by
  unfold resolve at h ⊢
  dsimp only at h ⊢
  split at h
  · cases h
  rename_i hroot
  rw [if_neg hroot]
  split at h
  · cases h
  split at h
  · cases h
  split at h
  · exact h
  · cases h

theorem Locator.resolve_ok (l : Locator) (host : Host) (path : TargetPath)
    (location : Location) (schema : Schema) (h : l.resolve host path location = .ok schema)
    (place : Location) : l.resolve host path place = .ok schema := by
  cases l with
  | walk w => exact w.resolve_ok host path location schema h place
  | registry r => exact r.resolve_ok path location schema h place

namespace Emission

/-! Names -/

/-- The name of a class as it stands in the names of functions. -/
def words (p : Plan) : String := Naming.snakeCase p.target.identifier

/-- A text as the name of a variant's function has it. -/
def named (v : Variant) (text : String) : String :=
  leadingWord v.mode ++ "_" ++ text ++ (if v.soft then "_soft" else "")

theorem functionName_eq (p : Plan) : functionName p = named p.variant (words p) := rfl

def opening (m : Mode) : String := if m.isMerge then "merge_into_" else "into_"

def qualifier : Mode → String
  | .into | .merge => ""
  | .intoDefault => "default_"
  | .mergeRef => "ref_"

/-- What a name has after its opening. -/
def qualified (v : Variant) (text : String) : String :=
  qualifier v.mode ++ text ++ (if v.soft then "_soft" else "")

theorem named_eq (v : Variant) (text : String) :
    named v text = opening v.mode ++ qualified v text := by
  have hword : leadingWord v.mode ++ "_" = opening v.mode ++ qualifier v.mode := by
    cases v.mode <;> decide
  rw [named, hword, qualified, ← String.append_assoc, ← String.append_assoc]

/-- Makers and updaters have different names, and otherwise the openings are the same. -/
theorem named_eq_iff (v w : Variant) (a b : String) :
    named v a = named w b ↔ v.mode.isMerge = w.mode.isMerge ∧ qualified v a = qualified w b := by
  rw [named_eq, named_eq]
  unfold opening
  constructor
  · intro h
    have hlist := congrArg String.toList h
    rw [String.toList_append, String.toList_append] at hlist
    cases hv : v.mode.isMerge <;> cases hw : w.mode.isMerge <;> simp_all
  · rintro ⟨hmerge, hqualified⟩
    rw [hmerge, hqualified]

/-- How much longer than the class's name what a name has after its opening is. -/
def added (v : Variant) : Nat := (qualifier v.mode).length + if v.soft then 5 else 0

theorem length_qualified (v : Variant) (text : String) :
    (qualified v text).length = text.length + added v := by
  have hsoft : (if v.soft then "_soft" else "").length = if v.soft then 5 else 0 := by
    cases v.soft <;> rfl
  unfold qualified added
  rw [String.length_append, String.length_append, hsoft]
  omega

/-- Variants that make, or that update, add texts of different lengths. -/
theorem variant_of_added (v w : Variant) (hmerge : v.mode.isMerge = w.mode.isMerge)
    (h : added v = added w) : v = w := by
  have hall : ∀ v ∈ Variant.all, ∀ w ∈ Variant.all, v.mode.isMerge = w.mode.isMerge →
      added v = added w → v = w := by decide
  exact hall v v.mem_all w w.mem_all hmerge h

theorem variant_of_named_eq (v w : Variant) (text : String) (h : named v text = named w text) :
    v = w := by
  obtain ⟨hmerge, hqualified⟩ := (named_eq_iff v w text text).mp h
  have hlength := congrArg String.length hqualified
  rw [length_qualified, length_qualified] at hlength
  exact variant_of_added v w hmerge (Nat.add_left_cancel hlength)

theorem named_inj (v : Variant) (a b : String) : named v a = named v b ↔ a = b := by
  constructor
  · intro h
    have hlist := congrArg String.toList h
    unfold named at hlist
    simp only [String.toList_append, List.append_left_inj, List.append_right_inj] at hlist
    exact String.toList_inj.mp hlist
  · exact congrArg (named v)

/-- What a variant adds is the same in compatible form. -/
theorem canonicalName_named (v : Variant) (text : String) :
    Code.canonicalName (named v text) = named v (Code.canonicalName text) := by
  have hword : Code.canonicalName (leadingWord v.mode) = leadingWord v.mode := by
    cases v.mode <;> decide
  have hname := Code.canonicalName_underscore (leadingWord v.mode) text
  unfold named
  cases v.soft with
  | false => rw [if_neg Bool.false_ne_true, String.append_empty, String.append_empty, hname, hword]
  | true =>
    have hsoft : "_soft" = "_" ++ "soft" := by decide
    have hend : Code.canonicalName "soft" = "soft" := by decide
    rw [if_pos rfl, hsoft, ← String.append_assoc, ← String.append_assoc, Code.canonicalName_underscore,
      hname, hword, hend]

/-- Whether the functions of two plans have one name, as names are compared. -/
def SameName (p q : Plan) : Prop :=
  Code.canonicalName (functionName p) = Code.canonicalName (functionName q)

instance (p q : Plan) : Decidable (SameName p q) := inferInstanceAs (Decidable (_ = _))

/-- Variants of classes whose names are the same in words have different names. -/
theorem variant_of_sameName (p q : Plan) (hwords : words p = words q) (h : SameName p q) :
    p.variant = q.variant := by
  unfold SameName at h
  rw [functionName_eq, functionName_eq, canonicalName_named, canonicalName_named, hwords] at h
  exact variant_of_named_eq p.variant q.variant _ h

/-! Modules -/

def functions (plans : List Plan) : List Function :=
  plans.filterMap fun p => (EmittedPlan.ofPlan p).function

/-- What a name stands for once a module has run: the last function of that name. -/
def bound (plans : List Plan) (name : String) : Option Function :=
  (functions plans).reverse.find? fun f => Code.canonicalName f.name == Code.canonicalName name

theorem mem_functions (plans : List Plan) (f : Function) :
    f ∈ functions plans ↔ ∃ p ∈ plans, p.shapeValid = true ∧ ⟨functionName p, body p⟩ = f := by
  simp only [functions, EmittedPlan.ofPlan, List.mem_filterMap, Option.ite_none_right_eq_some,
    Option.some.injEq]

theorem bound_eq (plans : List Plan) (f : Function) (hf : f ∈ functions plans)
    (honly : ∀ g ∈ functions plans, Code.canonicalName g.name = Code.canonicalName f.name → g = f) :
    bound plans f.name = some f := by
  unfold bound
  cases hfind : (functions plans).reverse.find? fun g =>
      Code.canonicalName g.name == Code.canonicalName f.name with
  | none => exact absurd (beq_self_eq_true _) (List.find?_eq_none.mp hfind f (List.mem_reverse.mpr hf))
  | some g =>
    have hg := List.mem_reverse.mp (List.mem_of_find?_eq_some hfind)
    have hname := List.find?_some hfind
    rw [honly g hg (eq_of_beq hname)]

/-- A plan's function does not depend on where the plan is asked for. -/
theorem body_synthesize (source target : Schema) (v : Variant) (path : Option TargetPath)
    (location place : Option Location) :
    body (Plan.synthesize source target v path location) =
      body (Plan.synthesize source target v path place) := by
  unfold Plan.synthesize
  cases hshape : Plan.shapeError source target location with
  | none =>
    have hnamed := (Plan.shapeError_eq_none_iff source target location).mp hshape
    rw [(Plan.shapeError_eq_none_iff source target place).mpr hnamed]
  | some d =>
    cases hplace : Plan.shapeError source target place with
    | none =>
      have hnamed := (Plan.shapeError_eq_none_iff source target place).mp hplace
      rw [(Plan.shapeError_eq_none_iff source target location).mpr hnamed] at hshape
      cases hshape
    | some d' => rfl

/-! Expansions -/

section

variable (host : Host) (file shown className : String) (modes : Option (List String))
  (settings : Settings) (locator : Option Locator) (e : Expansion)
  (h : Expansion.run host file shown className modes settings locator = .ok e)

include h

/-- Two plans of one path have one source and one target. -/
theorem exists_schemas (p q : Plan) (hp : p ∈ e.plans) (hq : q ∈ e.plans)
    (hpath : p.targetPath = q.targetPath) :
    ∃ source target path location place,
      p = Plan.synthesize source target p.variant path location ∧
        q = Plan.synthesize source target q.variant path place := by
  obtain ⟨source, l, a, target, v, hsource, hl, hfound, rfl⟩ :=
    Expansion.exists_planOf host file shown className modes settings locator e h p hp
  obtain ⟨source', l', b, target', w, hsource', hl', hfound', rfl⟩ :=
    Expansion.exists_planOf host file shown className modes settings locator e h q hq
  rw [hsource] at hsource'
  cases hsource'
  rw [hl] at hl'
  cases hl'
  unfold Expansion.planOf at hpath ⊢
  rw [Plan.targetPath_synthesize, Plan.targetPath_synthesize] at hpath
  rw [Plan.variant_synthesize, Plan.variant_synthesize]
  have hsame := l.resolve_ok host a.2 _ target hfound b.1.location
  rw [Option.some.inj hpath, hfound'] at hsame
  cases hsame
  exact ⟨source, target, some b.2, some a.1.location, some b.1.location, by rw [hpath], rfl⟩

/-- Functions of an expansion have one name if they make or update alike and the rests of their names are the
same; those of one variant, if their classes have one name in words. If these have, different variants are
told apart. A module binds a name to the function of its plan, unless a plan of another path has that name. -/
theorem names_apart :
    (∀ p ∈ e.plans, ∀ q ∈ e.plans,
      functionName p = functionName q ↔ p.mode.isMerge = q.mode.isMerge ∧
        qualified p.variant (words p) = qualified q.variant (words q)) ∧
    (∀ p ∈ e.plans, ∀ q ∈ e.plans, p.variant = q.variant →
      (functionName p = functionName q ↔ words p = words q)) ∧
    (∀ p ∈ e.plans, ∀ q ∈ e.plans, p.targetPath = q.targetPath → words p = words q) ∧
    (∀ p ∈ e.plans, ∀ q ∈ e.plans, words p = words q → p.mode ≠ q.mode ∨ p.soft ≠ q.soft →
      ¬ SameName p q) ∧
    ∀ p ∈ e.plans, p.shapeValid = true →
      (∀ q ∈ e.plans, q.shapeValid = true → SameName q p → q.targetPath = p.targetPath) →
      bound e.plans (functionName p) = (EmittedPlan.ofPlan p).function := by
  have hwords : ∀ p ∈ e.plans, ∀ q ∈ e.plans, p.targetPath = q.targetPath → words p = words q := by
    intro p hp q hq hpath
    obtain ⟨source, target, path, location, place, hp', hq'⟩ :=
      exists_schemas host file shown className modes settings locator e h p q hp hq hpath
    unfold words
    rw [hp', hq', Plan.target_synthesize, Plan.target_synthesize]
  refine ⟨fun p _ q _ => named_eq_iff p.variant q.variant _ _, ?_, hwords, ?_, ?_⟩
  · intro p _ q _ hvariant
    rw [functionName_eq, functionName_eq, hvariant]
    exact named_inj q.variant (words p) (words q)
  · intro p _ q _ hsame hvariant hname
    have heq := variant_of_sameName p q hsame hname
    rcases hvariant with hmode | hsoft
    · exact hmode (congrArg Variant.mode heq)
    · exact hsoft (congrArg Variant.soft heq)
  · intro p hp hvalid hpath
    have hfunction : (EmittedPlan.ofPlan p).function = some ⟨functionName p, body p⟩ := if_pos hvalid
    rw [hfunction]
    refine bound_eq e.plans ⟨functionName p, body p⟩
      ((mem_functions e.plans _).mpr ⟨p, hp, hvalid, rfl⟩) fun g hg hname => ?_
    obtain ⟨q, hq, hvalid', rfl⟩ := (mem_functions e.plans g).mp hg
    have hone := hpath q hq hvalid' hname
    -- A plan of the same path and name is the same plan, asked for at another place.
    have hvariant := variant_of_sameName q p (hwords q hq p hp hone) hname
    obtain ⟨source, target, path, location, place, hq', hp'⟩ :=
      exists_schemas host file shown className modes settings locator e h q p hq hp hone
    have hbody : body q = body p := by
      rw [hq', hp', hvariant]
      exact body_synthesize source target p.variant path location place
    rw [hbody, functionName_eq, functionName_eq, hvariant, hwords q hq p hp hone]

end

/-- A class that asks for two classes of one name, and for classes whose names hold what variants add. -/
def crossroads : Files.Node :=
  .directory [("src", .directory [
    ("a.py", .file (Files.bytesOf
      "class T:\n    x: int\nclass DefaultT:\n    x: int\nclass TSoft:\n    x: int\n")),
    ("b.py", .file (Files.bytesOf "class T:\n    y: int\n")),
    ("s.py", .file (Files.bytesOf ("@into(['crate.a.T', 'crate.b.T', 'crate.a.DefaultT'])\n" ++
      "@into_default('crate.a.T')\n@merge(['crate.a.T', 'crate.a.TSoft'])\n" ++
      "class S:\n    x: int\n    y: int\n")))])]

def crossroadsSettings : Settings := { rootDir := some ⟨"", []⟩, resolver := .fileSystem }

def firstT : TargetPath := ⟨["crate", "a", "T"], by decide, by decide⟩

def secondT : TargetPath := ⟨["crate", "b", "T"], by decide, by decide⟩

def defaultT : TargetPath := ⟨["crate", "a", "DefaultT"], by decide, by decide⟩

def softT : TargetPath := ⟨["crate", "a", "TSoft"], by decide, by decide⟩

def softMerge : Variant := ⟨.merge, true, fun _ => rfl⟩

/-- A plan's path, variant and function. -/
def view (p : Plan) : Option TargetPath × Variant × Option Function :=
  (p.targetPath, p.variant, (EmittedPlan.ofPlan p).function)

def crossings : List (Option TargetPath × Variant × Option Function) :=
  [(some firstT, .hard .into, some ⟨"into_t", .construct [] "T" [("x", "x")]⟩),
   (some secondT, .hard .into, some ⟨"into_t", .construct [] "T" [("y", "y")]⟩),
   (some defaultT, .hard .into, some ⟨"into_default_t", .construct [] "DefaultT" [("x", "x")]⟩),
   (some firstT, .hard .intoDefault, some ⟨"into_default_t", .construct [] "T" [("x", "x")]⟩),
   (some firstT, .hard .merge, some ⟨"merge_into_t", .update [.store "x" (.field "x")]⟩),
   (some firstT, softMerge, some ⟨"merge_into_t_soft", .update []⟩),
   (some softT, .hard .merge, some ⟨"merge_into_t_soft", .update [.store "x" (.field "x")]⟩),
   (some softT, softMerge, some ⟨"merge_into_t_soft_soft", .update []⟩)]

theorem run_crossroads :
    ∃ e, Expansion.run crossroads "src/s.py" "src/s.py" "S" none crossroadsSettings = .ok e ∧
      e.plans.map view = crossings := by
  have hviews : (match Expansion.run crossroads "src/s.py" "src/s.py" "S" none crossroadsSettings with
    | .ok e => decide (e.plans.map view = crossings)
    | .error _ => false) = true := by decide +kernel
  split at hviews
  · rename_i e hrun
    exact ⟨e, hrun, of_decide_eq_true hviews⟩
  · cases hviews

theorem function_eq_some_iff (p : Plan) (f : Function) :
    (EmittedPlan.ofPlan p).function = some f ↔
      p.shapeValid = true ∧ functionName p = f.name ∧ body p = f.body := by
  obtain ⟨name, b⟩ := f
  simp [EmittedPlan.ofPlan]

theorem exists_plan (plans : List Plan) (hviews : plans.map view = crossings)
    (path : Option TargetPath) (v : Variant) (f : Function) (h : (path, v, some f) ∈ crossings) :
    ∃ p ∈ plans, p.targetPath = path ∧ p.variant = v ∧ functionName p = f.name ∧
      (EmittedPlan.ofPlan p).function = some f := by
  rw [← hviews] at h
  obtain ⟨p, hp, hview⟩ := List.mem_map.mp h
  simp only [view, Prod.mk.injEq] at hview
  obtain ⟨hpath, hvariant, hfunction⟩ := hview
  exact ⟨p, hp, hpath, hvariant, ((function_eq_some_iff p f).mp hfunction).2.1, hfunction⟩

/-- Plans that differ in the path alone, in the path and the mode, or in the path and softness can have functions
of one name, and then the module keeps only the last of these. -/
theorem names_shared :
    ∃ e, Expansion.run crossroads "src/s.py" "src/s.py" "S" none crossroadsSettings = .ok e ∧
      (∃ p ∈ e.plans, ∃ q ∈ e.plans, p.targetPath ≠ q.targetPath ∧ p.variant = q.variant ∧
        functionName p = functionName q ∧ p.shapeValid = true ∧
        bound e.plans (functionName p) ≠ (EmittedPlan.ofPlan p).function) ∧
      (∃ p ∈ e.plans, ∃ q ∈ e.plans, p.mode ≠ q.mode ∧ functionName p = functionName q) ∧
      ∃ p ∈ e.plans, ∃ q ∈ e.plans, p.soft ≠ q.soft ∧ functionName p = functionName q := by
  obtain ⟨e, hrun, hviews⟩ := run_crossroads
  have hplan := exists_plan e.plans hviews
  have hfunctions : functions e.plans = crossings.filterMap (·.2.2) := by
    rw [← hviews, List.filterMap_map]
    rfl
  refine ⟨e, hrun, ?_, ?_, ?_⟩
  · obtain ⟨p, hp, hpath, hv, hname, hf⟩ :=
      hplan (some firstT) (.hard .into) ⟨"into_t", .construct [] "T" [("x", "x")]⟩ (by decide)
    obtain ⟨q, hq, hpath', hw, hname', -⟩ :=
      hplan (some secondT) (.hard .into) ⟨"into_t", .construct [] "T" [("y", "y")]⟩ (by decide)
    refine ⟨p, hp, q, hq, ?_, hv.trans hw.symm, hname.trans hname'.symm,
      ((function_eq_some_iff p _).mp hf).1, ?_⟩
    · rw [hpath, hpath']
      decide
    · rw [hf, hname, bound, hfunctions]
      decide
  · obtain ⟨p, hp, -, hv, hname, -⟩ := hplan (some defaultT) (.hard .into)
      ⟨"into_default_t", .construct [] "DefaultT" [("x", "x")]⟩ (by decide)
    obtain ⟨q, hq, -, hw, hname', -⟩ := hplan (some firstT) (.hard .intoDefault)
      ⟨"into_default_t", .construct [] "T" [("x", "x")]⟩ (by decide)
    refine ⟨p, hp, q, hq, ?_, hname.trans hname'.symm⟩
    rw [Plan.mode, Plan.mode, hv, hw]
    decide
  · obtain ⟨p, hp, -, hv, hname, -⟩ :=
      hplan (some firstT) softMerge ⟨"merge_into_t_soft", .update []⟩ (by decide)
    obtain ⟨q, hq, -, hw, hname', -⟩ := hplan (some softT) (.hard .merge)
      ⟨"merge_into_t_soft", .update [.store "x" (.field "x")]⟩ (by decide)
    refine ⟨p, hp, q, hq, ?_, hname.trans hname'.symm⟩
    rw [Plan.soft, Plan.soft, hv, hw]
    decide

theorem path_of_name : ∀ x ∈ crossings, ∀ f ∈ x.2.2,
    Code.canonicalName f.name = Code.canonicalName "merge_into_t" → x.1 = some firstT := by
  decide +kernel

theorem names_apart_crossroads :
    ∃ e, Expansion.run crossroads "src/s.py" "src/s.py" "S" none crossroadsSettings = .ok e ∧
      ∃ p ∈ e.plans, ∃ q ∈ e.plans, p.targetPath = q.targetPath ∧ p.soft ≠ q.soft ∧
        ¬ SameName p q ∧ bound e.plans (functionName p) = (EmittedPlan.ofPlan p).function := by
  obtain ⟨e, hrun, hviews⟩ := run_crossroads
  obtain ⟨p, hp, hpath, hv, hname, hf⟩ := exists_plan e.plans hviews (some firstT) (.hard .merge)
    ⟨"merge_into_t", .update [.store "x" (.field "x")]⟩ (by decide)
  obtain ⟨q, hq, hpath', hw, -, -⟩ := exists_plan e.plans hviews (some firstT) softMerge
    ⟨"merge_into_t_soft", .update []⟩ (by decide)
  have hsame := hpath.trans hpath'.symm
  have hsoft : p.soft ≠ q.soft := by
    rw [Plan.soft, Plan.soft, hv, hw]
    decide
  have honly : ∀ r ∈ e.plans, r.shapeValid = true → SameName r p → r.targetPath = p.targetPath := by
    intro r hr hvalid hrp
    have hview := List.mem_map_of_mem (f := view) hr
    rw [hviews] at hview
    unfold SameName at hrp
    rw [hname] at hrp
    rw [hpath]
    have hfunction : (EmittedPlan.ofPlan r).function = some ⟨functionName r, body r⟩ := if_pos hvalid
    exact path_of_name (view r) hview ⟨functionName r, body r⟩ hfunction hrp
  obtain ⟨-, -, hwords, happart, hbound⟩ := names_apart crossroads "src/s.py" "src/s.py" "S" none
    crossroadsSettings none e hrun
  exact ⟨e, hrun, p, hp, q, hq, hsame, hsoft, happart p hp q hq (hwords p hp q hq hsame) (.inr hsoft),
    hbound p hp ((function_eq_some_iff p _).mp hf).1 honly⟩

end Emission
end Crosswalk

import Crosswalk.Proofs.Declared
import Crosswalk.Proofs.Plan.Synthesis

/-! Plans by the texts of their targets. A text is looked up among paths and names at once, and the first plan
of the mode and the softness asked for is taken. Every path has a dot in its text and no name of a class has
one, so a path is never taken for a name: what is found under it is a plan of that path. -/

namespace Crosswalk

theorem TargetPath.not_dotless_toString (path : TargetPath) : ¬ Dotless path.toString := by
  rw [path.toString_eq, dotted_append _ _ (List.cons_ne_nil _ _)]
  intro h
  refine h ?_
  simp

namespace Expansion

/-- What is known of the texts that a plan goes by: its target has a path, and its name has no dot. -/
structure Addressed (p : Plan) (path : TargetPath) : Prop where
  path : p.targetPath = some path
  name : Dotless p.target.identifier

/-- A plan is known by the path of its target and by the target's name. -/
def KnownBy (text : String) (p : Plan) : Prop :=
  (∃ path, p.targetPath = some path ∧ path.toString = text) ∨ p.target.identifier = text

/-- All plans are for paths, and no name is written like one. -/
def AllAddressed (e : Expansion) : Prop := ∀ p ∈ e.plans, ∃ path, Addressed p path

theorem isTargetOf_iff (p : Plan) (path : TargetPath) (h : Addressed p path) (text : String) :
    isTargetOf text p = true ↔ KnownBy text p := by
  unfold isTargetOf KnownBy
  rw [h.path]
  simp

/-- By the text of a path only the plans of that path are known. -/
theorem knownBy_toString_iff (p : Plan) (h : ∃ path, Addressed p path) (path : TargetPath) :
    KnownBy path.toString p ↔ p.targetPath = some path := by
  obtain ⟨own, hown⟩ := h
  constructor
  · rintro (⟨path', hpath', heq⟩ | heq)
    · rw [hpath', TargetPath.toString_injective path' path heq]
    · exact absurd (heq ▸ hown.name) path.not_dotless_toString
  · intro hpath
    exact .inl ⟨path, hpath, rfl⟩

/-! The first plan -/

/-- The first plan with a property. -/
def IsFirst (P : Plan → Prop) (plans : List Plan) (p : Plan) : Prop :=
  ∃ before after, plans = before ++ p :: after ∧ P p ∧ ∀ q ∈ before, ¬ P q

theorem isFirst_congr {P Q : Plan → Prop} (plans : List Plan) (h : ∀ q ∈ plans, P q ↔ Q q)
    (p : Plan) : IsFirst P plans p ↔ IsFirst Q plans p := by
  refine exists_congr fun before => exists_congr fun after => and_congr_right fun hplans => ?_
  subst hplans
  refine and_congr (h p (by simp)) (forall₂_congr fun q hq => not_congr (h q ?_))
  exact List.mem_append_left _ hq

theorem find?_eq_some_iff_isFirst (f : Plan → Bool) (P : Plan → Prop) (hf : ∀ q, f q = true ↔ P q)
    (plans : List Plan) (p : Plan) : plans.find? f = some p ↔ IsFirst P plans p := by
  rw [List.find?_eq_some_iff_append]
  constructor
  · rintro ⟨hp, before, after, hplans, hbefore⟩
    refine ⟨before, after, hplans, (hf p).mp hp, fun q hq hP => ?_⟩
    have hnot := hbefore q hq
    rw [(hf q).mpr hP] at hnot
    cases hnot
  · rintro ⟨before, after, hplans, hp, hbefore⟩
    refine ⟨(hf p).mpr hp, before, after, hplans, fun q hq => ?_⟩
    rw [Bool.not_eq_true', Bool.eq_false_iff]
    exact mt (hf q).mp (hbefore q hq)

/-- A plan that is asked for by a mode, a softness and a text. -/
def Wanted (text : String) (mode : Mode) (soft : Bool) (p : Plan) : Prop :=
  p.mode = mode ∧ p.soft = soft ∧ KnownBy text p

section

variable (e : Expansion) (h : e.AllAddressed) (text : String) (mode : Mode) (soft : Bool)

theorem find?_plansFor : (e.plansFor mode soft).find? (isTargetOf text) =
    e.plans.find? fun p => p.mode = mode ∧ p.soft = soft ∧ isTargetOf text p := by
  rw [plansFor, List.find?_filter]
  refine List.find?_congr fun p _ => ?_
  simp [and_assoc]

include h

theorem plan_eq_ok_iff (p : Plan) :
    e.plan text mode soft = .ok p ↔ IsFirst (Wanted text mode soft) e.plans p := by
  have hfind : e.plan text mode soft = .ok p ↔
      (e.plansFor mode soft).find? (isTargetOf text) = some p := by
    unfold plan
    cases (e.plansFor mode soft).find? (isTargetOf text) <;> simp
  rw [hfind, find?_plansFor, find?_eq_some_iff_isFirst _ _ fun q => decide_eq_true_iff]
  refine isFirst_congr e.plans (fun q hq => ?_) p
  obtain ⟨path, hpath⟩ := h q hq
  rw [Wanted, isTargetOf_iff q path hpath]

theorem plan_eq_error_iff (reason : NoPlan) :
    e.plan text mode soft = .error reason ↔
      reason = ⟨mode, text⟩ ∧ ∀ p ∈ e.plans, ¬ Wanted text mode soft p := by
  have hfind : e.plan text mode soft = .error reason ↔
      reason = ⟨mode, text⟩ ∧ (e.plansFor mode soft).find? (isTargetOf text) = none := by
    unfold plan
    cases (e.plansFor mode soft).find? (isTargetOf text) <;> simp [eq_comm]
  rw [hfind, find?_plansFor, List.find?_eq_none]
  refine and_congr_right fun _ => forall₂_congr fun q hq => ?_
  obtain ⟨path, hpath⟩ := h q hq
  rw [decide_eq_true_iff, Wanted, isTargetOf_iff q path hpath]

/-- Under the text of a path the first plan of the path is found. -/
theorem plan_toString_eq_ok_iff (path : TargetPath) (p : Plan) :
    e.plan path.toString mode soft = .ok p ↔
      IsFirst (fun q => q.mode = mode ∧ q.soft = soft ∧ q.targetPath = some path) e.plans p := by
  rw [plan_eq_ok_iff e h]
  refine isFirst_congr e.plans (fun q hq => ?_) p
  rw [Wanted, knownBy_toString_iff q (h q hq)]

/-- A plan is found under its path unless an earlier plan of the path is. -/
theorem exists_plan_of_mem (p : Plan) (hp : p ∈ e.plans) :
    ∃ path q before after, p.targetPath = some path ∧ e.plan path.toString p.mode p.soft = .ok q ∧
      e.plans = before ++ q :: after ∧ p ∈ q :: after ∧
      q.mode = p.mode ∧ q.soft = p.soft ∧ q.targetPath = some path := by
  obtain ⟨path, hpath⟩ := h p hp
  cases hplan : e.plan path.toString p.mode p.soft with
  | error reason =>
    obtain ⟨-, hnone⟩ := (plan_eq_error_iff e h _ _ _ reason).mp hplan
    exact absurd ⟨rfl, rfl, .inl ⟨path, hpath.path, rfl⟩⟩ (hnone p hp)
  | ok q =>
    obtain ⟨before, after, hplans, hq, hbefore⟩ :=
      (plan_toString_eq_ok_iff e h _ _ path q).mp hplan
    refine ⟨path, q, before, after, hpath.path, hplan, hplans, ?_, hq⟩
    rw [hplans] at hp
    exact (List.mem_append.mp hp).resolve_left fun hfront => hbefore p hfront ⟨rfl, rfl, hpath.path⟩

end

/-! Expansions -/

/-- Every plan of an expansion has a path, and its target is named like a class. -/
theorem allAddressed_of_run (host : Host) (file shown className : String)
    (modes : Option (List String)) (settings : Settings) (locator : Option Locator)
    (hlocator : ∀ l ∈ locator, l.AllSchemas fun s => Dotless s.identifier) (e : Expansion)
    (h : run host file shown className modes settings locator = .ok e) : e.AllAddressed := by
  intro p hp
  have hmade := madeOf_of_mem_plans Registry.dotless_of_declared host file shown className modes
    settings locator hlocator e h p hp
  obtain ⟨source, l, a, target, v, -, -, -, hplan⟩ :=
    exists_planOf host file shown className modes settings locator e h p hp
  refine ⟨a.2, ?_, ?_⟩
  · rw [hplan]
    exact Plan.targetPath_synthesize _ _ _ _ _
  · cases hmade with
    | of source target hsource htarget v path location =>
      rw [Plan.target_synthesize]
      exact htarget

/-- A text finds the first plan of the mode and the softness whose target has it for its path or its name, and
nothing just if there is none. The text of a path finds the first plan of this path and no other plan, so every
plan is found under its path, unless an earlier plan of the same path, mode and softness is. This holds of all
expansions of classes, and of all others whose plans have paths and names without dots. -/
theorem plan_exact :
    (∀ (host : Host) (file shown className : String) (modes : Option (List String))
      (settings : Settings) (locator : Option Locator) (e : Expansion),
      (∀ l ∈ locator, l.AllSchemas fun s => Dotless s.identifier) →
      run host file shown className modes settings locator = .ok e → e.AllAddressed) ∧
    ∀ e : Expansion, e.AllAddressed →
      (∀ text mode soft,
        (∀ p, e.plan text mode soft = .ok p ↔ IsFirst (Wanted text mode soft) e.plans p) ∧
        ∀ reason, e.plan text mode soft = .error reason ↔
          reason = ⟨mode, text⟩ ∧ ∀ p ∈ e.plans, ¬ Wanted text mode soft p) ∧
      (∀ (path : TargetPath) mode soft p, e.plan path.toString mode soft = .ok p ↔
        IsFirst (fun q => q.mode = mode ∧ q.soft = soft ∧ q.targetPath = some path) e.plans p) ∧
      ∀ p ∈ e.plans, ∃ path q before after, p.targetPath = some path ∧
        e.plan path.toString p.mode p.soft = .ok q ∧ e.plans = before ++ q :: after ∧
        p ∈ q :: after ∧ q.mode = p.mode ∧ q.soft = p.soft ∧ q.targetPath = some path := by
  constructor
  · intro host file shown className modes settings locator e hlocator h
    exact allAddressed_of_run host file shown className modes settings locator hlocator e h
  · intro e h
    refine ⟨fun text mode soft => ⟨?_, ?_⟩, fun path mode soft => ?_, ?_⟩
    · exact plan_eq_ok_iff e h text mode soft
    · exact plan_eq_error_iff e h text mode soft
    · exact plan_toString_eq_ok_iff e h mode soft path
    · exact exists_plan_of_mem e h

/-- Two modules with a class of one name each; the second class is asked for twice. -/
def junction : Files.Node :=
  .directory [("src", .directory [
    ("near.py", .file (Files.bytesOf "class T:\n    x: int\n")),
    ("far.py", .file (Files.bytesOf "class T:\n    x: int\n")),
    ("s.py", .file (Files.bytesOf
      "@into(['crate.near.T', 'crate.far.T', 'crate.far.T'])\nclass S:\n    x: int\n"))])]

def nearT : TargetPath := ⟨["crate", "near", "T"], by decide, by decide⟩

def farT : TargetPath := ⟨["crate", "far", "T"], by decide, by decide⟩

def junctionSettings : Settings := { rootDir := some ⟨"", []⟩, resolver := .fileSystem }

/-- What a plan is looked up by. -/
def view (p : Plan) : Option TargetPath × Mode × Bool × String :=
  (p.targetPath, p.mode, p.soft, p.target.identifier)

theorem run_junction :
    ∃ e a b c, run junction "src/s.py" "src/s.py" "S" none junctionSettings = .ok e ∧
      e.plans = [a, b, c] ∧ view a = (some nearT, .into, false, "T") ∧
      view b = (some farT, .into, false, "T") ∧ view c = (some farT, .into, false, "T") := by
  have hviews : (match run junction "src/s.py" "src/s.py" "S" none junctionSettings with
    | .ok e => decide (e.plans.map view = [(some nearT, .into, false, "T"),
        (some farT, .into, false, "T"), (some farT, .into, false, "T")])
    | .error _ => false) = true := by decide +kernel
  split at hviews
  · rename_i e hrun
    obtain ⟨a, l, hplans, ha, hl⟩ := List.map_eq_cons_iff.mp (of_decide_eq_true hviews)
    obtain ⟨b, l', rfl, hb, hl'⟩ := List.map_eq_cons_iff.mp hl
    obtain ⟨c, rfl, hc⟩ := List.map_eq_singleton_iff.mp hl'
    exact ⟨e, a, b, c, hrun, hplans, ha, hb, hc⟩
  · cases hviews

/-- The name leads to the class of the first module, a path to that of its own module, and the name of a module
nowhere. -/
theorem plan_exact_junction :
    ∃ e a b c, run junction "src/s.py" "src/s.py" "S" none junctionSettings = .ok e ∧
      e.AllAddressed ∧ e.plans = [a, b, c] ∧
      a.targetPath = some nearT ∧ e.plan "T" .into = .ok a ∧
      b.targetPath = some farT ∧ e.plan farT.toString .into = .ok b ∧
      e.plan "far" .into = .error ⟨.into, "far"⟩ := by
  obtain ⟨e, a, b, c, hrun, hplans, ha, hb, hc⟩ := run_junction
  simp only [view, Prod.mk.injEq] at ha hb hc
  obtain ⟨hruns, hexact⟩ := plan_exact
  have haddressed : e.AllAddressed :=
    hruns junction "src/s.py" "src/s.py" "S" none junctionSettings none e nofun hrun
  obtain ⟨htexts, hpaths, -⟩ := hexact e haddressed
  have hname : e.plan "T" .into = .ok a := by
    refine ((htexts _ _ _).1 a).mpr ⟨[], [b, c], hplans, ?_, List.forall_mem_nil _⟩
    exact ⟨ha.2.1, ha.2.2.1, .inr ha.2.2.2⟩
  have hpath : e.plan farT.toString .into = .ok b := by
    refine (hpaths farT _ _ b).mpr ⟨[a], [c], hplans, ⟨hb.2.1, hb.2.2.1, hb.1⟩, fun q hq hsame => ?_⟩
    have hfar := hsame.2.2
    rw [List.mem_singleton.mp hq, ha.1] at hfar
    exact absurd hfar (by decide)
  have hmodule : e.plan "far" .into = .error ⟨.into, "far"⟩ := by
    refine ((htexts _ _ _).2 _).mpr ⟨rfl, fun p hp hwanted => ?_⟩
    have hcases : p.target.identifier = "T" := by
      rw [hplans] at hp
      simp only [List.mem_cons, List.not_mem_nil, or_false] at hp
      rcases hp with rfl | rfl | rfl
      exacts [ha.2.2.2, hb.2.2.2, hc.2.2.2]
    rcases hwanted.2.2 with ⟨path, -, htext⟩ | htext
    · exact path.not_dotless_toString (htext ▸ by decide)
    · rw [hcases] at htext
      exact absurd htext (by decide)
  exact ⟨e, a, b, c, hrun, haddressed, hplans, ha.1, hname, hb.1, hpath, hmodule⟩

end Expansion
end Crosswalk

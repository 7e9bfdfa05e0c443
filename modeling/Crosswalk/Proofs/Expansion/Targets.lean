import Crosswalk.Proofs.Expansion.Outcomes
import Crosswalk.Proofs.Plan.Synthesis

/-! Targets by themselves. The plans of an expansion come path by path, in the order of the decorators and
then in that of their paths: a path that is found gives one plan, or a hard and a soft one, and a path that
is not gives none. So the answer to one path matters to the plans of that path only. -/

namespace Crosswalk.Expansion

/-- What a plan was made for: a path, the schema found there, a mode and softness. -/
structure Purpose where
  path : Option TargetPath
  target : Schema
  mode : Mode
  soft : Bool

def purposeOf (p : Plan) : Purpose := ⟨p.targetPath, p.target, p.mode, p.soft⟩

/-- A target is built by one plan, and is updated by two, the hard one first. -/
def purposes (mode : Mode) (path : TargetPath) (target : Schema) : List Purpose :=
  if mode.isMerge then [⟨some path, target, mode, false⟩, ⟨some path, target, mode, true⟩]
  else [⟨some path, target, mode, false⟩]

variable (resolve : TargetPath → Location → Except Failure Schema) (source : Schema)

/-- The plans that a path comes to, if it is found. -/
def plansAt (a : Request × TargetPath) : List Plan :=
  match resolve a.2 a.1.location with
  | .ok target => (planTarget source a.1 a.2 target).1
  | .error _ => []

theorem plans_of_answered (a : Request × TargetPath) (outcome : List Plan × List Diagnostic)
    (h : Answered resolve source a outcome) : outcome.1 = plansAt resolve source a := by
  unfold plansAt
  cases h with
  | planned target hfound => rw [hfound]
  | reported d hreported => rw [hreported]

theorem plans_of_all_answered (l : List (Request × TargetPath))
    (outcomes : List (List Plan × List Diagnostic))
    (h : List.Forall₂ (Answered resolve source) l outcomes) :
    outcomes.flatMap (·.1) = l.flatMap (plansAt resolve source) := by
  induction h with
  | nil => rfl
  | cons hfirst _ ih =>
    rw [List.flatMap_cons, List.flatMap_cons, plans_of_answered resolve source _ _ hfirst, ih]

/-- The plans of an expansion, path by path. -/
theorem plans_eq_flatMap (modes : Option (List String)) (e : Expansion)
    (h : ofRequests resolve source modes = .ok e) (wanted : List Mode)
    (hwanted : wantedModes modes source.requests.1 = .ok wanted) :
    e.plans = (asked source wanted).flatMap (plansAt resolve source) := by
  obtain ⟨wanted', outcomes, hwanted', hanswered, rfl⟩ := exists_outcomes resolve source modes e h
  rw [hwanted] at hwanted'
  cases hwanted'
  exact plans_of_all_answered resolve source _ outcomes hanswered

/-! What the plans of a path are for -/

theorem purposes_planTarget (request : Request) (path : TargetPath) (target : Schema) :
    (planTarget source request path target).1.map purposeOf = purposes request.mode path target := by
  have hone : ∀ v : Variant, purposeOf (Plan.synthesize source target v (some path)
      (some request.location)) = ⟨some path, target, v.mode, v.soft⟩ := by
    intro v
    unfold purposeOf Plan.soft
    rw [Plan.targetPath_synthesize, Plan.target_synthesize, Plan.mode_synthesize,
      Plan.variant_synthesize]
  unfold planTarget purposes Variant.ofMode
  by_cases hmerge : request.mode.isMerge = true
  · rw [if_pos hmerge, dif_pos hmerge]
    simp only [List.map_cons, List.map_nil, hone]
    rfl
  · rw [if_neg hmerge, dif_neg hmerge]
    simp only [List.map_cons, List.map_nil, hone]
    rfl

theorem targetPath_of_mem_plansAt (a : Request × TargetPath) (q : Plan)
    (h : q ∈ plansAt resolve source a) : q.targetPath = some a.2 := by
  unfold plansAt at h
  split at h
  · obtain ⟨v, -, rfl⟩ := (mem_planTarget source a _ q).mp h
    exact Plan.targetPath_synthesize source _ v _ _
  · cases h

theorem asked_flatMap {α : Type} (wanted : List Mode) (f : Request × TargetPath → List α) :
    (asked source wanted).flatMap f = source.requests.1.flatMap fun request =>
      if request.mode ∈ wanted then request.paths.flatMap fun path => f (request, path) else [] := by
  unfold asked
  rw [List.flatMap_assoc]
  induction source.requests.1 with
  | nil => rfl
  | cons request rest ih =>
    rw [List.filter_cons, List.flatMap_cons, ← ih]
    by_cases hmode : request.mode ∈ wanted
    · rw [if_pos (List.contains_iff_mem.mpr hmode), if_pos hmode, List.flatMap_cons,
        List.flatMap_map]
    · rw [if_neg fun h => hmode (List.contains_iff_mem.mp h), if_neg hmode, List.nil_append]

/-! Two answers to one path -/

section

variable (left right : TargetPath → Location → Except Failure Schema) (p : TargetPath)

/-- The plans of other paths than one. -/
def apartFrom (plans : List Plan) : List Plan := plans.filter fun q => q.targetPath ≠ some p

/-- Plans are those of other paths, or the path is the one that does not matter. -/
theorem apartFrom_plansAt (a : Request × TargetPath)
    (hagree : ∀ path location, path ≠ p → left path location = right path location) :
    apartFrom p (plansAt left source a) = apartFrom p (plansAt right source a) := by
  by_cases hpath : a.2 = p
  · have hnone : ∀ resolve, apartFrom p (plansAt resolve source a) = [] := by
      intro resolve
      unfold apartFrom
      rw [List.filter_eq_nil_iff]
      intro q hq
      rw [targetPath_of_mem_plansAt resolve source a q hq, hpath]
      simp
    rw [hnone left, hnone right]
  · have hsame : plansAt left source a = plansAt right source a := by
      unfold plansAt
      rw [hagree a.2 a.1.location hpath]
    rw [hsame]

theorem apartFrom_plans (modes : Option (List String)) (e e' : Expansion)
    (hagree : ∀ path location, path ≠ p → left path location = right path location)
    (he : ofRequests left source modes = .ok e) (he' : ofRequests right source modes = .ok e') :
    apartFrom p e.plans = apartFrom p e'.plans := by
  obtain ⟨wanted, -, hwanted, -, -⟩ := exists_outcomes left source modes e he
  rw [plans_eq_flatMap left source modes e he wanted hwanted,
    plans_eq_flatMap right source modes e' he' wanted hwanted]
  unfold apartFrom
  rw [List.filter_flatMap, List.filter_flatMap]
  exact List.flatMap_congr fun a _ => apartFrom_plansAt source left right p a hagree

end

/-- Two ways to find targets that differ in one path give the same plans for all other paths. Each path of
a wanted request has its plans if it is found, in the order of the decorators and of their paths, and else
its diagnostic. -/
theorem targets_independent (left right : TargetPath → Location → Except Failure Schema)
    (source : Schema) (modes : Option (List String)) (p : TargetPath) (e e' : Expansion)
    (hagree : ∀ path location, path ≠ p → left path location = right path location)
    (he : ofRequests left source modes = .ok e) (he' : ofRequests right source modes = .ok e') :
    apartFrom p e.plans = apartFrom p e'.plans ∧
    (∃ wanted, wantedModes modes source.requests.1 = .ok wanted ∧
      e.plans.map purposeOf =
        ((source.decorators.filterMap fun d => (Request.ofDecorator source.file d).1).flatMap
          fun request =>
            if request.mode ∈ wanted then
              request.paths.flatMap fun path =>
                match left path request.location with
                | .ok target => purposes request.mode path target
                | .error _ => []
            else []) ∧
      ∀ request ∈ source.requests.1, request.mode ∈ wanted → ∀ path ∈ request.paths,
        (∃ target, left path request.location = .ok target) ∨
          ∃ d, left path request.location = .error (.reported d) ∧ d ∈ e.diagnostics.toList) ∧
    ∀ host file shown className settings l, findSource host file shown className = .ok source →
      (left = fun path location => Locator.resolve host l path location) →
      run host file shown className modes settings (some l) = .ok e := by
  obtain ⟨wanted, -, hwanted, -, -⟩ := exists_outcomes left source modes e he
  refine ⟨apartFrom_plans source left right p modes e e' hagree he he', ⟨wanted, hwanted, ?_, ?_⟩, ?_⟩
  · have hrequests : (source.decorators.filterMap fun d => (Request.ofDecorator source.file d).1) =
        source.requests.1 := by
      unfold Schema.requests Request.ofDecorators
      dsimp only
      rw [List.filterMap_map]
      rfl
    have hpurposes : ∀ a : Request × TargetPath, (plansAt left source a).map purposeOf =
        match left a.2 a.1.location with
        | .ok target => purposes a.1.mode a.2 target
        | .error _ => [] := by
      intro a
      unfold plansAt
      cases left a.2 a.1.location with
      | ok target => exact purposes_planTarget source a.1 a.2 target
      | error failure => rfl
    rw [hrequests, plans_eq_flatMap left source modes e he wanted hwanted, List.map_flatMap,
      asked_flatMap]
    simp only [hpurposes]
  · intro request hrequest hmode path hpath
    have hasked : (request, path) ∈ asked source wanted :=
      (mem_asked source wanted _).mpr ⟨hrequest, hmode, hpath⟩
    rcases answered_of_mem_asked left source modes e he wanted hwanted _ hasked with hfound | ⟨d, hd⟩
    · exact .inl hfound
    · exact .inr ⟨d, hd, (mem_diagnostics left source modes e he wanted hwanted d).mpr
        (.inr (.inr ⟨_, hasked, .inl hd⟩))⟩
  · intro host file shown className settings l hsource hleft
    rw [run_eq_ofRequests host file shown className modes settings (some l) source l hsource rfl,
      ← hleft, he]

/-! A kiosk that is out of one of two targets -/

def kioskText : String :=
  "@merge(['crate.a.A', 'crate.b.B'])\n@into('crate.a.A')\nclass S:\n    x: int\n"

def kioskPath (module identifier : String)
    (h : ∀ s ∈ ["crate", module, identifier], isSegment (Text.codePoints s) = true) : TargetPath :=
  ⟨["crate", module, identifier], Nat.le_succ 2, h⟩

theorem isSegment_kioskA : ∀ s ∈ ["crate", "a", "A"], isSegment (Text.codePoints s) = true := by
  decide

def kioskA : TargetPath := kioskPath "a" "A" isSegment_kioskA

def kioskB : TargetPath := kioskPath "b" "B" (by decide)

def kiosk (stock : List TargetPath) (path : TargetPath) (location : Location) :
    Except Failure Schema :=
  if path ∈ stock then .ok { identifier := path.identifier, fields := [] }
  else .error ((ResolutionProblem.noUnit path.modulePath path).failure location)

def kioskRun (stock : List TargetPath) : Except ExpandError Expansion :=
  match Schema.parse {} kioskText with
  | .ok source => ofRequests (kiosk stock) source none
  | .error _ => .error (.unknownMode ⟨""⟩)

/-- Without one target its plans are missing, and those of the other are there. -/
theorem targets_independent_kiosk :
    ∃ e e', kioskRun [kioskA, kioskB] = .ok e ∧ kioskRun [kioskB] = .ok e' ∧
      apartFrom kioskA e.plans = apartFrom kioskA e'.plans ∧ e.plans.length = 5 ∧
      e'.plans.length = 2 := by
  have hlength : ∀ stock n, (match kioskRun stock with
      | .ok e => e.plans.length == n
      | .error _ => false) = true → ∃ e, kioskRun stock = .ok e ∧ e.plans.length = n := by
    intro stock n h
    cases hrun : kioskRun stock with
    | error reason =>
      rw [hrun] at h
      cases h
    | ok e =>
      rw [hrun] at h
      exact ⟨e, rfl, beq_iff_eq.mp h⟩
  obtain ⟨e, he, hplans⟩ := hlength [kioskA, kioskB] 5 (by decide +kernel)
  obtain ⟨e', he', hplans'⟩ := hlength [kioskB] 2 (by decide +kernel)
  obtain ⟨source, hsource⟩ : ∃ source, Schema.parse {} kioskText = .ok source :=
    exists_of_isOk _ (by decide +kernel)
  have hagree : ∀ path location, path ≠ kioskA →
      kiosk [kioskA, kioskB] path location = kiosk [kioskB] path location := by
    intro path location hpath
    simp [kiosk, hpath]
  refine ⟨e, e', he, he', ?_, hplans, hplans'⟩
  unfold kioskRun at he he'
  rw [hsource] at he he'
  exact (targets_independent _ _ source none kioskA e e' hagree he he').1

end Crosswalk.Expansion

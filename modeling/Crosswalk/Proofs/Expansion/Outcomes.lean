import Mathlib.Data.List.Forall2
import Crosswalk.Expansion
import Crosswalk.Proofs.Diagnostics
import Crosswalk.Proofs.Files.Lookup

/-! What an expansion is made of. Its wanted requests ask for paths, one after the other; each path that
is found gives the plans of its target and what is wrong with them, and each that is not gives one
diagnostic. The expansion has all these plans, and all these diagnostics after those of the decorators. -/

namespace Crosswalk.Expansion

variable (resolve : TargetPath → Location → Except Failure Schema) (source : Schema)

/-- The paths to plan, each with the request that asks for it. -/
def asked (source : Schema) (wanted : List Mode) : List (Request × TargetPath) :=
  (source.requests.1.filter fun r => wanted.contains r.mode).flatMap fun r => r.paths.map (r, ·)

theorem mem_asked (wanted : List Mode) (a : Request × TargetPath) :
    a ∈ asked source wanted ↔ a.1 ∈ source.requests.1 ∧ a.1.mode ∈ wanted ∧ a.2 ∈ a.1.paths := by
  obtain ⟨request, path⟩ := a
  simp only [asked, List.mem_flatMap, List.mem_filter, List.contains_iff_mem, List.mem_map,
    Prod.mk.injEq]
  constructor
  · rintro ⟨r, ⟨hr, hmode⟩, p, hp, rfl, rfl⟩
    exact ⟨hr, hmode, hp⟩
  · rintro ⟨hr, hmode, hp⟩
    exact ⟨request, ⟨hr, hmode⟩, path, hp, rfl, rfl⟩

def planAsked (a : Request × TargetPath) : Except Fault (List Plan × List Diagnostic) :=
  planPath resolve source a.1 a.2

/-- Planning request by request is planning path by path. -/
theorem flatten_planRequests (chosen : List Request) :
    (chosen.mapM (planRequest resolve source)).map List.flatten =
      (chosen.flatMap fun r => r.paths.map (r, ·)).mapM (planAsked resolve source) := by
  induction chosen with
  | nil => rfl
  | cons r rest ih =>
    have hfirst : (r.paths.map (r, ·)).mapM (planAsked resolve source) =
        planRequest resolve source r := List.mapM_map
    rw [List.flatMap_cons, List.mapM_append, List.mapM_cons, ← ih, hfirst]
    cases planRequest resolve source r with
    | error fault => rfl
    | ok outcomes => cases rest.mapM (planRequest resolve source) <;> rfl

/-- An expansion, path by path. -/
theorem ofRequests_eq (modes : Option (List String)) (wanted : List Mode)
    (hwanted : wantedModes modes source.requests.1 = .ok wanted) :
    ofRequests resolve source modes =
      match (asked source wanted).mapM (planAsked resolve source) with
      | .error fault => .error (.stopped fault)
      | .ok outcomes => .ok {
          source := some source
          plans := outcomes.flatMap (·.1)
          diagnostics := Diagnostics.ofList (source.requests.2 ++
            missingRequests source source.requests.1 wanted ++ outcomes.flatMap (·.2)) } := by
  unfold ofRequests
  dsimp only
  rw [hwanted, asked, ← flatten_planRequests]
  dsimp only
  cases (source.requests.1.filter fun r => wanted.contains r.mode).mapM
    (planRequest resolve source) <;> rfl

/-! Single paths -/

/-- What a path comes to that is asked for: the plans of the target that is found, or a diagnostic. -/
inductive Answered (a : Request × TargetPath) : List Plan × List Diagnostic → Prop
  | planned (target : Schema) (h : resolve a.2 a.1.location = .ok target) :
    Answered a (planTarget source a.1 a.2 target)
  | reported (d : Diagnostic) (h : resolve a.2 a.1.location = .error (.reported d)) :
    Answered a ([], [d])

theorem answered_of_planAsked (a : Request × TargetPath) (outcome : List Plan × List Diagnostic)
    (h : planAsked resolve source a = .ok outcome) : Answered resolve source a outcome := by
  unfold planAsked planPath at h
  split at h
  · rename_i target hfound
    cases h
    exact .planned target hfound
  · rename_i d hreported
    cases h
    exact .reported d hreported
  · cases h

theorem answered_of_mapM (l : List (Request × TargetPath))
    (outcomes : List (List Plan × List Diagnostic))
    (h : l.mapM (planAsked resolve source) = .ok outcomes) :
    List.Forall₂ (Answered resolve source) l outcomes := by
  induction l generalizing outcomes with
  | nil =>
    cases h
    exact .nil
  | cons a rest ih =>
    rw [List.mapM_cons] at h
    obtain ⟨first, hfirst, h⟩ := exists_of_bind_ok _ _ _ h
    obtain ⟨others, hothers, h⟩ := exists_of_bind_ok _ _ _ h
    cases h
    exact .cons (answered_of_planAsked resolve source a first hfirst) (ih others hothers)

theorem exists_outcome (l : List (Request × TargetPath))
    (outcomes : List (List Plan × List Diagnostic))
    (h : List.Forall₂ (Answered resolve source) l outcomes) (a : Request × TargetPath) (ha : a ∈ l) :
    ∃ outcome ∈ outcomes, Answered resolve source a outcome := by
  induction h with
  | nil => cases ha
  | cons hfirst _ ih =>
    rcases List.mem_cons.mp ha with rfl | ha
    · exact ⟨_, List.mem_cons_self, hfirst⟩
    · obtain ⟨outcome, houtcome, hanswered⟩ := ih ha
      exact ⟨outcome, List.mem_cons_of_mem _ houtcome, hanswered⟩

theorem exists_asked (l : List (Request × TargetPath))
    (outcomes : List (List Plan × List Diagnostic))
    (h : List.Forall₂ (Answered resolve source) l outcomes)
    (outcome : List Plan × List Diagnostic) (ho : outcome ∈ outcomes) :
    ∃ a ∈ l, Answered resolve source a outcome := by
  induction h with
  | nil => cases ho
  | cons hfirst _ ih =>
    rcases List.mem_cons.mp ho with rfl | ho
    · exact ⟨_, List.mem_cons_self, hfirst⟩
    · obtain ⟨a, ha, hanswered⟩ := ih ho
      exact ⟨a, List.mem_cons_of_mem _ ha, hanswered⟩

/-! The whole -/

/-- The plan of a path that is asked for, in one of the variants of its mode. -/
def planOf (a : Request × TargetPath) (target : Schema) (v : Variant) : Plan :=
  Plan.synthesize source target v (some a.2) (some a.1.location)

theorem mem_planTarget (a : Request × TargetPath) (target : Schema) (p : Plan) :
    p ∈ (planTarget source a.1 a.2 target).1 ↔
      ∃ v ∈ Variant.ofMode a.1.mode, p = planOf source a target v := by
  simp [planTarget, planOf, eq_comm]

theorem mem_problems_planTarget (a : Request × TargetPath) (target : Schema) (d : Diagnostic) :
    d ∈ (planTarget source a.1 a.2 target).2 ↔
      ∃ p ∈ (planTarget source a.1 a.2 target).1,
        d ∈ p.errors ++ p.completeness (some a.1.location) := by
  simp only [planTarget, List.mem_flatMap]

section

variable (modes : Option (List String)) (e : Expansion)
  (h : ofRequests resolve source modes = .ok e)

include h

theorem exists_outcomes :
    ∃ wanted outcomes, wantedModes modes source.requests.1 = .ok wanted ∧
      List.Forall₂ (Answered resolve source) (asked source wanted) outcomes ∧
      e = {
        source := some source
        plans := outcomes.flatMap (·.1)
        diagnostics := Diagnostics.ofList (source.requests.2 ++
          missingRequests source source.requests.1 wanted ++ outcomes.flatMap (·.2)) } := by
  cases hwanted : wantedModes modes source.requests.1 with
  | error reason =>
    unfold ofRequests at h
    dsimp only at h
    rw [hwanted] at h
    cases h
  | ok wanted =>
    rw [ofRequests_eq resolve source modes wanted hwanted] at h
    cases houtcomes : (asked source wanted).mapM (planAsked resolve source) with
    | error fault =>
      rw [houtcomes] at h
      cases h
    | ok outcomes =>
      rw [houtcomes] at h
      cases h
      exact ⟨wanted, outcomes, rfl, answered_of_mapM resolve source _ _ houtcomes, rfl⟩

variable (wanted : List Mode) (hwanted : wantedModes modes source.requests.1 = .ok wanted)

include hwanted

/-- The plans are those of the targets that are found. -/
theorem mem_plans (p : Plan) :
    p ∈ e.plans ↔ ∃ a ∈ asked source wanted, ∃ target, resolve a.2 a.1.location = .ok target ∧
      ∃ v ∈ Variant.ofMode a.1.mode, p = planOf source a target v := by
  obtain ⟨wanted', outcomes, hwanted', hanswered, rfl⟩ := exists_outcomes resolve source modes e h
  rw [hwanted] at hwanted'
  cases hwanted'
  rw [List.mem_flatMap]
  constructor
  · rintro ⟨outcome, houtcome, hp⟩
    obtain ⟨a, ha, hoa⟩ := exists_asked resolve source _ _ hanswered outcome houtcome
    cases hoa with
    | planned target hfound => exact ⟨a, ha, target, hfound, (mem_planTarget source a target p).mp hp⟩
    | reported d hreported => cases hp
  · rintro ⟨a, ha, target, hfound, hp⟩
    obtain ⟨outcome, houtcome, hoa⟩ := exists_outcome resolve source _ _ hanswered a ha
    refine ⟨outcome, houtcome, ?_⟩
    cases hoa with
    | planned target' hfound' =>
      rw [hfound] at hfound'
      cases hfound'
      exact (mem_planTarget source a target p).mpr hp
    | reported d hreported =>
      rw [hfound] at hreported
      cases hreported

/-- The diagnostics are those of the decorators, of the modes, of the paths and of the plans. -/
theorem mem_diagnostics (d : Diagnostic) :
    d ∈ e.diagnostics.toList ↔
      d ∈ source.requests.2 ∨ d ∈ missingRequests source source.requests.1 wanted ∨
      ∃ a ∈ asked source wanted, resolve a.2 a.1.location = .error (.reported d) ∨
        ∃ target, resolve a.2 a.1.location = .ok target ∧ ∃ v ∈ Variant.ofMode a.1.mode,
          d ∈ (planOf source a target v).errors ++
            (planOf source a target v).completeness (some a.1.location) := by
  obtain ⟨wanted', outcomes, hwanted', hanswered, rfl⟩ := exists_outcomes resolve source modes e h
  rw [hwanted] at hwanted'
  cases hwanted'
  rw [Diagnostics.mem_ofList, List.mem_append, List.mem_append, or_assoc]
  refine or_congr_right (or_congr_right ?_)
  rw [List.mem_flatMap]
  constructor
  · rintro ⟨outcome, houtcome, hd⟩
    obtain ⟨a, ha, hoa⟩ := exists_asked resolve source _ _ hanswered outcome houtcome
    refine ⟨a, ha, ?_⟩
    cases hoa with
    | planned target hfound =>
      obtain ⟨p, hp, hd⟩ := (mem_problems_planTarget source a target d).mp hd
      obtain ⟨v, hv, rfl⟩ := (mem_planTarget source a target p).mp hp
      exact .inr ⟨target, hfound, v, hv, hd⟩
    | reported d' hreported =>
      rw [List.mem_singleton.mp hd]
      exact .inl hreported
  · rintro ⟨a, ha, hd⟩
    obtain ⟨outcome, houtcome, hoa⟩ := exists_outcome resolve source _ _ hanswered a ha
    refine ⟨outcome, houtcome, ?_⟩
    cases hoa with
    | planned target hfound =>
      rcases hd with hreported | ⟨target', hfound', v, hv, hd⟩
      · rw [hfound] at hreported
        cases hreported
      · rw [hfound] at hfound'
        cases hfound'
        exact (mem_problems_planTarget source a target d).mpr
          ⟨_, (mem_planTarget source a target _).mpr ⟨v, hv, rfl⟩, hd⟩
    | reported d' hreported =>
      rcases hd with hreported' | ⟨target', hfound', -⟩
      · rw [hreported] at hreported'
        cases hreported'
        exact List.mem_singleton_self d
      · rw [hreported] at hfound'
        cases hfound'

/-- Each path that is asked for is found or reported. -/
theorem answered_of_mem_asked (a : Request × TargetPath) (ha : a ∈ asked source wanted) :
    (∃ target, resolve a.2 a.1.location = .ok target) ∨
      ∃ d, resolve a.2 a.1.location = .error (.reported d) := by
  obtain ⟨wanted', outcomes, hwanted', hanswered, -⟩ := exists_outcomes resolve source modes e h
  rw [hwanted] at hwanted'
  cases hwanted'
  obtain ⟨outcome, -, hoa⟩ := exists_outcome resolve source _ _ hanswered a ha
  cases hoa with
  | planned target hfound => exact .inl ⟨target, hfound⟩
  | reported d hreported => exact .inr ⟨d, hreported⟩

end

/-! The class found -/

theorem run_eq_ofRequests (host : Host) (file shown className : String)
    (modes : Option (List String)) (settings : Settings) (locator : Option Locator) (source : Schema)
    (l : Locator) (hsource : findSource host file shown className = .ok source)
    (hlocator : chooseLocator host settings source.location locator = .ok l) :
    run host file shown className modes settings locator =
      ofRequests (fun path location => l.resolve host path location) source modes := by
  unfold run
  rw [hsource]
  dsimp only
  rw [hlocator]

/-- An expansion with a plan has read its class and has a way to find targets. -/
theorem ofRequests_of_run (host : Host) (file shown className : String)
    (modes : Option (List String)) (settings : Settings) (locator : Option Locator) (e : Expansion)
    (h : run host file shown className modes settings locator = .ok e) (hne : e.plans ≠ []) :
    ∃ source l, findSource host file shown className = .ok source ∧
      chooseLocator host settings source.location locator = .ok l ∧
      ofRequests (fun path location => l.resolve host path location) source modes = .ok e := by
  unfold run at h
  split at h
  · cases h
  · cases h
    exact absurd rfl hne
  rename_i source hsource
  split at h
  · cases h
  · cases h
    exact absurd rfl hne
  rename_i l hlocator
  exact ⟨source, l, hsource, hlocator, h⟩

/-- A plan of an expansion is one of the class that was read, for a path that leads to a target. -/
theorem exists_planOf (host : Host) (file shown className : String)
    (modes : Option (List String)) (settings : Settings) (locator : Option Locator) (e : Expansion)
    (h : run host file shown className modes settings locator = .ok e) (p : Plan) (hp : p ∈ e.plans) :
    ∃ source l a target v, findSource host file shown className = .ok source ∧
      chooseLocator host settings source.location locator = .ok l ∧
      l.resolve host a.2 a.1.location = .ok target ∧ p = planOf source a target v := by
  obtain ⟨source, l, hsource, hl, h⟩ := ofRequests_of_run host file shown className modes settings
    locator e h (List.ne_nil_of_mem hp)
  obtain ⟨wanted, -, hwanted, -, -⟩ := exists_outcomes _ source modes e h
  obtain ⟨a, -, target, hfound, v, -, hplan⟩ :=
    (mem_plans _ source modes e h wanted hwanted p).mp hp
  exact ⟨source, l, a, target, v, hsource, hl, hfound, hplan⟩

end Crosswalk.Expansion

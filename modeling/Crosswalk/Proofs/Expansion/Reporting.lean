import Crosswalk.CommandLine
import Crosswalk.Proofs.Expansion.Outcomes
import Crosswalk.Proofs.Live.Steps
import Crosswalk.Proofs.Plan.Synthesis
import Crosswalk.Proofs.Request

/-! What an expansion tells about its plans. It has errors just where a decorator is malformed, a wanted
mode has no annotation, a path is not resolved or a plan is invalid. So an expansion without errors has no
plan that an update or a construction refuses. -/

namespace Crosswalk

/-! Plans that are refused -/

namespace Plan

/-- No update and no construction refuses a plan for its problems. -/
def Accepted (p : Plan) : Prop :=
  ∀ (a b : Live.ObjectId) (c : Live.RecordClass) (s : Live.Store) (problems : List Diagnostic),
    (Live.mergeInto p a b s).1 ≠ .error (.invalid problems) ∧
      (Live.convert p a c s).1 ≠ .error (.invalid problems)

theorem not_invalid_of_after {α : Type} (check : Except Live.RunError Unit) (step : Live.Step α)
    (s : Live.Store) (problems : List Diagnostic) (h : check ≠ .error (.invalid problems)) :
    (Live.Step.after check step s).1 ≠ .error (.invalid problems) := by
  unfold Live.Step.after
  cases check with
  | error e =>
    intro hinvalid
    cases hinvalid
    exact h rfl
  | ok checked =>
    cases hrun : step.run.run s with
    | mk result after => cases result <;> exact nofun

theorem accepted_of_valid (p : Plan) (h : Live.ensureValid p = .ok ()) : p.Accepted := by
  intro a b c s problems
  constructor
  · refine not_invalid_of_after _ _ s problems ?_
    unfold Live.checkMerge
    rw [h]
    split <;> exact nofun
  · refine not_invalid_of_after _ _ s problems ?_
    unfold Live.checkConstruction
    rw [h]
    split <;> exact nofun

/-- Where a plan is said to be incomplete does not matter to whether it is. -/
theorem problems_eq_nil_iff (p : Plan) (location : Option Location) :
    p.problems = [] ↔ p.errors ++ p.completeness location = [] := by
  simp [problems, completeness]

end Plan

namespace Expansion

/-! What goes wrong -/

section

variable (resolve : TargetPath → Location → Except Failure Schema) (source : Schema)
  (wanted : List Mode) (e : Expansion)

/-- What an expansion of a class has to report. -/
inductive Fails : Prop
  | malformed (decorator : Code.Expr) (hmem : decorator ∈ source.decorators)
      (h : Request.Malformed decorator)
  | unrequested (mode : Mode) (hmem : mode ∈ wanted)
      (h : ∀ decorator ∈ source.decorators, Request.decoratorMode? decorator ≠ some mode)
  | unresolved (request : Request) (path : TargetPath) (hmem : request ∈ source.requests.1)
      (hmode : request.mode ∈ wanted) (hpath : path ∈ request.paths)
      (h : ∀ target, resolve path request.location ≠ .ok target)
  | invalid (p : Plan) (hmem : p ∈ e.plans) (h : Live.ensureValid p ≠ .ok ())

/-- An expansion reports what goes wrong and nothing else, with all errors of its plans and all that is
missing in them, where the plans were asked for. -/
structure Truthful : Prop where
  hasErrors_iff : e.hasErrors = true ↔ Fails resolve source wanted e
  errors : ∀ p ∈ e.plans, ∀ d ∈ p.errors, d ∈ e.diagnostics.toList
  completeness : ∀ p ∈ e.plans, ∃ request ∈ source.requests.1, ∃ path ∈ request.paths,
    p.mode = request.mode ∧ p.targetPath = some path ∧
      ∀ d ∈ p.completeness (some request.location), d ∈ e.diagnostics.toList
  accepted : e.hasErrors = false → ∀ p ∈ e.plans, p.Accepted

/-- A mode is missing if no decorator asks for it, or none in the right way. -/
theorem fails_of_missing (d : Diagnostic)
    (h : d ∈ missingRequests source source.requests.1 wanted) : Fails resolve source wanted e := by
  obtain ⟨mode, hmode, -⟩ := List.mem_map.mp h
  rw [List.mem_filter, Bool.not_eq_true', ← Bool.not_eq_true, List.contains_iff_mem] at hmode
  obtain ⟨hwanted, hmissing⟩ := hmode
  by_cases hasked : ∃ decorator ∈ source.decorators, Request.decoratorMode? decorator = some mode
  · obtain ⟨decorator, hdecorator, hdmode⟩ := hasked
    refine .malformed decorator hdecorator ⟨⟨mode, hdmode⟩, fun hwell => hmissing ?_⟩
    obtain ⟨p, callee, argument, elements, hcall, hwritten, -⟩ := hwell
    have helements := (Request.elements?_eq_some_iff decorator elements).mpr
      ⟨p, callee, argument, hcall, hwritten⟩
    have hrequest := (Request.mem_ofDecorators source.file source.decorators _).mpr
      ⟨decorator, hdecorator, mode, elements, hdmode, helements, rfl⟩
    exact List.mem_map.mpr ⟨_, hrequest, rfl⟩
  · exact .unrequested mode hwanted fun decorator hdecorator hdmode =>
      hasked ⟨decorator, hdecorator, hdmode⟩

theorem missing_of_unrequested (mode : Mode) (hmem : mode ∈ wanted)
    (h : ∀ decorator ∈ source.decorators, Request.decoratorMode? decorator ≠ some mode) :
    missingRequest source mode ∈ missingRequests source source.requests.1 wanted := by
  refine List.mem_map.mpr ⟨mode, List.mem_filter.mpr ⟨hmem, ?_⟩, rfl⟩
  rw [Bool.not_eq_true', ← Bool.not_eq_true, List.contains_iff_mem]
  intro hrequested
  obtain ⟨request, hrequest, rfl⟩ := List.mem_map.mp hrequested
  obtain ⟨decorator, hdecorator, mode, elements, hdmode, -, rfl⟩ :=
    (Request.mem_ofDecorators source.file source.decorators request).mp hrequest
  exact h decorator hdecorator hdmode

variable (modes : Option (List String)) (h : ofRequests resolve source modes = .ok e)
  (hwanted : wantedModes modes source.requests.1 = .ok wanted)

include h hwanted

/-- All that goes wrong with a plan is told. -/
theorem problems_mem_diagnostics (p : Plan) (hp : p ∈ e.plans) :
    ∃ a ∈ asked source wanted, p.mode = a.1.mode ∧ p.targetPath = some a.2 ∧
      ∀ d ∈ p.errors ++ p.completeness (some a.1.location), d ∈ e.diagnostics.toList := by
  obtain ⟨a, ha, target, hfound, v, hv, rfl⟩ :=
    (mem_plans resolve source modes e h wanted hwanted p).mp hp
  refine ⟨a, ha, ?_, ?_, fun d hd => ?_⟩
  · rw [planOf, Plan.mode_synthesize, Variant.mode_of_mem_ofMode v a.1.mode hv]
  · exact Plan.targetPath_synthesize source target v (some a.2) (some a.1.location)
  · exact (mem_diagnostics resolve source modes e h wanted hwanted d).mpr
      (.inr (.inr ⟨a, ha, .inr ⟨target, hfound, v, hv, hd⟩⟩))

theorem fails_of_hasErrors (herrors : e.hasErrors = true) : Fails resolve source wanted e := by
  obtain ⟨d, hd⟩ := (Diagnostics.hasErrors_iff e.diagnostics).mp herrors
  rcases (mem_diagnostics resolve source modes e h wanted hwanted d).mp hd with
    hproblem | hmissing | ⟨a, ha, hreported | ⟨target, hfound, v, hv, hd⟩⟩
  · obtain ⟨decorator, hdecorator, hbad⟩ :=
      (Request.exists_malformed_iff source.file source.decorators).mp
        (List.ne_nil_of_mem hproblem)
    exact .malformed decorator hdecorator hbad
  · exact fails_of_missing resolve source wanted e d hmissing
  · obtain ⟨hrequest, hmode, hpath⟩ := (mem_asked source wanted a).mp ha
    refine .unresolved a.1 a.2 hrequest hmode hpath fun target hfound => ?_
    rw [hreported] at hfound
    cases hfound
  · have hp := (mem_plans resolve source modes e h wanted hwanted _).mpr
      ⟨a, ha, target, hfound, v, hv, rfl⟩
    refine .invalid _ hp fun hvalid => ?_
    rw [Live.ensureValid_eq_ok_iff, Plan.problems_eq_nil_iff _ (some a.1.location)] at hvalid
    exact List.ne_nil_of_mem hd hvalid

theorem hasErrors_of_fails (hfails : Fails resolve source wanted e) : e.hasErrors = true := by
  refine (Diagnostics.hasErrors_iff e.diagnostics).mpr ?_
  have hmem := fun d => (mem_diagnostics resolve source modes e h wanted hwanted d).mpr
  cases hfails with
  | malformed decorator hdecorator hbad =>
    obtain ⟨d, hd⟩ := List.exists_mem_of_ne_nil _
      ((Request.exists_malformed_iff source.file source.decorators).mpr ⟨decorator, hdecorator, hbad⟩)
    exact ⟨d, hmem d (.inl hd)⟩
  | unrequested mode hmode hnone =>
    exact ⟨_, hmem _ (.inr (.inl (missing_of_unrequested source wanted mode hmode hnone)))⟩
  | unresolved request path hrequest hmode hpath hnone =>
    have ha := (mem_asked source wanted (request, path)).mpr ⟨hrequest, hmode, hpath⟩
    cases answered_of_mem_asked resolve source modes e h wanted hwanted _ ha with
    | inl hfound =>
      obtain ⟨target, hfound⟩ := hfound
      exact absurd hfound (hnone target)
    | inr hreported =>
      obtain ⟨d, hreported⟩ := hreported
      exact ⟨d, hmem d (.inr (.inr ⟨_, ha, .inl hreported⟩))⟩
  | invalid p hp hinvalid =>
    obtain ⟨a, -, -, -, htold⟩ :=
      problems_mem_diagnostics resolve source wanted e modes h hwanted p hp
    rw [ne_eq, Live.ensureValid_eq_ok_iff, Plan.problems_eq_nil_iff p (some a.1.location)] at hinvalid
    obtain ⟨d, hd⟩ := List.exists_mem_of_ne_nil _ hinvalid
    exact ⟨d, htold d hd⟩

theorem truthful_of_ofRequests : Truthful resolve source wanted e where
  hasErrors_iff :=
    ⟨fails_of_hasErrors resolve source wanted e modes h hwanted,
      hasErrors_of_fails resolve source wanted e modes h hwanted⟩
  errors p hp d hd := by
    obtain ⟨a, -, -, -, htold⟩ :=
      problems_mem_diagnostics resolve source wanted e modes h hwanted p hp
    exact htold d (List.mem_append_left _ hd)
  completeness p hp := by
    obtain ⟨a, ha, hmode, hpath, htold⟩ :=
      problems_mem_diagnostics resolve source wanted e modes h hwanted p hp
    obtain ⟨hrequest, -, hasked⟩ := (mem_asked source wanted a).mp ha
    exact ⟨a.1, hrequest, a.2, hasked, hmode, hpath, fun d hd => htold d (List.mem_append_right _ hd)⟩
  accepted hnone p hp := by
    refine p.accepted_of_valid (Classical.byContradiction fun hinvalid => ?_)
    rw [hasErrors_of_fails resolve source wanted e modes h hwanted (.invalid p hp hinvalid)] at hnone
    cases hnone

end

/-! Whole runs -/

/-- A run without errors has found the class and a way to find its targets. -/
theorem found_of_not_hasErrors (host : Host) (file shown className : String)
    (modes : Option (List String)) (settings : Settings) (locator : Option Locator) (e : Expansion)
    (hrun : run host file shown className modes settings locator = .ok e)
    (hnone : e.hasErrors = false) :
    ∃ source l, findSource host file shown className = .ok source ∧
      chooseLocator host settings source.location locator = .ok l := by
  have hfailed : ∀ source d, (failed source d).hasErrors ≠ false := by
    intro source d h
    have htold : (failed source d).hasErrors = true :=
      (Diagnostics.hasErrors_iff _).mpr ⟨d, (Diagnostics.mem_ofList [d] d).mpr List.mem_cons_self⟩
    rw [htold] at h
    cases h
  unfold run at hrun
  split at hrun
  · cases hrun
  · rename_i d hsource
    cases hrun
    exact absurd hnone (hfailed none d)
  · rename_i source hsource
    split at hrun
    · cases hrun
    · rename_i d hlocator
      cases hrun
      exact absurd hnone (hfailed (some source) d)
    · rename_i l hlocator
      exact ⟨source, l, hsource, hlocator⟩

theorem exit_showExpansion (i : CommandLine.Invocation) (host : Host) (e : Expansion)
    (report : CommandLine.Report) (h : i.showExpansion host e = .ok report) (hexit : report.exit = 0) :
    e.hasErrors = false := by
  have hreport : report.exit = if e.hasErrors then 1 else 0 := by
    unfold CommandLine.Invocation.showExpansion at h
    split at h
    · cases h
      rfl
    · unfold CommandLine.Invocation.writeCode at h
      obtain ⟨written, -, h⟩ := exists_of_bind_ok _ _ _ h
      split at h
      · cases h
      · cases h
        rfl
    · cases h
      rfl
  rw [hexit] at hreport
  cases herrors : e.hasErrors with
  | false => rfl
  | true =>
    rw [herrors] at hreport
    cases hreport

/-- A command line that ends without complaint has expanded a class without errors. -/
theorem expanded_of_exit (host : Host) (environment : List (String × String))
    (words : List String) (report : CommandLine.Report)
    (h : CommandLine.run host environment words = .finished report) (hexit : report.exit = 0) :
    ∃ i settings e, CommandLine.parse words = .ok (some i) ∧ i.settings environment = .ok settings ∧
      run host i.file (Files.Path.ofString i.file).toString i.className i.wanted settings = .ok e ∧
      e.hasErrors = false := by
  have hrefused : ∀ (i : CommandLine.Invocation) (message : String),
      .ok (i.refused host message) ≠ (.ok report : Except CommandLine.Crash CommandLine.Report) := by
    intro i message hreport
    cases hreport
    cases hexit
  unfold CommandLine.run at h
  split at h
  · cases h
  · cases h
  rename_i i hparse
  split at h
  · rename_i finished hfinished
    cases h
    unfold CommandLine.Invocation.run at hfinished
    split at hfinished
    · cases hfinished
    split at hfinished
    · exact absurd hfinished (hrefused i _)
    rename_i settings hsettings
    dsimp only at hfinished
    split at hfinished
    · rename_i e hrun
      exact ⟨i, settings, e, hparse, hsettings, hrun,
        exit_showExpansion i host e report hfinished hexit⟩
    · exact absurd hfinished (hrefused i _)
    · exact absurd hfinished (hrefused i _)
    · cases hfinished
    · cases hfinished
  · cases h

/-- A file of two classes, the first of which asks for the second. -/
def bench : Files.Node :=
  .directory [("src", .directory [("s.py", .file (Files.bytesOf
    "@into('crate.s.T')\nclass S:\n    x: int\nclass T:\n    x: int\n"))])]

def benchSettings : Settings := { rootDir := some ⟨"", []⟩ }

/-- With any way to find targets, with a locator and from the command line, an expansion tells what goes
wrong with it and nothing else; one without errors has only plans that are accepted. -/
theorem expansions_truthful :
    (∀ (resolve : TargetPath → Location → Except Failure Schema) (source : Schema)
      (modes : Option (List String)) (e : Expansion), ofRequests resolve source modes = .ok e →
      ∃ wanted, wantedModes modes source.requests.1 = .ok wanted ∧
        Truthful resolve source wanted e) ∧
    (∀ (host : Host) (file shown className : String) (modes : Option (List String))
      (settings : Settings) (locator : Option Locator) (source : Schema) (l : Locator) (e : Expansion),
      findSource host file shown className = .ok source →
      chooseLocator host settings source.location locator = .ok l →
      run host file shown className modes settings locator = .ok e →
      ∃ wanted, wantedModes modes source.requests.1 = .ok wanted ∧
        Truthful (fun path location => l.resolve host path location) source wanted e) ∧
    (∀ (host : Host) (environment : List (String × String)) (words : List String)
      (report : CommandLine.Report), CommandLine.run host environment words = .finished report →
      report.exit = 0 →
      ∃ i settings e, CommandLine.parse words = .ok (some i) ∧ i.settings environment = .ok settings ∧
        run host i.file (Files.Path.ofString i.file).toString i.className i.wanted settings = .ok e ∧
        e.hasErrors = false ∧ ∀ p ∈ e.plans, p.Accepted) := by
  have hrequests : ∀ (resolve : TargetPath → Location → Except Failure Schema) (source : Schema)
      (modes : Option (List String)) (e : Expansion), ofRequests resolve source modes = .ok e →
      ∃ wanted, wantedModes modes source.requests.1 = .ok wanted ∧
        Truthful resolve source wanted e := by
    intro resolve source modes e h
    obtain ⟨wanted, -, hwanted, -, -⟩ := exists_outcomes resolve source modes e h
    exact ⟨wanted, hwanted, truthful_of_ofRequests resolve source wanted e modes h hwanted⟩
  have hruns : ∀ (host : Host) (file shown className : String) (modes : Option (List String))
      (settings : Settings) (locator : Option Locator) (source : Schema) (l : Locator) (e : Expansion),
      findSource host file shown className = .ok source →
      chooseLocator host settings source.location locator = .ok l →
      run host file shown className modes settings locator = .ok e →
      ∃ wanted, wantedModes modes source.requests.1 = .ok wanted ∧
        Truthful (fun path location => l.resolve host path location) source wanted e := by
    intro host file shown className modes settings locator source l e hsource hlocator hrun
    rw [run_eq_ofRequests host file shown className modes settings locator source l hsource hlocator]
      at hrun
    exact hrequests _ source modes e hrun
  refine ⟨hrequests, hruns, ?_⟩
  intro host environment words report h hexit
  obtain ⟨i, settings, e, hparse, hsettings, hrun, hnone⟩ :=
    expanded_of_exit host environment words report h hexit
  obtain ⟨source, l, hsource, hlocator⟩ :=
    found_of_not_hasErrors host _ _ _ _ settings none e hrun hnone
  obtain ⟨wanted, -, htruthful⟩ :=
    hruns host _ _ _ _ settings none source l e hsource hlocator hrun
  exact ⟨i, settings, e, hparse, hsettings, hrun, hnone, htruthful.accepted hnone⟩

theorem expansions_truthful_bench :
    (∃ source l e, findSource bench "src/s.py" "src/s.py" "S" = .ok source ∧
      chooseLocator bench benchSettings source.location none = .ok l ∧
      run bench "src/s.py" "src/s.py" "S" none benchSettings = .ok e ∧ e.plans ≠ [] ∧
      (∃ wanted, Truthful (fun path location => l.resolve bench path location) source wanted e) ∧
      ∀ p ∈ e.plans, p.Accepted) ∧
    ∃ report settings e, ∃ i : CommandLine.Invocation,
      CommandLine.run bench [] ["plan", "src/s.py", "S", "--root", "."] = .finished report ∧
      report.exit = 0 ∧
      run bench i.file (Files.Path.ofString i.file).toString i.className i.wanted settings = .ok e ∧
      ∀ p ∈ e.plans, p.Accepted := by
  obtain ⟨hrequests, hruns, hcommands⟩ := expansions_truthful
  have hrun : ∃ e, run bench "src/s.py" "src/s.py" "S" none benchSettings = .ok e ∧
      e.hasErrors = false ∧ e.plans ≠ [] := by
    have hgood : (match run bench "src/s.py" "src/s.py" "S" none benchSettings with
      | .ok e => !e.hasErrors && !e.plans.isEmpty
      | .error _ => false) = true := by decide +kernel
    split at hgood
    · rename_i e he
      rw [Bool.and_eq_true, Bool.not_eq_true', Bool.not_eq_true', List.isEmpty_eq_false_iff] at hgood
      exact ⟨e, he, hgood⟩
    · cases hgood
  have hreport : ∃ report,
      CommandLine.run bench [] ["plan", "src/s.py", "S", "--root", "."] = .finished report ∧
        report.exit = 0 := by
    have hgood : (match CommandLine.run bench [] ["plan", "src/s.py", "S", "--root", "."] with
      | .finished report => report.exit == 0
      | _ => false) = true := by decide +kernel
    split at hgood
    · rename_i report hreport
      exact ⟨report, hreport, beq_iff_eq.mp hgood⟩
    · cases hgood
  obtain ⟨e, hrun, hnone, hplans⟩ := hrun
  obtain ⟨report, hreport, hexit⟩ := hreport
  obtain ⟨source, l, hsource, hlocator⟩ :=
    found_of_not_hasErrors bench _ _ _ _ benchSettings none e hrun hnone
  obtain ⟨wanted, -, htruthful⟩ :=
    hruns bench _ _ _ _ benchSettings none source l e hsource hlocator hrun
  have hdirect := run_eq_ofRequests bench "src/s.py" "src/s.py" "S" none benchSettings none source l
    hsource hlocator
  obtain ⟨wanted', -, htruthful'⟩ := hrequests _ source none e (hdirect.symm.trans hrun)
  obtain ⟨i, settings, e', -, -, hrun', -, haccepted⟩ := hcommands bench [] _ report hreport hexit
  exact ⟨⟨source, l, e, hsource, hlocator, hrun, hplans, ⟨wanted, htruthful⟩,
    htruthful'.accepted hnone⟩, report, settings, e', i, hreport, hexit, hrun', haccepted⟩

end Expansion
end Crosswalk

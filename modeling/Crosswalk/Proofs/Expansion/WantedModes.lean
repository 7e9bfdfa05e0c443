import Mathlib.Data.List.Nodup
import Crosswalk.Proofs.Expansion.Reporting
import Crosswalk.Proofs.Expansion.Stopping
import Crosswalk.Proofs.Expansion.Targets

/-! Modes that are asked for. A list of modes chooses among the requests of a class by their modes, in the order
of the class, whatever its own order and repetitions; so the plans are those of all requests, filtered by
mode. A mode that is asked for and not requested is told once, and nothing else is told in its words. -/

namespace Crosswalk

/-! Names of modes -/

namespace Mode

theorem parse_word (m : Mode) : parse m.word = .ok m := by
  cases m <;> decide +kernel

/-- Every list of modes can be asked for. -/
theorem mapM_parse_word (ms : List Mode) : (ms.map word).mapM parse = .ok ms := by
  induction ms with
  | nil => rfl
  | cons m rest ih =>
    rw [List.map_cons, List.mapM_cons, parse_word, ih]
    rfl

end Mode

/-! What locators tell -/

/-- Where there is no answer for a reason that is told, it is told by a diagnostic with a property. -/
def TellsOnly {α : Type} (P : Diagnostic → Prop) (x : Except Failure α) : Prop :=
  ∀ d, x = .error (.reported d) → P d

section

variable {α β : Type} (P : Diagnostic → Prop)

theorem tellsOnly_ok (a : α) : TellsOnly P (.ok a : Except Failure α) := nofun

theorem tellsOnly_bind (x : Except Failure α) (f : α → Except Failure β) (hx : TellsOnly P x)
    (hf : ∀ a, TellsOnly P (f a)) : TellsOnly P (x >>= f) := by
  intro d h
  cases x with
  | error failure =>
    cases h
    exact hx d rfl
  | ok a => exact hf a d h

/-- What only stops a request tells nothing. -/
theorem tellsOnly_stopped {ε : Type} (fault : ε → Fault) (x : Except ε α) :
    TellsOnly P (x.mapError fun e => Failure.stopped (fault e)) := by
  intro d h
  cases x <;> cases h

end

theorem tellsOnly_load (host : Host) (path : Files.Path) (location : Location) (kind : ErrorKind) :
    TellsOnly (·.kind = kind) (SourceUnit.load host path location kind) := by
  refine tellsOnly_bind _ _ _ (tellsOnly_stopped _ id _) fun x d h => ?_
  cases x with
  | ok u => cases h
  | error problem =>
    cases h
    rfl

theorem tellsOnly_failure {α : Type} (p : ResolutionProblem) (location : Location) :
    TellsOnly (α := α) (·.kind = .pathResolution) (.error (p.failure location)) := by
  rintro d h
  cases h
  rfl

theorem tellsOnly_walk (w : Walk) (host : Host) (path : TargetPath) (location : Location) :
    TellsOnly (·.kind = .pathResolution) (w.resolve host path location) := by
  unfold Walk.resolve
  split
  · exact tellsOnly_failure _ location
  refine tellsOnly_bind _ _ _
    (tellsOnly_bind _ _ _ (tellsOnly_stopped _ Fault.path _) fun x => ?_) fun file => ?_
  · cases x with
    | ok file => exact tellsOnly_ok _ file
    | error problem => exact tellsOnly_failure problem location
  refine tellsOnly_bind _ _ _ (tellsOnly_load host file location .pathResolution) fun u => ?_
  refine tellsOnly_bind _ _ _ (tellsOnly_stopped _ Fault.text _) fun found => ?_
  cases found with
  | some schema => exact tellsOnly_ok _ schema
  | none => exact tellsOnly_failure _ location

namespace Registry

/-- All that is remembered of unread units is that a path was not found. -/
def RemembersPaths (r : Registry) : Prop :=
  ∀ key d, r.broken.get? key = some d → d.kind = .pathResolution

theorem kind_of_problemOf? (host : Host) (file : Files.Path) (d : Diagnostic)
    (h : problemOf? host file = some d) : d.kind = .pathResolution := by
  unfold problemOf? at h
  split at h
  · rename_i found hload
    cases h
    exact tellsOnly_load host file {} .pathResolution d hload
  · cases h

theorem remembersPaths_addFile (host : Host) (r : Registry) (module : String) (file : Files.Path)
    (h : r.RemembersPaths) : (addFile host r module file).1.RemembersPaths := by
  obtain ⟨-, -, -, hbroken, -⟩ := addFile_spec host r module file
  intro key d hget
  rw [hbroken key] at hget
  split at hget
  · rcases Option.or_eq_some_iff.mp hget with hnew | ⟨-, hold⟩
    · exact kind_of_problemOf? host file d hnew
    · exact h key d hold
  · exact h key d hget

/-- By induction on the units: each adds no more than its own problem. -/
theorem remembersPaths_addFiles (host : Host) (l : List (String × Files.Path)) (r : Registry)
    (h : r.RemembersPaths) : (addFiles host r l).1.RemembersPaths := by
  induction l generalizing r with
  | nil => exact h
  | cons e rest ih =>
    obtain ⟨module, file⟩ := e
    have hfirst := remembersPaths_addFile host r module file h
    unfold addFiles
    split
    · rename_i next hnext
      rw [hnext] at hfirst
      exact ih next hfirst
    · rename_i next fault hnext
      rw [hnext] at hfirst
      exact hfirst

theorem remembersPaths_ofSourceRoot (host : Host) (root : Files.Path) (marker : String)
    (r : Registry) (h : ofSourceRoot host root marker = .ok r) : r.RemembersPaths := by
  have hread : (ingest host root (empty marker)).1.RemembersPaths := by
    unfold ingest
    split
    · exact fun _ _ h => nomatch h
    · exact remembersPaths_addFiles host _ _ fun _ _ h => nomatch h
  unfold ofSourceRoot at h
  split at h
  · rename_i r' hr'
    cases h
    rw [hr'] at hread
    exact hread
  · cases h

theorem tellsOnly_resolve (r : Registry) (h : r.RemembersPaths) (path : TargetPath)
    (location : Location) : TellsOnly (·.kind = .pathResolution) (r.resolve path location) := by
  unfold resolve
  dsimp only
  split
  · exact tellsOnly_failure _ location
  split
  · rename_i found hfound
    intro d hd
    cases hd
    exact h _ found hfound
  split
  · exact tellsOnly_failure _ location
  split
  · exact tellsOnly_ok _ _
  · exact tellsOnly_failure _ location

end Registry

/-- All that is told of a path is that it was not found. -/
def Locator.TellsPaths (host : Host) (l : Locator) : Prop :=
  ∀ path location, TellsOnly (·.kind = .pathResolution) (l.resolve host path location)

theorem Locator.tellsPaths_ofSettings (host : Host) (s : Settings) (root : Files.Path)
    (l : Locator) (h : ofSettings host s root = .ok l) : l.TellsPaths host := by
  unfold ofSettings at h
  split at h
  · cases h
    exact tellsOnly_walk ⟨root, s.rootMarker⟩ host
  · obtain ⟨r, hr, rfl⟩ := exists_of_map_ok _ _ _ h
    exact r.tellsOnly_resolve (Registry.remembersPaths_ofSourceRoot host root s.rootMarker r hr)

/-! What tells that a mode is missing -/

/-- What is told of a mode that no decorator requests. -/
def Mode.demand (m : Mode) : String := m.title ++ " requires the '" ++ m.word ++ "' annotation."

theorem Mode.demand_injective (m n : Mode) (h : m.demand = n.demand) : m = n := by
  revert h
  cases m <;> cases n <;> decide +kernel

theorem Mode.head_demand (m : Mode) :
    m.demand.toList.head? = some 'I' ∨ m.demand.toList.head? = some 'M' := by
  cases m <;> decide +kernel

/-- What is told of a decorator is told in other words. -/
theorem Request.message_ne_demand (p : Problem) (m : Mode) : p.message ≠ m.demand := by
  intro h
  have hmessage := head_message p
  rw [h] at hmessage
  rcases m.head_demand with hdemand | hdemand <;>
    (rw [hdemand, Option.some_inj] at hmessage; split at hmessage <;> cases hmessage)

/-- Whether it is told that a mode needs a decorator. -/
def Diagnostic.demands (mode : Mode) (d : Diagnostic) : Bool :=
  d.kind = .configuration && d.message = mode.demand

theorem Diagnostic.demands_iff (mode : Mode) (d : Diagnostic) :
    d.demands mode = true ↔ d.kind = .configuration ∧ d.message = mode.demand := by
  simp [demands]

namespace Expansion

variable (resolve : TargetPath → Location → Except Failure Schema) (source : Schema)

/-! Plans -/

theorem mode_of_mem_plansAt (a : Request × TargetPath) (q : Plan)
    (h : q ∈ plansAt resolve source a) : q.mode = a.1.mode := by
  unfold plansAt at h
  split at h
  · obtain ⟨v, hv, rfl⟩ := (mem_planTarget source a _ q).mp h
    rw [planOf, Plan.mode_synthesize, Variant.mode_of_mem_ofMode v a.1.mode hv]
  · cases h

/-- The plans of all requests of a class. -/
def allPlans : List Plan :=
  source.requests.1.flatMap fun request => request.paths.flatMap fun path =>
    plansAt resolve source (request, path)

/-- The plans of the requests of some modes are the plans of these modes. -/
theorem plans_asked (wanted : List Mode) :
    (asked source wanted).flatMap (plansAt resolve source) =
      (allPlans resolve source).filter (·.mode ∈ wanted) := by
  rw [asked_flatMap, allPlans, List.filter_flatMap]
  refine List.flatMap_congr fun request _ => ?_
  rw [List.filter_flatMap]
  by_cases hmode : request.mode ∈ wanted
  · rw [if_pos hmode]
    refine List.flatMap_congr fun path _ => (List.filter_eq_self.mpr fun q hq => ?_).symm
    simpa [mode_of_mem_plansAt resolve source _ q hq] using hmode
  · rw [if_neg hmode]
    refine (List.flatMap_eq_nil_iff.mpr fun path _ => List.filter_eq_nil_iff.mpr fun q hq => ?_).symm
    simpa [mode_of_mem_plansAt resolve source _ q hq] using hmode

theorem plans_of_wanted (modes : Option (List String)) (wanted : List Mode)
    (hwanted : wantedModes modes source.requests.1 = .ok wanted) (e : Expansion)
    (h : ofRequests resolve source modes = .ok e) :
    e.plans = (allPlans resolve source).filter (·.mode ∈ wanted) := by
  rw [plans_eq_flatMap resolve source modes e h wanted hwanted, plans_asked]

/-- The modes of all requests. -/
def requestedModes (source : Schema) : List Mode := (source.requests.1.map (·.mode)).eraseDups

theorem mem_requestedModes (mode : Mode) :
    mode ∈ requestedModes source ↔ mode ∈ source.requests.1.map (·.mode) := by
  unfold requestedModes
  rw [List.mem_eraseDups]

theorem wantedModes_none : wantedModes none source.requests.1 = .ok (requestedModes source) := rfl

theorem mode_of_mem_allPlans (q : Plan) (hq : q ∈ allPlans resolve source) :
    q.mode ∈ requestedModes source := by
  obtain ⟨request, hrequest, hq⟩ := List.mem_flatMap.mp hq
  obtain ⟨path, -, hq⟩ := List.mem_flatMap.mp hq
  rw [mode_of_mem_plansAt resolve source _ q hq, mem_requestedModes]
  exact List.mem_map_of_mem hrequest

theorem plans_of_none (e : Expansion) (h : ofRequests resolve source none = .ok e) :
    e.plans = allPlans resolve source := by
  rw [plans_of_wanted resolve source none _ (wantedModes_none source) e h]
  exact List.filter_eq_self.mpr fun q hq => by simpa using mode_of_mem_allPlans resolve source q hq

/-- What does not stop all requests does not stop some of them. -/
theorem exists_of_none (names : List String) (wanted : List Mode)
    (hwanted : names.mapM Mode.parse = .ok wanted) (e : Expansion)
    (h : ofRequests resolve source none = .ok e) :
    ∃ e', ofRequests resolve source (some names) = .ok e' := by
  have hnone := faulty_ofRequests_iff resolve source none _ (wantedModes_none source)
  rw [← not_faulty_iff, faulty_ofRequests_iff resolve source (some names) wanted hwanted]
  rintro ⟨a, ha, hstopped⟩
  obtain ⟨hrequest, -, hpath⟩ := (mem_asked source wanted a).mp ha
  refine (not_faulty_iff _).mpr ⟨e, h⟩ (hnone.mpr ⟨a, ?_, hstopped⟩)
  refine (mem_asked source _ a).mpr ⟨hrequest, ?_, hpath⟩
  exact (mem_requestedModes source _).mpr (List.mem_map_of_mem hrequest)

/-- Lists of the same modes ask for the same paths. -/
theorem plans_of_same_modes (names names' : List String) (wanted wanted' : List Mode)
    (hwanted : names.mapM Mode.parse = .ok wanted) (hwanted' : names'.mapM Mode.parse = .ok wanted')
    (hsame : ∀ m, m ∈ wanted' ↔ m ∈ wanted) :
    (ofRequests resolve source (some names')).map (·.plans) =
      (ofRequests resolve source (some names)).map (·.plans) := by
  have hasked : asked source wanted' = asked source wanted := by
    unfold asked
    simp only [List.contains_eq_mem, hsame]
  rw [ofRequests_eq resolve source (some names) wanted hwanted,
    ofRequests_eq resolve source (some names') wanted' hwanted', hasked]
  cases (asked source wanted).mapM (planAsked resolve source) <;> rfl

/-! Missing modes -/

section

variable (modes : Option (List String)) (wanted : List Mode)
  (hwanted : wantedModes modes source.requests.1 = .ok wanted) (e : Expansion)
  (h : ofRequests resolve source modes = .ok e)
  (htells : ∀ path location, TellsOnly (·.kind = .pathResolution) (resolve path location))

include hwanted h htells

theorem mem_demands_iff (mode : Mode) (d : Diagnostic) :
    d ∈ e.diagnostics.toList ∧ d.demands mode = true ↔
      d = missingRequest source mode ∧ mode ∈ wanted ∧ mode ∉ source.requests.1.map (·.mode) := by
  have hmissing : ∀ d, d ∈ missingRequests source source.requests.1 wanted ↔
      ∃ m, (m ∈ wanted ∧ m ∉ source.requests.1.map (·.mode)) ∧ missingRequest source m = d := by
    simp [missingRequests]
  rw [mem_diagnostics resolve source modes e h wanted hwanted, d.demands_iff]
  constructor
  · rintro ⟨hproblem | hmember | ⟨a, -, hreported | ⟨target, -, v, -, hd⟩⟩, hkind, hmessage⟩
    · obtain ⟨p, location, rfl⟩ := Request.exists_problem _ _ d hproblem
      exact absurd hmessage (Request.message_ne_demand p mode)
    · obtain ⟨m, hm, rfl⟩ := (hmissing d).mp hmember
      have hsame : m = mode := m.demand_injective mode hmessage
      subst hsame
      exact ⟨rfl, hm⟩
    · rw [htells a.2 a.1.location d hreported] at hkind
      cases hkind
    · exact absurd hkind (Plan.kinds_of_problem source target v _ _ d hd).2
  · rintro ⟨rfl, hmode⟩
    exact ⟨.inr (.inl ((hmissing _).mpr ⟨mode, hmode, rfl⟩)), rfl, rfl⟩

/-- A mode that is asked for and not requested is told once. -/
theorem filter_demands (mode : Mode) :
    e.diagnostics.toList.filter (·.demands mode) =
      if mode ∈ wanted ∧ mode ∉ source.requests.1.map (·.mode) then [missingRequest source mode]
      else [] := by
  have hiff := mem_demands_iff resolve source modes wanted hwanted e h htells mode
  split
  · rename_i hmode
    apply List.perm_singleton.mp
    rw [List.perm_ext_iff_of_nodup (e.diagnostics.nodup.filter _) (List.nodup_singleton _)]
    intro d
    rw [List.mem_filter, hiff, List.mem_singleton]
    exact and_iff_left hmode
  · rename_i hmode
    rw [List.filter_eq_nil_iff]
    exact fun d hd hdemands => hmode ((hiff d).mp ⟨hd, hdemands⟩).2

end

/-! Whole expansions -/

theorem tellsPaths_of_chooseLocator (host : Host) (settings : Settings) (location : Location)
    (locator : Option Locator) (hgiven : ∀ given ∈ locator, given.TellsPaths host) (l : Locator)
    (h : chooseLocator host settings location locator = .ok l) : l.TellsPaths host := by
  cases locator with
  | some given =>
    cases h
    exact hgiven l rfl
  | none =>
    unfold chooseLocator at h
    obtain ⟨found, -, h⟩ := exists_of_bind_ok _ _ _ h
    cases found with
    | error problem => cases h
    | ok root =>
      dsimp only at h
      cases hsettings : Locator.ofSettings host settings root with
      | error fault =>
        rw [hsettings] at h
        cases h
      | ok l' =>
        rw [hsettings] at h
        cases h
        exact Locator.tellsPaths_ofSettings host settings root l hsettings

/-- A list of modes filters the plans of a class. Where all its requests can be planned, those of the modes can,
and their plans are the plans of all with these modes, in the same order; lists of the same modes have the
same plans, or stop alike. Each mode of the list that no decorator requests is told once, and no other mode is
told to be missing; without a list none is. -/
theorem modes_filter_plans (host : Host) (file shown className : String) (settings : Settings)
    (locator : Option Locator) (source : Schema) (l : Locator)
    (hsource : findSource host file shown className = .ok source)
    (hlocator : chooseLocator host settings source.location locator = .ok l) (names : List String)
    (wanted : List Mode) (hwanted : names.mapM Mode.parse = .ok wanted) :
    (∀ e, run host file shown className none settings locator = .ok e →
      ∃ e', run host file shown className (some names) settings locator = .ok e' ∧
        e'.plans = e.plans.filter (·.mode ∈ wanted)) ∧
    (∀ names' wanted', names'.mapM Mode.parse = .ok wanted' → (∀ m, m ∈ wanted' ↔ m ∈ wanted) →
      (run host file shown className (some names') settings locator).map (·.plans) =
        (run host file shown className (some names) settings locator).map (·.plans)) ∧
    ((∀ given ∈ locator, given.TellsPaths host) → ∀ mode,
      (∀ e, run host file shown className (some names) settings locator = .ok e →
        e.diagnostics.toList.filter (·.demands mode) =
          if mode ∈ wanted ∧ mode ∉ source.requests.1.map (·.mode) then
            [missingRequest source mode] else []) ∧
      ∀ e, run host file shown className none settings locator = .ok e →
        e.diagnostics.toList.filter (·.demands mode) = []) := by
  have hrun := fun modes =>
    run_eq_ofRequests host file shown className modes settings locator source l hsource hlocator
  simp only [hrun]
  refine ⟨fun e he => ?_, fun names' wanted' hwanted' hsame => ?_, fun hgiven mode => ⟨?_, ?_⟩⟩
  · obtain ⟨e', he'⟩ := exists_of_none _ source names wanted hwanted e he
    refine ⟨e', he', ?_⟩
    rw [plans_of_wanted _ source (some names) wanted hwanted e' he', plans_of_none _ source e he]
  · exact plans_of_same_modes _ source names names' wanted wanted' hwanted hwanted' hsame
  · intro e he
    have htells := tellsPaths_of_chooseLocator host settings _ locator hgiven l hlocator
    exact filter_demands _ source (some names) wanted hwanted e he htells mode
  · intro e he
    have htells := tellsPaths_of_chooseLocator host settings _ locator hgiven l hlocator
    rw [filter_demands _ source none _ (wantedModes_none source) e he htells mode, if_neg]
    rintro ⟨hrequested, hmissing⟩
    exact hmissing ((mem_requestedModes source mode).mp hrequested)

/-! A class that requests two modes -/

def counter : Files.Node :=
  .directory [("src", .directory [("s.py", .file (Files.bytesOf
    "@merge('crate.s.T')\n@into('crate.s.T')\nclass S:\n    x: int\nclass T:\n    x: int\n"))])]

def counterRun (modes : Option (List String)) : Except ExpandError Expansion :=
  run counter "src/s.py" "src/s.py" "S" modes benchSettings

/-- Of three plans that are requested two are updates, and a mode that is not requested is told. -/
theorem modes_filter_plans_counter :
    ∃ source e e', counterRun none = .ok e ∧
      counterRun (some ([Mode.merge, .mergeRef, .merge].map Mode.word)) = .ok e' ∧
      e.plans.map (·.mode) = [.merge, .merge, .into] ∧
      e'.plans = e.plans.filter (·.mode ∈ [Mode.merge, .mergeRef, .merge]) ∧
      e'.diagnostics.toList.filter (·.demands .mergeRef) = [missingRequest source .mergeRef] := by
  have hgood : ((counterRun none).toOption.any fun e =>
      !e.hasErrors && e.plans.map (·.mode) == [.merge, .merge, .into]) = true := by decide +kernel
  have hrequested : (findSource counter "src/s.py" "src/s.py" "S").toOption.map
      (fun source => source.requests.1.map (·.mode)) = some [.merge, .into] := by decide +kernel
  cases he : counterRun none with
  | error => simp [he, Except.toOption] at hgood
  | ok e =>
    rw [he, Except.toOption, Option.any_some, Bool.and_eq_true, Bool.not_eq_true', beq_iff_eq] at hgood
    obtain ⟨hnone, hmodes⟩ := hgood
    obtain ⟨source, l, hsource, hlocator⟩ :=
      found_of_not_hasErrors counter _ _ _ _ benchSettings none e he hnone
    obtain ⟨hplans, -, hdiagnostics⟩ := modes_filter_plans counter "src/s.py" "src/s.py" "S"
      benchSettings none source l hsource hlocator _ _
      (Mode.mapM_parse_word [.merge, .mergeRef, .merge])
    obtain ⟨e', he', hfilter⟩ := hplans e he
    have hmodesAsked : source.requests.1.map (·.mode) = [.merge, .into] := by
      rw [hsource] at hrequested
      exact Option.some_inj.mp hrequested
    have hmissing := (hdiagnostics (by simp) .mergeRef).1 e' he'
    rw [hmodesAsked, if_pos (by decide)] at hmissing
    exact ⟨source, e, e', rfl, he', hmodes, hfilter, hmissing⟩

end Expansion
end Crosswalk

import Crosswalk.Proofs.Expansion.Outcomes
import Crosswalk.Proofs.Pairing
import Crosswalk.Proofs.Plan.Synthesis
import Crosswalk.Proofs.Request

/-! The choice of resolver. Two ways to find targets that answer each path with one schema, or with a
diagnostic each, give the same plans; the diagnostics come at the same places as long as equal ones are
equal both ways. A walk and a registry are such ways, but for a path that stops the walk; their diagnostics
come at the same places unless two paths of one module are asked for at one place and only one of the two
ways has a file for it. -/

namespace Crosswalk.Expansion

/-! Two ways to find targets -/

/-- Answers that are one schema, or a diagnostic each. -/
def Matched (x y : Except Failure Schema) : Prop :=
  (∃ schema, x = .ok schema ∧ y = .ok schema) ∨
    ∃ d d', x = .error (.reported d) ∧ y = .error (.reported d')

section

variable (left right : TargetPath → Location → Except Failure Schema) (source : Schema)

/-- Diagnostics that are the same, for other reasons than a path that is not found, or that are the two
answers to a path. -/
def Corresponds (a : Request × TargetPath) (z : Diagnostic × Diagnostic) : Prop :=
  z.1 = z.2 ∧ z.1.kind ≠ .pathResolution ∨
    left a.2 a.1.location = .error (.reported z.1) ∧ right a.2 a.1.location = .error (.reported z.2)

theorem outcome_of_matched (a : Request × TargetPath)
    (h : Matched (left a.2 a.1.location) (right a.2 a.1.location)) :
    ∃ x y, ∃ pairs : List (Diagnostic × Diagnostic), planAsked left source a = .ok x ∧
      planAsked right source a = .ok y ∧ x.1 = y.1 ∧ x.2 = pairs.map (·.1) ∧ y.2 = pairs.map (·.2) ∧
      ∀ z ∈ pairs, Corresponds left right a z := by
  unfold planAsked planPath
  rcases h with ⟨schema, hx, hy⟩ | ⟨d, d', hx, hy⟩
  · rw [hx, hy]
    refine ⟨_, _, (planTarget source a.1 a.2 schema).2.map fun d => (d, d), rfl, rfl, rfl, ?_, ?_, ?_⟩
    · rw [List.map_map]
      exact (List.map_id _).symm
    · rw [List.map_map]
      exact (List.map_id _).symm
    · intro z hz
      obtain ⟨d, hd, rfl⟩ := List.mem_map.mp hz
      obtain ⟨p, hp, hproblem⟩ := (mem_problems_planTarget source a schema d).mp hd
      obtain ⟨v, -, rfl⟩ := (mem_planTarget source a schema p).mp hp
      exact .inl ⟨rfl, Plan.kind_of_problem source schema v _ _ d hproblem⟩
  · rw [hx, hy]
    refine ⟨_, _, [(d, d')], rfl, rfl, rfl, rfl, rfl, ?_⟩
    intro z hz
    rw [List.mem_singleton.mp hz]
    exact .inr ⟨hx, hy⟩

/-- Paths with matched answers give the same plans and corresponding diagnostics. -/
theorem outcomes_of_matched (l : List (Request × TargetPath))
    (h : ∀ a ∈ l, Matched (left a.2 a.1.location) (right a.2 a.1.location)) :
    ∃ xs ys, ∃ pairs : List (Diagnostic × Diagnostic), l.mapM (planAsked left source) = .ok xs ∧
      l.mapM (planAsked right source) = .ok ys ∧ xs.flatMap (·.1) = ys.flatMap (·.1) ∧
      xs.flatMap (·.2) = pairs.map (·.1) ∧ ys.flatMap (·.2) = pairs.map (·.2) ∧
      ∀ z ∈ pairs, ∃ a ∈ l, Corresponds left right a z := by
  induction l with
  | nil => exact ⟨[], [], [], List.mapM_nil, List.mapM_nil, rfl, rfl, rfl, fun z hz => nomatch hz⟩
  | cons a rest ih =>
    obtain ⟨x, y, firsts, hx, hy, hplan, hleft, hright, hfirsts⟩ :=
      outcome_of_matched left right source a (h a List.mem_cons_self)
    obtain ⟨xs, ys, pairs, hxs, hys, hplans, hlefts, hrights, hpairs⟩ :=
      ih fun b hb => h b (List.mem_cons_of_mem a hb)
    refine ⟨x :: xs, y :: ys, firsts ++ pairs, ?_, ?_, ?_, ?_, ?_, ?_⟩
    · rw [List.mapM_cons, hx, hxs]
      rfl
    · rw [List.mapM_cons, hy, hys]
      rfl
    · rw [List.flatMap_cons, List.flatMap_cons, hplan, hplans]
    · rw [List.flatMap_cons, List.map_append, hleft, hlefts]
    · rw [List.flatMap_cons, List.map_append, hright, hrights]
    · intro z hz
      rcases List.mem_append.mp hz with hz | hz
      · exact ⟨a, List.mem_cons_self, hfirsts z hz⟩
      · obtain ⟨b, hb, hcorresponds⟩ := hpairs z hz
        exact ⟨b, List.mem_cons_of_mem a hb, hcorresponds⟩

/-- The kinds and places of the diagnostics of an expansion. -/
def places (e : Expansion) : List (ErrorKind × Location) :=
  e.diagnostics.toList.map fun d => (d.kind, d.location)

/-- Two ways to find targets that answer every path alike give the same plans. -/
theorem expansions_of_matched (modes : Option (List String)) (wanted : List Mode)
    (hwanted : wantedModes modes source.requests.1 = .ok wanted)
    (h : ∀ a ∈ asked source wanted, Matched (left a.2 a.1.location) (right a.2 a.1.location)) :
    ∃ e e', ∃ pairs : List (Diagnostic × Diagnostic), ofRequests left source modes = .ok e ∧
      ofRequests right source modes = .ok e' ∧ e.source = e'.source ∧ e.plans = e'.plans ∧
      e.diagnostics = Diagnostics.ofList (pairs.map (·.1)) ∧
      e'.diagnostics = Diagnostics.ofList (pairs.map (·.2)) ∧
      ∀ z ∈ pairs, z.1 = z.2 ∧ z.1.kind ≠ .pathResolution ∨
        ∃ a ∈ asked source wanted, left a.2 a.1.location = .error (.reported z.1) ∧
          right a.2 a.1.location = .error (.reported z.2) := by
  obtain ⟨xs, ys, pairs, hxs, hys, hplans, hlefts, hrights, hpairs⟩ :=
    outcomes_of_matched left right source (asked source wanted) h
  let own := source.requests.2 ++ missingRequests source source.requests.1 wanted
  have hown : ∀ d ∈ own, d.kind ≠ .pathResolution := by
    intro d hd hkind
    rcases List.mem_append.mp hd with hd | hd
    · rw [Request.kind_of_problem source.file source.decorators d hd] at hkind
      cases hkind
    · obtain ⟨mode, -, rfl⟩ := List.mem_map.mp hd
      cases hkind
  have hfirsts : (own.map fun d => (d, d)).map (·.1) = own := by
    rw [List.map_map]
    exact List.map_id _
  have hseconds : (own.map fun d => (d, d)).map (·.2) = own := by
    rw [List.map_map]
    exact List.map_id _
  rw [ofRequests_eq left source modes wanted hwanted, ofRequests_eq right source modes wanted hwanted,
    hxs, hys]
  refine ⟨_, _, own.map (fun d => (d, d)) ++ pairs, rfl, rfl, rfl, hplans, ?_, ?_, ?_⟩
  · rw [List.map_append, hfirsts, ← hlefts]
  · rw [List.map_append, hseconds, ← hrights]
  · intro z hz
    rcases List.mem_append.mp hz with hz | hz
    · obtain ⟨d, hd, rfl⟩ := List.mem_map.mp hz
      exact .inl ⟨rfl, hown d hd⟩
    · obtain ⟨a, ha, hcorresponds⟩ := hpairs z hz
      exact hcorresponds.imp id fun hanswers => ⟨a, ha, hanswers⟩

/-- A way that stops at some path, and nowhere for another reason, stops the expansion. -/
theorem stopped_of_mem (l : List (Request × TargetPath)) (fault : Fault)
    (hall : ∀ a ∈ l, left a.2 a.1.location = .error (.stopped fault) ∨
      ∃ outcome, planAsked left source a = .ok outcome)
    (hsome : ∃ a ∈ l, left a.2 a.1.location = .error (.stopped fault)) :
    l.mapM (planAsked left source) = .error fault := by
  have hstops : ∀ a, left a.2 a.1.location = .error (.stopped fault) →
      planAsked left source a = .error fault := by
    intro a ha
    unfold planAsked planPath
    rw [ha]
  induction l with
  | nil =>
    obtain ⟨a, ha, -⟩ := hsome
    cases ha
  | cons a rest ih =>
    rw [List.mapM_cons]
    rcases hall a List.mem_cons_self with hstop | ⟨outcome, houtcome⟩
    · rw [hstops a hstop]
      rfl
    · have hrest : ∃ b ∈ rest, left b.2 b.1.location = .error (.stopped fault) := by
        obtain ⟨b, hb, hstop⟩ := hsome
        rcases List.mem_cons.mp hb with rfl | hb
        · rw [hstops b hstop] at houtcome
          cases houtcome
        · exact ⟨b, hb, hstop⟩
      rw [houtcome, ih (fun b hb => hall b (List.mem_cons_of_mem a hb)) hrest]
      rfl

end

/-! A walk and a registry -/

section

variable (host : Host) (root : Files.Path) (marker : String) (r : Registry) (source : Schema)
  (wanted : List Mode) (hhost : host.root.Distinct) (hroot : Files.isDirectory? host root = .ok true)
  (hr : Registry.ofSourceRoot host root marker = .ok r)
  (hlast : ∀ a ∈ asked source wanted, a.2.modules.getLast? ≠ some "__init__")

/-- Two paths of one module are asked for at one place, and only one of the two ways has a file for it. -/
def Clash : Prop :=
  ∃ a ∈ asked source wanted, ∃ b ∈ asked source wanted, a.1.location = b.1.location ∧ a.2 ≠ b.2 ∧
    a.2.modulePath = b.2.modulePath ∧ Lopsided host root marker r a.2

theorem matched_of_paired (path : TargetPath) (location : Location) (x y : Except Failure Schema)
    (h : Paired host root marker r path location x y) : Matched x y := by
  cases h with
  | found schema => exact .inl ⟨schema, rfl, rfl⟩
  | failed m m' => exact .inr ⟨_, _, rfl, rfl⟩

/-- A registry reports what it has no schema for. -/
theorem matched_registry (path : TargetPath) (location : Location) :
    Matched (r.resolve path location) (r.resolve path location) := by
  have hreported : ∀ d, Matched (.error (.reported d)) (.error (.reported d)) :=
    fun d => .inr ⟨d, d, rfl, rfl⟩
  unfold Registry.resolve
  dsimp only
  split
  · exact hreported _
  split
  · exact hreported _
  split
  · exact hreported _
  split
  · rename_i schema _
    exact .inl ⟨schema, rfl, rfl⟩
  · exact hreported _

theorem isDirectory?_of_sourceRoot (settings : Settings)
    (h : sourceRoot host settings = .ok (.ok root)) : Files.isDirectory? host root = .ok true := by
  unfold sourceRoot at h
  split at h
  · cases h
  · obtain ⟨found, -, h⟩ := exists_of_bind_ok _ _ _ h
    split at h
    · obtain ⟨isDir, hdir, h⟩ := exists_of_bind_ok _ _ _ h
      split at h
      · rename_i htrue
        cases h
        rw [hdir, htrue]
      · cases h
    · cases h

/-- Diagnostics of two paths are equal both ways or neither, if there is no clash. -/
theorem same_of_paired (hclash : ¬ Clash host root marker r source wanted)
    (a b : Request × TargetPath) (ha : a ∈ asked source wanted) (hb : b ∈ asked source wanted)
    (hlasta : a.2.modules.getLast? ≠ some "__init__") (hlastb : b.2.modules.getLast? ≠ some "__init__")
    (x y u v : Except Failure Schema)
    (hpaireda : Paired host root marker r a.2 a.1.location x y)
    (hpairedb : Paired host root marker r b.2 b.1.location u v) (d d' e e' : Diagnostic)
    (hx : x = .error (.reported d)) (hy : y = .error (.reported d')) (hu : u = .error (.reported e))
    (hv : v = .error (.reported e'))
    (hne : a.1.location = b.1.location → a.2 ≠ b.2) : d = e ↔ d' = e' := by
  obtain ⟨m, m', rfl, rfl, hm, hm'⟩ :=
    tells_of_paired host root marker r a.2 a.1.location x y hpaireda d d' hx hy
  obtain ⟨n, n', rfl, rfl, hn, hn'⟩ :=
    tells_of_paired host root marker r b.2 b.1.location u v hpairedb e e' hu hv
  simp only [Diagnostic.mk.injEq, true_and]
  by_cases hplace : a.1.location = b.1.location
  · have hunclashed : a.2.modulePath = b.2.modulePath →
        ¬ Lopsided host root marker r a.2 ∧ ¬ Lopsided host root marker r b.2 := fun hmodule =>
      ⟨fun h => hclash ⟨a, ha, b, hb, hplace, hne hplace, hmodule, h⟩,
        fun h => hclash ⟨b, hb, a, ha, hplace.symm, (hne hplace).symm, hmodule.symm, h⟩⟩
    simp only [hplace, and_true]
    constructor
    · rintro rfl
      exact eq_of_tells host root marker r a.2 b.2 m m' n' hlasta hlastb (hne hplace) hunclashed hm hn
    · rintro rfl
      exact eq_of_tells host root marker r a.2 b.2 m' m n hlasta hlastb (hne hplace) hunclashed hm' hn'
  · simp [hplace]

include hhost hroot hr hlast

/-- Without a path that stops the walk, a walk and a registry give the same plans, with diagnostics of the
same kinds at the same places; their order is the same too, unless paths clash. -/
theorem expansions_alike (modes : Option (List String))
    (hwanted : wantedModes modes source.requests.1 = .ok wanted)
    (hgoes : ∀ a ∈ asked source wanted, ¬ Stops host root marker a.2) :
    ∃ e e', ofRequests (fun path location => Walk.resolve ⟨root, marker⟩ host path location) source
        modes = .ok e ∧
      ofRequests (fun path location => r.resolve path location) source modes = .ok e' ∧
      e.source = e'.source ∧ e.plans = e'.plans ∧ (∀ place, place ∈ e.places ↔ place ∈ e'.places) ∧
      (¬ Clash host root marker r source wanted → e.places = e'.places) := by
  have hpaired : ∀ a ∈ asked source wanted, Paired host root marker r a.2 a.1.location
      (Walk.resolve ⟨root, marker⟩ host a.2 a.1.location) (r.resolve a.2 a.1.location) :=
    fun a ha => paired_resolve host root marker r a.2 a.1.location hhost hroot hr (hlast a ha) (hgoes a ha)
  obtain ⟨e, e', pairs, he, he', hsource, hplans, hlefts, hrights, hpairs⟩ :=
    expansions_of_matched (fun path location => Walk.resolve ⟨root, marker⟩ host path location)
      (fun path location => r.resolve path location) source modes wanted hwanted fun a ha =>
        matched_of_paired host root marker r a.2 a.1.location _ _ (hpaired a ha)
  have hplace : ∀ z ∈ pairs, (z.1.kind, z.1.location) = (z.2.kind, z.2.location) := by
    intro z hz
    rcases hpairs z hz with ⟨heq, -⟩ | ⟨a, ha, hx, hy⟩
    · rw [heq]
    · obtain ⟨m, m', hz, hz', -, -⟩ :=
        tells_of_paired host root marker r a.2 a.1.location _ _ (hpaired a ha) z.1 z.2 hx hy
      rw [hz, hz']
  refine ⟨e, e', he, he', hsource, hplans, ?_, ?_⟩
  · intro place
    unfold places
    rw [hlefts, hrights]
    simp only [List.mem_map, Diagnostics.mem_ofList]
    constructor
    · rintro ⟨d, ⟨z, hz, rfl⟩, rfl⟩
      exact ⟨z.2, ⟨z, hz, rfl⟩, (hplace z hz).symm⟩
    · rintro ⟨d, ⟨z, hz, rfl⟩, rfl⟩
      exact ⟨z.1, ⟨z, hz, rfl⟩, hplace z hz⟩
  · intro hclash
    unfold places
    rw [hlefts, hrights]
    refine Diagnostics.map_ofList_eq _ pairs hplace fun z hz z' hz' => ?_
    -- Reports of paths differ in kind from all others.
    have hkind : ∀ z ∈ pairs, ∀ a ∈ asked source wanted,
        Walk.resolve ⟨root, marker⟩ host a.2 a.1.location = .error (.reported z.1) →
        r.resolve a.2 a.1.location = .error (.reported z.2) →
        z.1.kind = .pathResolution ∧ z.2.kind = .pathResolution := by
      intro z hz a ha hx hy
      obtain ⟨m, m', hm, hm', -, -⟩ :=
        tells_of_paired host root marker r a.2 a.1.location _ _ (hpaired a ha) z.1 z.2 hx hy
      rw [hm, hm']
      exact ⟨rfl, rfl⟩
    rcases hpairs z hz with ⟨heq, hother⟩ | ⟨a, ha, hx, hy⟩ <;>
      rcases hpairs z' hz' with ⟨heq', hother'⟩ | ⟨b, hb, hu, hv⟩
    · rw [heq, heq']
    · obtain ⟨hleft, hright⟩ := hkind z' hz' b hb hu hv
      refine iff_of_false (fun h => hother ?_) fun h => hother ?_
      · rw [h, hleft]
      · rw [heq, h, hright]
    · obtain ⟨hleft, hright⟩ := hkind z hz a ha hx hy
      refine iff_of_false (fun h => hother' ?_) fun h => hother' ?_
      · rw [← h, hleft]
      · rw [heq', ← h, hright]
    · by_cases hsame : a.1.location = b.1.location ∧ a.2 = b.2
      · rw [hsame.1, hsame.2] at hx hy
        exact iff_of_true (by simpa using hx.symm.trans hu) (by simpa using hy.symm.trans hv)
      · exact same_of_paired host root marker r source wanted hclash a b ha hb (hlast a ha) (hlast b hb)
          _ _ _ _ (hpaired a ha) (hpaired b hb) z.1 z.2 z'.1 z'.2 hx hy hu hv
          fun hplace hpath => hsame ⟨hplace, hpath⟩

/-- A registry always has an answer, so it does not matter to it what stops the walk. -/
theorem expansion_stopped (modes : Option (List String))
    (hwanted : wantedModes modes source.requests.1 = .ok wanted)
    (hstops : ∃ a ∈ asked source wanted, Stops host root marker a.2) :
    ofRequests (fun path location => Walk.resolve ⟨root, marker⟩ host path location) source modes =
        .error (.stopped (.path .nameTooLong)) ∧
      ∃ e, ofRequests (fun path location => r.resolve path location) source modes = .ok e := by
  have hstopped : ∀ a ∈ asked source wanted, Stops host root marker a.2 →
      Walk.resolve ⟨root, marker⟩ host a.2 a.1.location = .error (.stopped (.path .nameTooLong)) := by
    intro a ha hstop
    exact resolve_of_stops host root marker r a.2 a.1.location hhost hroot hr (hlast a ha) hstop
  have hwalk : (asked source wanted).mapM
      (planAsked (fun path location => Walk.resolve ⟨root, marker⟩ host path location) source) =
        .error (.path .nameTooLong) := by
    refine stopped_of_mem _ source (asked source wanted) _ (fun a ha => ?_) ?_
    · by_cases hstop : Stops host root marker a.2
      · exact .inl (hstopped a ha hstop)
      · have hpaired := paired_resolve host root marker r a.2 a.1.location hhost hroot hr (hlast a ha) hstop
        obtain ⟨x, -, -, hx, -⟩ := outcome_of_matched
          (fun path location => Walk.resolve ⟨root, marker⟩ host path location)
          (fun path location => r.resolve path location) source a
          (matched_of_paired host root marker r a.2 a.1.location _ _ hpaired)
        exact .inr ⟨x, hx⟩
    · obtain ⟨a, ha, hstop⟩ := hstops
      exact ⟨a, ha, hstopped a ha hstop⟩
  constructor
  · rw [ofRequests_eq _ source modes wanted hwanted, hwalk]
  · obtain ⟨e, -, -, he, -⟩ := expansions_of_matched (fun path location => r.resolve path location)
      (fun path location => r.resolve path location) source modes wanted hwanted
      fun a _ => matched_registry r a.2 a.1.location
    exact ⟨e, he⟩

end

theorem locators_ofSettings (host : Host) (settings : Settings) (root : Files.Path) (r : Registry)
    (location : Location) (hroot : sourceRoot host settings = .ok (.ok root))
    (hr : Registry.ofSourceRoot host root settings.rootMarker = .ok r) :
    chooseLocator host { settings with resolver := .fileSystem } location none =
        .ok (.walk ⟨root, settings.rootMarker⟩) ∧
      chooseLocator host { settings with resolver := .registry } location none = .ok (.registry r) := by
  have hsame : ∀ resolver, sourceRoot host { settings with resolver } = .ok (.ok root) :=
    fun _ => hroot
  have hregistry : Locator.ofSettings host { settings with resolver := .registry } root =
      .ok (.registry r) := by
    dsimp only [Locator.ofSettings]
    rw [hr]
    rfl
  unfold chooseLocator
  rw [hsame .fileSystem, hsame .registry]
  refine ⟨rfl, ?_⟩
  change (Locator.ofSettings host _ root).mapError Failure.stopped = _
  rw [hregistry]
  rfl

/-! A directory without an entry file -/

/-- Two classes, one of which asks for two classes of a directory that has no entry file. -/
def aisle : Files.Node :=
  .directory [("src", .directory [("s.py", .file (Files.bytesOf
    ("@merge(['crate.pkg.A', 'crate.pkg.B'])\nclass S:\n    x: int\n" ++
      "@merge('crate.pkg.A')\nclass U:\n    x: int\n"))),
    ("pkg", .emptyDirectory)])]

def aisleSettings (resolver : Resolver) : Settings := { rootDir := some ⟨"", []⟩, resolver }

def aisleRun (className : String) (resolver : Resolver) : Except ExpandError Expansion :=
  run aisle "src/s.py" "src/s.py" className none (aisleSettings resolver)

def aislePath : TargetPath := ⟨["crate", "pkg", "A"], by decide, by decide⟩

theorem distinct_aisle : aisle.Distinct := by
  simp [aisle, Files.Node.Distinct, Files.Node.EntriesDistinct, Files.Node.emptyDirectory]

theorem not_stops_aisle (path : TargetPath) (h : path.modules = ["pkg"]) :
    ¬ Stops aisle shelfRoot "crate" path := by
  rintro ⟨-, before, segment, after, hleaves, -⟩
  exact absurd (by rw [h]; decide) (Walk.not_isDirectory?_of_leaves aisle shelfRoot path.modules
    path.allSegments_modules before segment after hleaves)

/-- The choice of resolver, for a source and a tree that is read to its end. A path whose file would have
too long a name stops the expansion by a walk. Else the plans are the same, and the diagnostics are of the
same kinds at the same places, in the same order unless paths clash. The tree is a plain one, without links
and permissions. -/
theorem resolvers_alike (host : Host) (file shown className : String)
    (modes : Option (List String)) (settings : Settings) (source : Schema) (root : Files.Path)
    (r : Registry) (hhost : host.root.Distinct)
    (hsource : findSource host file shown className = .ok source)
    (hroot : sourceRoot host settings = .ok (.ok root))
    (hr : Registry.ofSourceRoot host root settings.rootMarker = .ok r)
    (hlast : ∀ request ∈ source.requests.1, ∀ path ∈ request.paths,
      path.modules.getLast? ≠ some "__init__") :
    (∀ reason, wantedModes modes source.requests.1 = .error reason → ∀ resolver,
      run host file shown className modes { settings with resolver } = .error (.unknownMode reason)) ∧
    ∀ wanted, wantedModes modes source.requests.1 = .ok wanted →
      ((∃ a ∈ asked source wanted, Stops host root settings.rootMarker a.2) →
        run host file shown className modes { settings with resolver := .fileSystem } =
            .error (.stopped (.path .nameTooLong)) ∧
          ∃ e, run host file shown className modes { settings with resolver := .registry } = .ok e) ∧
      ((∀ a ∈ asked source wanted, ¬ Stops host root settings.rootMarker a.2) →
        ∃ e e',
          run host file shown className modes { settings with resolver := .fileSystem } = .ok e ∧
          run host file shown className modes { settings with resolver := .registry } = .ok e' ∧
          e.source = e'.source ∧ e.plans = e'.plans ∧
          (∀ place, place ∈ e.places ↔ place ∈ e'.places) ∧
          (¬ Clash host root settings.rootMarker r source wanted → e.places = e'.places)) := by
  obtain ⟨hwalk, hregistry⟩ := locators_ofSettings host settings root r source.location hroot hr
  have hisroot := isDirectory?_of_sourceRoot host root settings hroot
  have hrunWalk := run_eq_ofRequests host file shown className modes
    { settings with resolver := .fileSystem } none source _ hsource hwalk
  have hrunRegistry := run_eq_ofRequests host file shown className modes
    { settings with resolver := .registry } none source _ hsource hregistry
  have hnames : ∀ wanted, ∀ a ∈ asked source wanted, a.2.modules.getLast? ≠ some "__init__" := by
    intro wanted a ha
    obtain ⟨hrequest, -, hpath⟩ := (mem_asked source wanted a).mp ha
    exact hlast a.1 hrequest a.2 hpath
  constructor
  · intro reason hreason resolver
    have hunknown : ∀ resolve, ofRequests resolve source modes = .error (.unknownMode reason) := by
      intro resolve
      unfold ofRequests
      dsimp only
      rw [hreason]
    cases resolver with
    | fileSystem => rw [hrunWalk, hunknown]
    | registry => rw [hrunRegistry, hunknown]
  · intro wanted hwanted
    rw [hrunWalk, hrunRegistry]
    exact ⟨expansion_stopped host root settings.rootMarker r source wanted hhost hisroot hr (hnames wanted)
        modes hwanted,
      expansions_alike host root settings.rootMarker r source wanted hhost hisroot hr (hnames wanted) modes
        hwanted⟩

/-- All paths that a class of the aisle asks for. -/
theorem exists_source_aisle (className : String) (good : TargetPath → Bool)
    (h : (match findSource aisle "src/s.py" "src/s.py" className with
      | .ok source => source.requests.1.all fun request => request.paths.all good
      | .error _ => false) = true) :
    ∃ source, findSource aisle "src/s.py" "src/s.py" className = .ok source ∧
      ∀ request ∈ source.requests.1, ∀ path ∈ request.paths, good path = true := by
  split at h
  · rename_i source hfound
    simp only [List.all_eq_true] at h
    exact ⟨source, hfound, h⟩
  · cases h

/-- The two ways number the diagnostics of the first class differently, and agree on the second. -/
theorem resolvers_alike_aisle :
    (∃ e e', aisleRun "S" .fileSystem = .ok e ∧ aisleRun "S" .registry = .ok e' ∧
      e.plans = e'.plans ∧ (∀ place, place ∈ e.places ↔ place ∈ e'.places) ∧
      e.places.length = 1 ∧ e'.places.length = 2) ∧
    ∃ e e', aisleRun "U" .fileSystem = .ok e ∧ aisleRun "U" .registry = .ok e' ∧
      e.plans = e'.plans ∧ e.places = e'.places := by
  obtain ⟨r, hr⟩ : ∃ r, Registry.ofSourceRoot aisle shelfRoot "crate" = .ok r :=
    exists_of_isOk _ (by decide +kernel)
  have hroot : sourceRoot aisle (aisleSettings .registry) = .ok (.ok shelfRoot) := by decide +kernel
  have halike : ∀ className source, findSource aisle "src/s.py" "src/s.py" className = .ok source →
      (∀ request ∈ source.requests.1, ∀ path ∈ request.paths, path.modules = ["pkg"]) →
      ∃ wanted e e', aisleRun className .fileSystem = .ok e ∧ aisleRun className .registry = .ok e' ∧
        e.plans = e'.plans ∧ (∀ place, place ∈ e.places ↔ place ∈ e'.places) ∧
        (¬ Clash aisle shelfRoot "crate" r source wanted → e.places = e'.places) := by
    intro className source hfound hmodules
    obtain ⟨-, hwanted⟩ := resolvers_alike aisle "src/s.py" "src/s.py" className none
      (aisleSettings .registry) source shelfRoot r distinct_aisle hfound hroot hr
      fun request hrequest path hpath => by
        rw [hmodules request hrequest path hpath]
        decide
    obtain ⟨e, e', he, he', -, hplans, hplaces, hsame⟩ := (hwanted _ rfl).2 fun a ha =>
      not_stops_aisle a.2 (hmodules a.1 ((mem_asked source _ a).mp ha).1 a.2
        ((mem_asked source _ a).mp ha).2.2)
    exact ⟨_, e, e', he, he', hplans, hplaces, hsame⟩
  have hlength : ∀ className resolver n e, (match aisleRun className resolver with
      | .ok e => e.places.length == n
      | .error _ => false) = true → aisleRun className resolver = .ok e → e.places.length = n := by
    intro className resolver n e h he
    rw [he] at h
    exact beq_iff_eq.mp h
  constructor
  · obtain ⟨source, hfound, hgood⟩ :=
      exists_source_aisle "S" (fun path => path.modules == ["pkg"]) (by decide +kernel)
    obtain ⟨wanted, e, e', he, he', hplans, hplaces, -⟩ := halike "S" source hfound
      fun request hrequest path hpath => beq_iff_eq.mp (hgood request hrequest path hpath)
    exact ⟨e, e', he, he', hplans, hplaces, hlength "S" .fileSystem 1 e (by decide +kernel) he,
      hlength "S" .registry 2 e' (by decide +kernel) he'⟩
  · obtain ⟨source, hfound, hgood⟩ :=
      exists_source_aisle "U" (fun path => decide (path = aislePath)) (by decide +kernel)
    have hpaths : ∀ request ∈ source.requests.1, ∀ path ∈ request.paths, path = aislePath :=
      fun request hrequest path hpath => of_decide_eq_true (hgood request hrequest path hpath)
    obtain ⟨wanted, e, e', he, he', hplans, -, hsame⟩ := halike "U" source hfound
      fun request hrequest path hpath => by
        rw [hpaths request hrequest path hpath]
        rfl
    refine ⟨e, e', he, he', hplans, hsame ?_⟩
    rintro ⟨a, ha, b, hb, -, hne, -⟩
    obtain ⟨hrequest, -, hpath⟩ := (mem_asked source wanted a).mp ha
    obtain ⟨hrequest', -, hpath'⟩ := (mem_asked source wanted b).mp hb
    exact hne ((hpaths _ hrequest _ hpath).trans (hpaths _ hrequest' _ hpath').symm)

end Crosswalk.Expansion

import Crosswalk.Proofs.Telling

/-! The answers of a walk and of a registry, as a pair. They are the same, or both end in the path, or the
one that found a file for the module tells the module and the other the path. So texts that are equal on
one side are equal on the other, unless two paths of one module are asked for that only one side has a file
for. -/

namespace Crosswalk

open Registry (under fileOf fileNames)

def told (message : String) (location : Location) : Except Failure Schema :=
  .error (.reported ⟨.pathResolution, message, location⟩)

section

variable (host : Host) (root : Files.Path) (marker : String) (r : Registry)

/-- A walk has a file for the module of a path and the registry has none, or the other way round. -/
def Lopsided (path : TargetPath) : Prop :=
  path.root = marker ∧
    ((∃ file, Walk.locate ⟨root, marker⟩ host path = .ok file) ↔
      r.units.get? path.modulePath = none)

/-- What one of two texts tells of a path, and how the other may differ from it. -/
inductive Tells (path : TargetPath) (m m' : String) : Prop
  | other (c : FailureClass) (hc : c ≠ .unopened) (hm : c.Opens m) (h : m' = m)
  | unit (hpath : path.root = marker) (hm : TellsUnit root m path.modules)
      (h : m' = m ∨ Lopsided host root marker r path)
  | path (hm : TellsPath m path)

/-- The answers of a walk and of a registry to one path. -/
inductive Paired (path : TargetPath) (location : Location) :
    Except Failure Schema → Except Failure Schema → Prop
  | found (schema : Schema) : Paired path location (.ok schema) (.ok schema)
  | failed (m m' : String) (h : Tells host root marker r path m m')
      (h' : Tells host root marker r path m' m) :
    Paired path location (told m location) (told m' location)

/-- Diagnostics of paired answers stand where the path was asked for. -/
theorem tells_of_paired (path : TargetPath) (location : Location) (x y : Except Failure Schema)
    (h : Paired host root marker r path location x y) (d d' : Diagnostic)
    (hx : x = .error (.reported d)) (hy : y = .error (.reported d')) :
    ∃ m m', d = ⟨.pathResolution, m, location⟩ ∧ d' = ⟨.pathResolution, m', location⟩ ∧
      Tells host root marker r path m m' ∧ Tells host root marker r path m' m := by
  cases h with
  | found schema => cases hx
  | failed m m' h h' =>
    cases hx
    cases hy
    exact ⟨m, m', rfl, rfl, h, h'⟩

theorem paired_other (path : TargetPath) (location : Location) (c : FailureClass) (m : String)
    (hc : c ≠ .unopened) (hm : c.Opens m) :
    Paired host root marker r path location (told m location) (told m location) :=
  .failed m m (.other c hc hm rfl) (.other c hc hm rfl)

/-- Equal texts on one side are equal on the other. -/
theorem eq_of_tells (p q : TargetPath) (m m' n' : String)
    (hplast : p.modules.getLast? ≠ some "__init__") (hqlast : q.modules.getLast? ≠ some "__init__")
    (hne : p ≠ q)
    (hclash : p.modulePath = q.modulePath →
      ¬ Lopsided host root marker r p ∧ ¬ Lopsided host root marker r q)
    (hp : Tells host root marker r p m m') (hq : Tells host root marker r q m n') : m' = n' := by
  cases hp with
  | other c hc hm h =>
    cases hq with
    | other c' hc' hm' h' => rw [h, h']
    | unit hpath hm' => exact absurd (class_of_opens _ _ m hm (opens_of_tellsUnit root m _ hm')) hc
    | path hm' => exact absurd (class_of_opens _ _ m hm hm'.1) hc
  | unit hproot hm h =>
    cases hq with
    | other c' hc' hm' => exact absurd (class_of_opens _ _ m hm' (opens_of_tellsUnit root m _ hm)) hc'
    | unit hqroot hm' h' =>
      have hmodules := modules_of_tellsUnit root m _ _ p.allSegments_modules q.allSegments_modules
        hplast hqlast hm hm'
      have hpaths : p.modulePath = q.modulePath := by
        rw [p.modulePath_eq, q.modulePath_eq, hproot, hqroot, hmodules]
      obtain ⟨hleft, hright⟩ := hclash hpaths
      rw [h.resolve_right hleft, h'.resolve_right hright]
    | path hm' => exact absurd hm (not_tellsUnit_of_tellsPath root m q _ hm')
  | path hm =>
    cases hq with
    | other c' hc' hm' => exact absurd (class_of_opens _ _ m hm' hm.1) hc'
    | unit hqroot hm' => exact absurd hm' (not_tellsUnit_of_tellsPath root m p _ hm)
    | path hm' => exact absurd (path_of_tellsPath m p q hm hm') hne

end

/-! Answers of one tree -/

theorem tellsUnit_unopened (root : Files.Path) (modules names : List String)
    (hnames : UnitNames modules names) (reason : Files.FileError) :
    TellsUnit root ((UnitProblem.unopened reason).message (under root names)) modules :=
  ⟨reason, names, hnames, rfl⟩

theorem exists_unitNames (host : Host) (root : Files.Path) (modules : List String)
    (l : List (List String)) (file : Files.Path) (h : fileOf host root modules l = some file) :
    ∃ names, UnitNames modules names ∧ file = under root names := by
  unfold fileOf at h
  split at h
  · exact ⟨_, .inl rfl, (Option.some.inj h).symm⟩
  split at h
  · exact ⟨_, .inr rfl, (Option.some.inj h).symm⟩
  · cases h

section

variable (host : Host) (root : Files.Path) (r : Registry) (path : TargetPath)
  (location : Location)

/-- Answers from one file are the same. -/
theorem paired_answers (names : List String) (hnames : UnitNames path.modules names)
    (hnull : Files.hasNull (under root names) = false)
    (hreadable : Registry.Readable host (under root names)) :
    Paired host root path.root r path location
      (Walk.answerAt host path location (under root names))
      (registryAnswer host path location (under root names)) := by
  cases SourceUnit.gives_of_not_hasNull host _ hnull with
  | problem p hload =>
    obtain ⟨hwalk, hregistry⟩ := answers_of_problem host path location _ p hload
    rw [hwalk, hregistry]
    cases p with
    | unreadable =>
      exact paired_other host root path.root r path location .unreadable _ (by decide)
        (opens_unitMessage .unreadable _)
    | unopened reason =>
      have htells := tellsUnit_unopened root _ names hnames reason
      exact .failed _ _ (.unit rfl htells (.inl rfl)) (.unit rfl htells (.inl rfl))
  | exhausted fault hload =>
    exact absurd hreadable (Registry.not_readable_of_stopped host _ _ (hload {}))
  | unit u hpath hload =>
    rcases answers_of_unit host path location _ u hpath hload hreadable with
      ⟨d, schema, -, -, hwalk, hregistry⟩ | ⟨hwalk, hregistry⟩
    · rw [hwalk, hregistry]
      exact .found schema
    · rw [hwalk, hregistry]
      exact paired_other host root path.root r path location .missing _ (by decide)
        (opens_message (.noSchema path.identifier _))

variable (hroot : Files.isDirectory? host root = .ok true)
  (hr : Registry.ofSourceRoot host root path.root = .ok r)
  (hlast : path.modules.getLast? ≠ some "__init__") (top : Files.Node)
  (htop : Files.locate host root = .ok top)

include hroot hr hlast htop

theorem paired_directory (hhost : host.root.Distinct)
    (hdir : Files.isDirectory? host (under root path.modules) = .ok true)
    (hunit : Walk.locate ⟨root, path.root⟩ host path =
      .ok ((under root path.modules).child packageEntry)) :
    Paired host root path.root r path location
      (Walk.answerAt host path location ((under root path.modules).child packageEntry))
      (r.resolve path location) := by
  have hmodules := path.allSegments_modules
  have hrootnull := ((Files.isDirectory?_eq_true_iff host root).mp hroot).1
  have hnull := hasNull_under root _ hrootnull (null_not_mem_entryNames path.modules hmodules)
  have hnames : UnitNames path.modules (path.modules ++ [packageEntry]) := .inl rfl
  obtain ⟨hreadable, hanswer⟩ := resolve_fileOf host root r path location hroot hr hlast top htop
  have hunits := units_fileOf host root r path hroot hr hlast top htop
  rw [hanswer]
  rw [← Registry.under_append] at hunit ⊢
  by_cases hentry : path.modules ++ [packageEntry] ∈ Registry.candidates top
  · have hchosen : fileOf host root path.modules (Registry.candidates top) =
        some (under root (path.modules ++ [packageEntry])) := if_pos hentry
    rw [hchosen]
    exact paired_answers host root r path location _ hnames hnull (hreadable _ hchosen)
  · have hnone : fileOf host root path.modules (Registry.candidates top) = none := by
      unfold fileOf
      rw [if_neg hentry, if_neg fun h => h.2 hdir]
    have hfile : Files.isFile? host (under root (path.modules ++ [packageEntry])) ≠ .ok true := by
      intro hfile
      obtain ⟨-, bytes, hplace⟩ := (Files.isFile?_eq_true_iff host _).mp hfile
      exact hentry (mem_candidates_of_locate host root top htop hhost path.modules "__init__"
        (Walk.ne_up_of_allSegments path.modules hmodules) _ hplace)
    obtain ⟨reason, hload⟩ := SourceUnit.load_of_not_file host _ hnull hfile
    obtain ⟨hwalk, -⟩ := answers_of_problem host path location _ (.unopened reason) hload
    rw [hnone, hwalk]
    have hlopsided : Lopsided host root path.root r path :=
      ⟨rfl, iff_of_true ⟨_, hunit⟩ (by rw [hunits, hnone, Option.map_none])⟩
    have htells := tellsUnit_unopened root _ _ hnames reason
    exact .failed _ _ (.unit rfl htells (.inr hlopsided))
      (.path (tellsPath_noUnit path.modulePath path))

theorem paired_file (hhost : host.root.Distinct) (before : List String) (segment : String)
    (hleaves : Walk.Leaves host root path.modules before segment [])
    (hfile : Files.isFile? host (under root (before ++ [unitName segment])) = .ok true) :
    Paired host root path.root r path location
      (Walk.answerAt host path location (under root (before ++ [unitName segment])))
      (r.resolve path location) := by
  obtain ⟨hnull, -, -⟩ := (Files.isFile?_eq_true_iff host _).mp hfile
  have hchosen := fileOf_of_leaves host root path.modules path.allSegments_modules top htop hhost before
    segment hleaves hfile
  obtain ⟨hreadable, hanswer⟩ := resolve_fileOf host root r path location hroot hr hlast top htop
  have hnames : UnitNames path.modules (before ++ [unitName segment]) := by
    right
    rw [hleaves.modules_eq, Registry.fileNames_append]
  rw [hanswer, hchosen]
  exact paired_answers host root r path location _ hnames hnull (hreadable _ hchosen)

theorem paired_closed (before : List String) (segment : String) (after : List String)
    (hleaves : Walk.Leaves host root path.modules before segment after)
    (hclosed : after ≠ [] ∨ Files.isFile? host (under root (before ++ [unitName segment])) = .ok false)
    (file : Files.Path)
    (hdescend : Walk.descend host path root path.modules = .ok (.error (.noFile file path))) :
    Paired host root path.root r path location
      (.error ((ResolutionProblem.noFile file path).failure location)) (r.resolve path location) := by
  have hmodules := path.allSegments_modules
  have hrootnull := ((Files.isDirectory?_eq_true_iff host root).mp hroot).1
  have hanswer := (resolve_fileOf host root r path location hroot hr hlast top htop).2
  have hunits := units_fileOf host root r path hroot hr hlast top htop
  rw [hanswer]
  cases hchosen : fileOf host root path.modules (Registry.candidates top) with
  | none =>
    exact .failed _ _ (.path (tellsPath_noFile file path))
      (.path (tellsPath_noUnit path.modulePath path))
  | some unit =>
    have hnull := hasNull_fileOf host root path.modules hrootnull hmodules _ unit hchosen
    have hnofile := not_isFile?_fileOf host root path.modules hmodules before segment after hleaves
      (hclosed.imp id fun hfalse => by rw [hfalse]; exact nofun) _ unit hchosen
    obtain ⟨names, hnames, rfl⟩ := exists_unitNames host root path.modules _ unit hchosen
    obtain ⟨reason, hload⟩ := SourceUnit.load_of_not_file host _ hnull hnofile
    obtain ⟨-, hregistry⟩ := answers_of_problem host path location _ (.unopened reason) hload
    have hnowhere : ¬ ∃ found, Walk.locate ⟨root, path.root⟩ host path = .ok found := by
      rintro ⟨found, hfound⟩
      unfold Walk.locate Walk.unitPath at hfound
      rw [hdescend] at hfound
      cases hfound
    have hlopsided : Lopsided host root path.root r path :=
      ⟨rfl, iff_of_false hnowhere (by rw [hunits, hchosen]; exact nofun)⟩
    have htells := tellsUnit_unopened root _ names hnames reason
    dsimp only
    rw [hregistry]
    exact .failed _ _ (.path (tellsPath_noFile file path)) (.unit rfl htells (.inr hlopsided))

/-- The answers to a path below the marker, unless the walk is stopped. -/
theorem paired_of_not_overlong (hhost : host.root.Distinct) (hover : ¬ Walk.Overlong host root path.modules) :
    Paired host root path.root r path location
      (Walk.resolve ⟨root, path.root⟩ host path location) (r.resolve path location) := by
  have hdescent : Walk.Descent host root path path.modules
      (Walk.descend host path root path.modules) := by
    have hdescend := Walk.descent_descend host root path path.modules [] path.allSegments_modules
    rw [Registry.under_nil, List.nil_append] at hdescend
    exact hdescend hroot
  generalize hx : Walk.descend host path root path.modules = x at hdescent
  cases hdescent with
  | directory hdir =>
    have hlocate := fun location =>
      (Walk.resolve_directory ⟨root, path.root⟩ host path location rfl _ hx hdir).1
    rw [(Walk.resolve_directory ⟨root, path.root⟩ host path location rfl _ hx hdir).2]
    exact paired_directory host root r path location hroot hr hlast top htop hhost hdir (hlocate {})
  | overlong before segment after hleaves hlong =>
    exact absurd ⟨before, segment, after, hleaves, hlong⟩ hover
  | file before segment hleaves hfile =>
    rw [(Walk.resolve_file ⟨root, path.root⟩ host path location rfl _ hx hfile).2]
    exact paired_file host root r path location hroot hr hlast top htop hhost before segment hleaves hfile
  | closed before segment after hleaves hshort hclosed file =>
    rw [Walk.resolve_problem ⟨root, path.root⟩ host path location rfl _ hx]
    exact paired_closed host root r path location hroot hr hlast top htop before segment after hleaves
      hclosed file hx

end

/-- A path at which a walk is stopped. -/
def Stops (host : Host) (root : Files.Path) (marker : String) (path : TargetPath) : Prop :=
  path.root = marker ∧ Walk.Overlong host root path.modules

theorem resolve_of_stops (host : Host) (root : Files.Path) (marker : String) (r : Registry)
    (path : TargetPath) (location : Location) (hhost : host.root.Distinct)
    (hroot : Files.isDirectory? host root = .ok true)
    (hr : Registry.ofSourceRoot host root marker = .ok r)
    (hlast : path.modules.getLast? ≠ some "__init__") (h : Stops host root marker path) :
    Walk.resolve ⟨root, marker⟩ host path location = .error (.stopped (.path .nameTooLong)) := by
  obtain ⟨rfl, hover⟩ := h
  obtain ⟨-, top, htop, -⟩ := (Files.isDirectory?_eq_true_iff host root).mp hroot
  rcases stopped_or_alike host root r path location hroot hr hlast top htop hhost with
    ⟨-, hstopped, -⟩ | ⟨hgoes, -⟩
  · exact hstopped
  · exact absurd hover hgoes

/-- The answers to any path, unless the walk is stopped. -/
theorem paired_resolve (host : Host) (root : Files.Path) (marker : String) (r : Registry)
    (path : TargetPath) (location : Location) (hhost : host.root.Distinct)
    (hroot : Files.isDirectory? host root = .ok true)
    (hr : Registry.ofSourceRoot host root marker = .ok r)
    (hlast : path.modules.getLast? ≠ some "__init__")
    (hover : ¬ Stops host root marker path) :
    Paired host root marker r path location (Walk.resolve ⟨root, marker⟩ host path location)
      (r.resolve path location) := by
  by_cases hpath : path.root = marker
  · subst hpath
    obtain ⟨-, top, htop, -⟩ := (Files.isDirectory?_eq_true_iff host root).mp hroot
    exact paired_of_not_overlong host root r path location hroot hr hlast top htop hhost
      fun h => hover ⟨rfl, h⟩
  · obtain ⟨units, hingested⟩ := Registry.exists_ingested host root marker r hroot hr
    have hregistry : r.resolve path location =
        .error ((ResolutionProblem.foreignRoot marker path).failure location) := by
      unfold Registry.resolve
      rw [Registry.marker_of_ingested host root marker units r hingested, if_pos hpath]
    rw [Walk.resolve_foreign ⟨root, marker⟩ host path location hpath, hregistry]
    exact paired_other host root marker r path location .foreignRoot _ (by decide)
      (opens_message (.foreignRoot marker path))

end Crosswalk

import Crosswalk.Proofs.Registry.Reading
import Crosswalk.Proofs.Walk

/-! A walk and the registry of the same tree answer alike: with the same schema, which is the first of its
name in its unit, or with problems of the same kind. The one exception is a module whose file would have
too long a name: the walk is stopped where the registry reports that nothing can be opened. -/

namespace Crosswalk

open Code (ClassDeclaration)
open Registry (under under_append under_nil fileOf fileNames)

/-! Kinds of failures -/

inductive FailureClass
  | foreignRoot
  | unopened
  | unreadable
  | missing
  deriving DecidableEq, Repr

namespace FailureClass

def opening : FailureClass → String
  | foreignRoot => "inter_struct only supports paths in the current '"
  | unopened => "Failed to open file: "
  | unreadable => "Failed to parse file "
  | missing => "Didn't find schema "

/-- Whether a message tells of a failure of a class. -/
def Opens (c : FailureClass) (message : String) : Prop := ∃ rest, message = c.opening ++ rest

end FailureClass

def ResolutionProblem.failureClass : ResolutionProblem → FailureClass
  | foreignRoot _ _ => .foreignRoot
  | noFile _ _ | noUnit _ _ => .unopened
  | noSchema _ _ => .missing

theorem opens_message (p : ResolutionProblem) : p.failureClass.Opens p.message := by
  unfold ResolutionProblem.message ResolutionProblem.failureClass FailureClass.Opens
    FailureClass.opening
  cases p with
  | foreignRoot marker path =>
    refine ⟨marker ++ (".' space for now, got " ++ (Text.quoted path.toString ++ ".")), ?_⟩
    dsimp only
    rw [String.append_assoc, String.append_assoc, String.append_assoc]
  | noFile file path =>
    refine ⟨Text.quoted file.toString ++ (" while resolving " ++ Text.quoted path.toString), ?_⟩
    dsimp only
    rw [String.append_assoc, String.append_assoc]
  | noUnit module path =>
    have hopening : "Failed to open file: no source unit for module " =
        "Failed to open file: " ++ "no source unit for module " := by decide
    refine ⟨"no source unit for module " ++ (Text.quoted module ++ (" while resolving " ++
      Text.quoted path.toString)), ?_⟩
    dsimp only
    rw [hopening, String.append_assoc, String.append_assoc, String.append_assoc]
  | noSchema identifier place =>
    refine ⟨identifier ++ (" in file " ++ Text.quoted place), ?_⟩
    dsimp only
    rw [String.append_assoc, String.append_assoc]

def UnitProblem.failureClass : UnitProblem → FailureClass
  | unreadable => .unreadable
  | unopened _ => .unopened

theorem opens_unitMessage (p : UnitProblem) (file : Files.Path) :
    p.failureClass.Opens (p.message file) := by
  unfold UnitProblem.message UnitProblem.failureClass FailureClass.Opens FailureClass.opening
  cases p with
  | unreadable =>
    refine ⟨Text.quoted file.toString ++ ": <parse error>", ?_⟩
    dsimp only
    rw [String.append_assoc]
  | unopened reason =>
    refine ⟨Text.quoted file.toString ++ (" (" ++ (reason.message file ++ ")")), ?_⟩
    dsimp only
    rw [String.append_assoc, String.append_assoc, String.append_assoc]

/-! Answers alike -/

/-- A problem of a path, reported at a place. -/
def Reports (c : FailureClass) (location : Location) (x : Except Failure Schema) : Prop :=
  ∃ message, c.Opens message ∧ x = .error (.reported ⟨.pathResolution, message, location⟩)

/-- How a walk and a registry answer to a path: with the schema of the first class of its name in its
unit, or with problems of one class, which are told in the same words where a unit was read. -/
inductive Alike (w : Walk) (host : Host) (path : TargetPath) (location : Location) :
    Except Failure Schema → Except Failure Schema → Prop
  | found (file : Files.Path) (u : SourceUnit) (d : ClassDeclaration) (schema : Schema)
      (hunit : w.locate host path location = .ok file) (hload : SourceUnit.load host file = .ok u)
      (hclass : u.classes.find? (·.name == path.identifier) = some d)
      (hschema : Schema.ofClass host.interpreter d (some file) = .ok schema) :
    Alike w host path location (.ok schema) (.ok schema)
  | failed (c : FailureClass) (x y : Except Failure Schema) (hx : Reports c location x)
      (hy : Reports c location y) (hsame : c = .unreadable ∨ c = .missing → x = y) :
    Alike w host path location x y

theorem reports_failure (p : ResolutionProblem) (location : Location) :
    Reports p.failureClass location (.error (p.failure location)) :=
  ⟨p.message, opens_message p, rfl⟩

theorem reports_unitProblem (p : UnitProblem) (file : Files.Path) (location : Location) :
    Reports p.failureClass location
      (.error (.reported ⟨.pathResolution, p.message file, location⟩)) :=
  ⟨p.message file, opens_unitMessage p file, rfl⟩

section

variable (w : Walk) (host : Host) (path : TargetPath) (location : Location) (file : Files.Path)

/-- What the registry of a tree answers about a unit. -/
def registryAnswer : Except Failure Schema :=
  match Registry.problemOf? host file with
  | some d => .error (.reported { d with location })
  | none =>
    match (Registry.schemasOf host file).find? (·.identifier == path.identifier) with
    | some schema => .ok schema
    | none =>
      .error ((ResolutionProblem.noSchema path.identifier file.toString).failure location)

theorem answers_of_problem (p : UnitProblem)
    (h : ∀ location, SourceUnit.load host file location =
      .error (.reported ⟨.pathResolution, p.message file, location⟩)) :
    Walk.answerAt host path location file =
        .error (.reported ⟨.pathResolution, p.message file, location⟩) ∧
      registryAnswer host path location file =
        .error (.reported ⟨.pathResolution, p.message file, location⟩) := by
  constructor
  · unfold Walk.answerAt
    rw [h location]
    rfl
  · unfold registryAnswer Registry.problemOf?
    rw [h {}]

/-- A unit that is read gives the same schema both ways, or is said to have none, in the same words. -/
theorem answers_of_unit (u : SourceUnit) (hpath : u.path = file)
    (hload : ∀ location, SourceUnit.load host file location = .ok u)
    (hreadable : Registry.Readable host file) :
    (∃ d schema, u.classes.find? (·.name == path.identifier) = some d ∧
      Schema.ofClass host.interpreter d (some file) = .ok schema ∧
      Walk.answerAt host path location file = .ok schema ∧
      registryAnswer host path location file = .ok schema) ∨
    Walk.answerAt host path location file =
        .error ((ResolutionProblem.noSchema path.identifier file.toString).failure location) ∧
      registryAnswer host path location file =
        .error ((ResolutionProblem.noSchema path.identifier file.toString).failure location) := by
  have hschemas : ∃ schemas, u.schemas host.interpreter = .ok schemas := by
    rcases hreadable with ⟨d, hproblem⟩ | ⟨u', schemas, hu', hschemas⟩
    · rw [hload {}] at hproblem
      cases hproblem
    · rw [hload {}] at hu'
      cases hu'
      exact ⟨schemas, hschemas⟩
  obtain ⟨schemas, hschemas⟩ := hschemas
  have hfind := find?_schemas u.classes (some u.path) schemas hschemas path.identifier
  unfold Walk.answerAt registryAnswer Registry.problemOf? Registry.schemasOf SourceUnit.find?
  rw [hload {}, hload location]
  dsimp only [bind, Except.bind]
  rw [hschemas]
  cases hclass : u.classes.find? (·.name == path.identifier) with
  | none =>
    rw [hclass] at hfind
    dsimp only [Except.toOption, Option.getD_some] at hfind ⊢
    rw [hfind]
    exact .inr ⟨rfl, rfl⟩
  | some d =>
    rw [hclass] at hfind
    obtain ⟨schema, hschema, hfound⟩ := hfind
    dsimp only [Except.toOption, Option.getD_some]
    rw [hfound]
    rw [hpath] at hschema ⊢
    rw [hschema]
    exact .inl ⟨d, schema, rfl, hschema, rfl, rfl⟩

/-- A walk that comes to a unit and a registry that has it answer alike. -/
theorem alike_answers (hunit : w.locate host path location = .ok file)
    (hnull : Files.hasNull file = false) (hreadable : Registry.Readable host file) :
    Alike w host path location (Walk.answerAt host path location file)
      (registryAnswer host path location file) := by
  cases SourceUnit.gives_of_not_hasNull host file hnull with
  | problem p hload =>
    obtain ⟨hwalk, hregistry⟩ := answers_of_problem host path location file p hload
    rw [hwalk, hregistry]
    exact .failed p.failureClass _ _ (reports_unitProblem p file location)
      (reports_unitProblem p file location) fun _ => rfl
  | exhausted fault hload =>
    exact absurd hreadable (Registry.not_readable_of_stopped host file _ (hload {}))
  | unit u hpath hload =>
    rcases answers_of_unit host path location file u hpath hload hreadable with
      ⟨d, schema, hclass, hschema, hwalk, hregistry⟩ | ⟨hwalk, hregistry⟩
    · rw [hwalk, hregistry]
      exact .found file u d schema hunit (hload {}) hclass hschema
    · rw [hwalk, hregistry]
      have hmissing := reports_failure (.noSchema path.identifier file.toString) location
      exact .failed .missing _ _ hmissing hmissing fun _ => rfl

/-- A unit that is no file cannot be opened. -/
theorem reports_unopened (hnull : Files.hasNull file = false)
    (hfile : Files.isFile? host file ≠ .ok true) :
    Reports .unopened location (Walk.answerAt host path location file) ∧
      Reports .unopened location (registryAnswer host path location file) := by
  obtain ⟨reason, hload⟩ := SourceUnit.load_of_not_file host file hnull hfile
  obtain ⟨hwalk, hregistry⟩ := answers_of_problem host path location file (.unopened reason) hload
  rw [hwalk, hregistry]
  exact ⟨reports_unitProblem (.unopened reason) file location,
    reports_unitProblem (.unopened reason) file location⟩

end

/-! The file of a module -/

section

variable (host : Host) (root : Files.Path) (modules : List String)

theorem hasNull_under (names : List String) (hroot : Files.hasNull root = false)
    (hnames : ∀ s ∈ names, '\x00' ∉ s.toList) : Files.hasNull (under root names) = false := by
  unfold Files.hasNull at hroot ⊢
  unfold under
  rw [List.any_append, hroot, Bool.false_or, List.any_eq_false]
  intro s hs
  simpa using hnames s hs

theorem null_not_mem_fileNames (hmodules : AllSegments modules) (s : String)
    (hs : s ∈ fileNames modules) : '\x00' ∉ s.toList := by
  unfold fileNames at hs
  rcases List.mem_append.mp hs with hs | hs
  · exact null_not_mem_of_isSegment s (hmodules s (List.dropLast_subset modules hs))
  · rw [List.mem_singleton.mp hs]
    refine Walk.null_not_mem_unitName _ ?_
    cases hlast : modules.getLast? with
    | none => decide
    | some last => exact null_not_mem_of_isSegment last (hmodules last (List.mem_of_getLast? hlast))

theorem null_not_mem_entryNames (hmodules : AllSegments modules) (s : String)
    (hs : s ∈ modules ++ [packageEntry]) : '\x00' ∉ s.toList := by
  rcases List.mem_append.mp hs with hs | hs
  · exact null_not_mem_of_isSegment s (hmodules s hs)
  · rw [List.mem_singleton.mp hs]
    decide

theorem hasNull_fileOf (hroot : Files.hasNull root = false) (hmodules : AllSegments modules)
    (l : List (List String)) (file : Files.Path) (h : fileOf host root modules l = some file) :
    Files.hasNull file = false := by
  unfold fileOf at h
  split at h
  · cases h
    exact hasNull_under root _ hroot (null_not_mem_entryNames modules hmodules)
  split at h
  · cases h
    exact hasNull_under root _ hroot (null_not_mem_fileNames modules hmodules)
  · cases h

/-- The file chosen for a module is none if the directories end before it, unless the walk comes to it. -/
theorem not_isFile?_fileOf (hmodules : AllSegments modules) (before : List String) (segment : String)
    (after : List String) (hleaves : Walk.Leaves host root modules before segment after)
    (hclosed : after ≠ [] ∨ Files.isFile? host (under root (before ++ [unitName segment])) ≠ .ok true)
    (l : List (List String)) (file : Files.Path) (h : fileOf host root modules l = some file) :
    Files.isFile? host file ≠ .ok true := by
  obtain ⟨-, -, hafter⟩ :=
    Walk.allSegments_of_leaves host root modules before segment after hmodules hleaves
  have hup := Walk.ne_up_of_allSegments after hafter
  unfold fileOf at h
  split at h
  · cases h
    have hnames : modules ++ [packageEntry] = before ++ [segment] ++ (after ++ [packageEntry]) := by
      rw [hleaves.modules_eq]
      simp
    rw [hnames]
    refine Walk.not_isFile?_of_leaves host root modules before segment after _ hleaves (by simp) ?_
    intro s hs
    rcases List.mem_append.mp hs with hs | hs
    · exact hup s hs
    · rw [List.mem_singleton.mp hs]
      decide
  split at h
  · cases h
    rcases List.eq_nil_or_concat after with rfl | ⟨front, last, rfl⟩
    · rw [hleaves.modules_eq, Registry.fileNames_append]
      exact hclosed.resolve_left (not_not_intro rfl)
    · have hnames : fileNames modules = before ++ [segment] ++ (front ++ [unitName last]) := by
        rw [hleaves.modules_eq, List.concat_eq_append,
          show before ++ segment :: (front ++ [last]) = (before ++ segment :: front) ++ [last] by simp,
          Registry.fileNames_append]
        simp
      rw [hnames]
      refine Walk.not_isFile?_of_leaves host root modules before segment _ _ hleaves (by simp) ?_
      intro s hs
      rcases List.mem_append.mp hs with hs | hs
      · exact hup s (by simp [hs])
      · rw [List.mem_singleton.mp hs]
        exact Walk.unitName_ne_up last
  · cases h

/-- What is found by its path is among the files below the root. -/
theorem mem_candidates_of_locate (top : Files.Node) (htop : Files.locate host root = .ok top)
    (hhost : host.root.Distinct) (names : List String) (name : String) (hup : ∀ s ∈ names, s ≠ "..")
    (place : Files.Node)
    (hplace : Files.locate host (under root (names ++ [unitName name])) = .ok place) :
    names ++ [unitName name] ∈ Registry.candidates top := by
  rw [Registry.mem_candidates _ (Files.distinct_of_locate host root top hhost htop)]
  constructor
  · rw [Registry.lastName_append]
    exact (Registry.endsWith_py_iff _).mpr ⟨name, rfl⟩
  · have hboth : ∀ s ∈ names ++ [unitName name], s ≠ ".." := by
      intro s hs
      rcases List.mem_append.mp hs with hs | hs
      · exact hup s hs
      · rw [List.mem_singleton.mp hs]
        exact Walk.unitName_ne_up name
    rw [Registry.at?_of_locate host root top htop _ hboth place hplace]
    rfl

/-- A module whose name leads to a file and not to a directory has no entry file. -/
theorem entry_not_mem_of_leaves (hmodules : AllSegments modules) (top : Files.Node)
    (htop : Files.locate host root = .ok top) (hhost : host.root.Distinct) (before : List String)
    (segment : String) (hleaves : Walk.Leaves host root modules before segment [])
    (hfile : Files.isFile? host (under root (before ++ [unitName segment])) = .ok true) :
    modules ++ [packageEntry] ∉ Registry.candidates top := by
  intro hentry
  obtain ⟨hsegments, hsegment, -⟩ :=
    Walk.allSegments_of_leaves host root modules before segment [] hmodules hleaves
  have hup := Walk.ne_up_of_allSegments before hsegments
  obtain ⟨hnull, place, hplace, hdir⟩ := (Files.isDirectory?_eq_true_iff host _).mp hleaves.inside
  have hshort : ¬ ((under root before).child segment).TooLong := by
    intro hlong
    refine Walk.short_of_isFile? host root before segment hsegment hleaves.inside hfile ?_
    rw [under_append]
    exact Files.tooLong_child_append _ segment ".py" hlong
  have hbefore := Registry.at?_of_locate host root top htop before hup place hplace
  -- The names lead to an entry of a directory, so they lead to a directory without it.
  rw [Registry.mem_candidates _ (Files.distinct_of_locate host root top hhost htop),
    hleaves.modules_eq, Files.at?_append, Files.at?_append, hbefore, Option.bind_some,
    Files.at?_singleton] at hentry
  cases hfound : place.entry? segment with
  | none =>
    rw [hfound] at hentry
    exact absurd hentry.2 Bool.false_ne_true
  | some m =>
    refine hleaves.outside ((Files.isDirectory?_eq_true_iff host _).mpr ⟨?_, m, ?_, ?_⟩)
    · rw [under_append, Files.hasNull_child]
      exact ⟨hnull, null_not_mem_of_isSegment segment hsegment⟩
    · rw [under_append, Files.locate_child host _ segment place hplace hdir
        (Walk.ne_up_of_dotless segment (dotless_of_isSegment segment hsegment)), if_neg hshort, hfound]
    · rw [hfound, Option.bind_some, Files.at?_singleton] at hentry
      cases m with
      | file bytes => exact absurd hentry.2 Bool.false_ne_true
      | directory entries => rfl

/-- The file that a walk comes to is the one chosen for the module. -/
theorem fileOf_of_leaves (hmodules : AllSegments modules) (top : Files.Node)
    (htop : Files.locate host root = .ok top) (hhost : host.root.Distinct) (before : List String)
    (segment : String) (hleaves : Walk.Leaves host root modules before segment [])
    (hfile : Files.isFile? host (under root (before ++ [unitName segment])) = .ok true) :
    fileOf host root modules (Registry.candidates top) =
      some (under root (before ++ [unitName segment])) := by
  obtain ⟨-, bytes, hplace⟩ := (Files.isFile?_eq_true_iff host _).mp hfile
  obtain ⟨hsegments, -, -⟩ :=
    Walk.allSegments_of_leaves host root modules before segment [] hmodules hleaves
  have hup := Walk.ne_up_of_allSegments before hsegments
  have hnames : fileNames modules = before ++ [unitName segment] := by
    rw [hleaves.modules_eq, Registry.fileNames_append]
  have hentry := entry_not_mem_of_leaves host root modules hmodules top htop hhost before segment
    hleaves hfile
  have hmem := mem_candidates_of_locate host root top htop hhost before segment hup _ hplace
  have hdir := Walk.not_isDirectory?_of_leaves host root modules hmodules _ _ _ hleaves
  unfold fileOf
  rw [if_neg hentry, hnames, if_pos ⟨hmem, hdir⟩]

end

/-! Agreement -/

section

variable (host : Host) (root : Files.Path) (r : Registry) (path : TargetPath)
  (location : Location) (hroot : Files.isDirectory? host root = .ok true)
  (hr : Registry.ofSourceRoot host root path.root = .ok r)
  (hlast : path.modules.getLast? ≠ some "__init__") (top : Files.Node)
  (htop : Files.locate host root = .ok top)

include hroot hr hlast htop

/-- The unit that the registry of a tree knows for a module is the file chosen for it. -/
theorem units_fileOf :
    r.units.get? path.modulePath =
      (fileOf host root path.modules (Registry.candidates top)).map some := by
  obtain ⟨units, h⟩ := Registry.exists_ingested host root path.root r hroot hr
  have hunit := Registry.get?_unitsBelow host root path.root path.modules path.dotless_root
    path.allSegments_modules hlast hroot top htop units h.below
  rw [← path.modulePath_eq] at hunit
  rw [Registry.get?_units host root path.root units r h, hunit]

/-- The registry of a tree answers from the file chosen for the module. -/
theorem resolve_fileOf :
    (∀ file, fileOf host root path.modules (Registry.candidates top) = some file →
      Registry.Readable host file) ∧
    r.resolve path location =
      match fileOf host root path.modules (Registry.candidates top) with
      | none => .error ((ResolutionProblem.noUnit path.modulePath path).failure location)
      | some file => registryAnswer host path location file := by
  obtain ⟨units, h⟩ := Registry.exists_ingested host root path.root r hroot hr
  have hunit := Registry.get?_unitsBelow host root path.root path.modules path.dotless_root
    path.allSegments_modules hlast hroot top htop units h.below
  rw [← path.modulePath_eq] at hunit
  rw [← hunit]
  constructor
  · intro file hfile
    exact Registry.readable_of_get? host root path.root units r h path.modulePath file hfile
  · exact Registry.resolve_ingested host root path.root units r h path rfl location

/-- Where the directories end without a file to come to, the registry cannot open a unit. -/
theorem reports_of_leaves (before : List String) (segment : String) (after : List String)
    (hleaves : Walk.Leaves host root path.modules before segment after)
    (hclosed : after ≠ [] ∨ Files.isFile? host (under root (before ++ [unitName segment])) ≠ .ok true) :
    Reports .unopened location (r.resolve path location) := by
  have hmodules := path.allSegments_modules
  have hnull := ((Files.isDirectory?_eq_true_iff host root).mp hroot).1
  rw [(resolve_fileOf host root r path location hroot hr hlast top htop).2]
  cases hfile : fileOf host root path.modules (Registry.candidates top) with
  | none => exact reports_failure (.noUnit path.modulePath path) location
  | some file =>
    refine (reports_unopened host path location file ?_ ?_).2
    · exact hasNull_fileOf host root path.modules hnull hmodules _ file hfile
    · exact not_isFile?_fileOf host root path.modules hmodules before segment after hleaves hclosed _
        file hfile

/-- A walk that comes to a directory looks for its entry file, which is the unit if there is one. -/
theorem alike_directory (hhost : host.root.Distinct)
    (hdir : Files.isDirectory? host (under root path.modules) = .ok true)
    (hunit : Walk.locate ⟨root, path.root⟩ host path location =
      .ok ((under root path.modules).child packageEntry)) :
    Alike ⟨root, path.root⟩ host path location
      (Walk.answerAt host path location ((under root path.modules).child packageEntry))
      (r.resolve path location) := by
  have hmodules := path.allSegments_modules
  have hrootnull := ((Files.isDirectory?_eq_true_iff host root).mp hroot).1
  have hnull := hasNull_under root _ hrootnull (null_not_mem_entryNames path.modules hmodules)
  obtain ⟨hreadable, hanswer⟩ := resolve_fileOf host root r path location hroot hr hlast top htop
  rw [hanswer]
  unfold fileOf at hreadable ⊢
  rw [← under_append] at hunit ⊢
  by_cases hentry : path.modules ++ [packageEntry] ∈ Registry.candidates top
  · rw [if_pos hentry]
    refine alike_answers _ host path location _ hunit hnull (hreadable _ ?_)
    rw [if_pos hentry]
  · have hfile : Files.isFile? host (under root (path.modules ++ [packageEntry])) ≠ .ok true := by
      intro hfile
      obtain ⟨-, bytes, hplace⟩ := (Files.isFile?_eq_true_iff host _).mp hfile
      exact hentry (mem_candidates_of_locate host root top htop hhost path.modules "__init__"
        (Walk.ne_up_of_allSegments path.modules hmodules) _ hplace)
    rw [if_neg hentry, if_neg fun h => h.2 hdir]
    exact .failed .unopened _ _ (reports_unopened host path location _ hnull hfile).1
      (reports_failure (.noUnit path.modulePath path) location) (by simp)

/-- A walk that comes to a file has come to the unit. -/
theorem alike_file (hhost : host.root.Distinct) (before : List String) (segment : String)
    (hleaves : Walk.Leaves host root path.modules before segment [])
    (hfile : Files.isFile? host (under root (before ++ [unitName segment])) = .ok true)
    (hunit : Walk.locate ⟨root, path.root⟩ host path location =
      .ok (under root (before ++ [unitName segment]))) :
    Alike ⟨root, path.root⟩ host path location
      (Walk.answerAt host path location (under root (before ++ [unitName segment])))
      (r.resolve path location) := by
  obtain ⟨hnull, -, -⟩ := (Files.isFile?_eq_true_iff host _).mp hfile
  have hchosen := fileOf_of_leaves host root path.modules path.allSegments_modules top htop hhost before
    segment hleaves hfile
  obtain ⟨hreadable, hanswer⟩ := resolve_fileOf host root r path location hroot hr hlast top htop
  rw [hanswer, hchosen]
  exact alike_answers _ host path location _ hunit hnull (hreadable _ hchosen)

/-- A walk below the root is stopped by an overlong module, and else answers like the registry. -/
theorem stopped_or_alike (hhost : host.root.Distinct) :
    Walk.Overlong host root path.modules ∧
        Walk.resolve ⟨root, path.root⟩ host path location = .error (.stopped (.path .nameTooLong)) ∧
        Reports .unopened location (r.resolve path location) ∨
      ¬ Walk.Overlong host root path.modules ∧
        Alike ⟨root, path.root⟩ host path location
          (Walk.resolve ⟨root, path.root⟩ host path location) (r.resolve path location) := by
  have hmodules := path.allSegments_modules
  have hdescent : Walk.Descent host root path path.modules
      (Walk.descend host path root path.modules) := by
    have hdescend := Walk.descent_descend host root path path.modules [] hmodules
    rw [under_nil, List.nil_append] at hdescend
    exact hdescend hroot
  have hstopped := Walk.stopped_iff_overlong host root path.modules hmodules path _ hdescent
  generalize hx : Walk.descend host path root path.modules = x at hdescent hstopped
  cases hdescent with
  | directory hdir =>
    obtain ⟨hunit, hwalk⟩ :=
      Walk.resolve_directory ⟨root, path.root⟩ host path location rfl _ hx hdir
    rw [hwalk]
    refine .inr ⟨fun hover => ?_, ?_⟩
    · cases hstopped.mpr hover
    · exact alike_directory host root r path location hroot hr hlast top htop hhost hdir hunit
  | file before segment hleaves hfile =>
    obtain ⟨hunit, hwalk⟩ := Walk.resolve_file ⟨root, path.root⟩ host path location rfl _ hx hfile
    rw [hwalk]
    refine .inr ⟨fun hover => ?_, ?_⟩
    · cases hstopped.mpr hover
    · exact alike_file host root r path location hroot hr hlast top htop hhost before segment hleaves
        hfile hunit
  | overlong before segment after hleaves hlong =>
    refine .inl ⟨hstopped.mp rfl, ?_, ?_⟩
    · exact Walk.resolve_stopped ⟨root, path.root⟩ host path location rfl _ hx
    · refine reports_of_leaves host root r path location hroot hr hlast top htop before segment after
        hleaves (.inr fun hfile => ?_)
      obtain ⟨-, hsegment, -⟩ :=
        Walk.allSegments_of_leaves host root path.modules before segment after hmodules hleaves
      exact Walk.short_of_isFile? host root before segment hsegment hleaves.inside hfile hlong
  | closed before segment after hleaves hshort hclosed file =>
    rw [Walk.resolve_problem ⟨root, path.root⟩ host path location rfl _ hx]
    refine .inr ⟨fun hover => ?_, ?_⟩
    · cases hstopped.mpr hover
    · have hreports := reports_of_leaves host root r path location hroot hr hlast top htop before segment
        after hleaves (hclosed.imp id fun hfalse => by rw [hfalse]; exact nofun)
      exact .failed .unopened _ _ (reports_failure (.noFile file path) location) hreports (by simp)

end

section

variable {w : Walk} {host : Host} {path : TargetPath} {location : Location}
  {x y : Except Failure Schema}

theorem Alike.ok_iff (h : Alike w host path location x y) :
    (∃ schema, x = .ok schema) ↔ ∃ schema, y = .ok schema := by
  cases h with
  | found file u d schema => rfl
  | failed c x y hx hy =>
    obtain ⟨message, -, rfl⟩ := hx
    obtain ⟨message', -, rfl⟩ := hy
    constructor
    · rintro ⟨schema, hschema⟩
      cases hschema
    · rintro ⟨schema, hschema⟩
      cases hschema

theorem Alike.not_stopped (h : Alike w host path location x y) (fault : Fault) :
    x ≠ .error (.stopped fault) := by
  cases h with
  | found file u d schema => exact nofun
  | failed c x y hx hy =>
    obtain ⟨message, -, rfl⟩ := hx
    exact nofun

end

/-! A tree of one unit -/

def shelf : Files.Node :=
  .directory [("src", .directory [("a.py", .file (Files.bytesOf "class A:\n    x: int\n"))])]

def shelfRoot : Files.Path := ⟨"", ["src"]⟩

def shelvedPath : TargetPath := ⟨["crate", "a", "A"], by decide, by decide⟩

def longName (n : Nat) : String := String.ofList (List.replicate n 'a')

theorem utf8ByteSize_longName (n : Nat) : (longName n).utf8ByteSize = n := by
  unfold longName
  induction n with
  | zero => rfl
  | succ n ih =>
    rw [List.replicate_succ', String.ofList_append, String.utf8ByteSize_append, ih]
    rfl

theorem isSegment_longName (n : Nat) (h : n ≠ 0) : isSegment (Text.codePoints (longName n)) = true := by
  obtain ⟨m, rfl⟩ := Nat.exists_eq_succ_of_ne_zero h
  unfold longName Text.codePoints
  rw [String.toList_ofList, List.map_replicate, List.replicate_succ]
  have hletter : Text.isAsciiLetter 97 = true := by decide
  simp [isSegment, isAsciiIdentifier, hletter]

def overlongPath : TargetPath where
  segments := ["crate", longName 300, "A"]
  two := by decide
  valid := by
    intro s hs
    simp only [List.mem_cons, List.not_mem_nil, or_false] at hs
    rcases hs with rfl | rfl | rfl
    · decide
    · exact isSegment_longName 300 (by decide)
    · decide

theorem distinct_shelf : shelf.Distinct := by
  simp [shelf, Files.Node.Distinct, Files.Node.EntriesDistinct]

theorem overlong_overlongPath : Walk.Overlong shelf shelfRoot overlongPath.modules := by
  have hsegment := isSegment_longName 300 (by decide)
  have hlong : (shelfRoot.child (longName 300)).TooLong := by
    rw [Files.tooLong_child, utf8ByteSize_longName]
    exact .inr (by decide)
  have hquestions := Files.questions_child shelf shelfRoot (longName 300) rfl
    (Walk.ne_up_of_dotless _ (dotless_of_isSegment _ hsegment)) (null_not_mem_of_isSegment _ hsegment)
  refine ⟨[], longName 300, [], ⟨rfl, rfl, ?_⟩, ?_⟩
  · rw [under_append, under_nil, (hquestions.1 hlong).1]
    exact nofun
  · rw [under_append, under_nil]
    exact Files.tooLong_child_append shelfRoot (longName 300) ".py" hlong

/-- A walk and the registry of the same tree answer alike, except where the walk is stopped; it is
stopped by a module whose file would have too long a name, and only by that. The trees are plain: they hold
no links, and nothing in them that may not be looked into. -/
theorem resolve_alike (host : Host) (root : Files.Path) (marker : String) (r : Registry)
    (path : TargetPath) (location : Location) (hhost : host.root.Distinct)
    (hroot : Files.isDirectory? host root = .ok true)
    (hr : Registry.ofSourceRoot host root marker = .ok r)
    (hlast : path.modules.getLast? ≠ some "__init__") :
    (Walk.resolve ⟨root, marker⟩ host path location = .error (.stopped (.path .nameTooLong)) ↔
        path.root = marker ∧ Walk.Overlong host root path.modules) ∧
      (path.root = marker ∧ Walk.Overlong host root path.modules →
        Reports .unopened location (r.resolve path location)) ∧
      (¬ (path.root = marker ∧ Walk.Overlong host root path.modules) →
        Alike ⟨root, marker⟩ host path location (Walk.resolve ⟨root, marker⟩ host path location)
          (r.resolve path location)) ∧
      (Dotless marker → (r.contains path = true ↔
        ∃ schema, Walk.resolve ⟨root, marker⟩ host path location = .ok schema)) := by
  obtain ⟨units, hingested⟩ := Registry.exists_ingested host root marker r hroot hr
  have hcontains := fun hmarker =>
    Registry.contains_ingested host root marker units r hingested path hmarker location
  by_cases hpath : path.root = marker
  · subst hpath
    obtain ⟨-, top, htop, -⟩ := (Files.isDirectory?_eq_true_iff host root).mp hroot
    rcases stopped_or_alike host root r path location hroot hr hlast top htop hhost with
      ⟨hover, hstopped, hreports⟩ | ⟨hover, halike⟩
    · refine ⟨iff_of_true hstopped ⟨rfl, hover⟩, fun _ => hreports, fun h => absurd ⟨rfl, hover⟩ h, ?_⟩
      intro hmarker
      obtain ⟨message, -, hanswer⟩ := hreports
      rw [hcontains hmarker, hstopped, hanswer]
      simp
    · refine ⟨?_, fun h => absurd h.2 hover, fun _ => halike, ?_⟩
      · exact iff_of_false (halike.not_stopped _) fun h => hover h.2
      · intro hmarker
        rw [hcontains hmarker]
        exact halike.ok_iff.symm
  · have hwalk := Walk.resolve_foreign ⟨root, marker⟩ host path location hpath
    have halike : Alike ⟨root, marker⟩ host path location
        (Walk.resolve ⟨root, marker⟩ host path location) (r.resolve path location) := by
      have hregistry : r.resolve path location =
          .error ((ResolutionProblem.foreignRoot marker path).failure location) := by
        unfold Registry.resolve
        rw [Registry.marker_of_ingested host root marker units r hingested, if_pos hpath]
      have hreports := reports_failure (.foreignRoot marker path) location
      rw [hwalk, hregistry]
      exact .failed .foreignRoot _ _ hreports hreports (by simp)
    refine ⟨?_, fun h => absurd h.1 hpath, fun _ => halike, ?_⟩
    · exact iff_of_false (halike.not_stopped _) fun h => hpath h.1
    · intro hmarker
      rw [hcontains hmarker]
      exact halike.ok_iff.symm

theorem resolve_alike_shelf :
    ∃ r, Registry.ofSourceRoot shelf shelfRoot "crate" = .ok r ∧
      Walk.resolve ⟨shelfRoot, "crate"⟩ shelf overlongPath =
        .error (.stopped (.path .nameTooLong)) ∧
      Reports .unopened {} (r.resolve overlongPath) ∧
      r.contains shelvedPath = true := by
  obtain ⟨r, hr⟩ : ∃ r, Registry.ofSourceRoot shelf shelfRoot "crate" = .ok r :=
    exists_of_isOk _ (by decide +kernel)
  have hlast : overlongPath.modules.getLast? ≠ some "__init__" := by
    intro h
    have hsize : (longName 300).utf8ByteSize = "__init__".utf8ByteSize :=
      congrArg String.utf8ByteSize (Option.some.inj h)
    rw [utf8ByteSize_longName] at hsize
    exact absurd hsize (by decide)
  have hover : overlongPath.root = "crate" ∧ Walk.Overlong shelf shelfRoot overlongPath.modules :=
    ⟨rfl, overlong_overlongPath⟩
  obtain ⟨hstopped, hreports, -, -⟩ :=
    resolve_alike shelf shelfRoot "crate" r overlongPath {} distinct_shelf rfl hr hlast
  obtain ⟨-, -, -, hcontains⟩ :=
    resolve_alike shelf shelfRoot "crate" r shelvedPath {} distinct_shelf rfl hr (by decide)
  refine ⟨r, hr, hstopped.mpr hover, hreports hover, (hcontains (by decide)).mpr ?_⟩
  exact exists_of_isOk _ (by decide +kernel)

end Crosswalk

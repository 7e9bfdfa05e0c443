import Mathlib.Logic.Relation
import Crosswalk.Proofs.Files.Standing
import Crosswalk.Proofs.Resolution

/-! What a path resolves to is told by what stands at the names of its modules. A walk opens no file but
one of these. Trees that agree there give the same answer, so writing or deleting any other file changes
none. -/

namespace Crosswalk

open Files (Node Standing treeAt)
open Registry (under under_append under_nil fileOf fileNames)

/-! What a path names in a tree -/

/-- The names of the files that a path may come to. -/
inductive Mentions (modules : List String) : List String → Prop
  | unit (front : List String) (s : String) (h : front ++ [s] <+: modules) :
    Mentions modules (front ++ [unitName s])
  | entry : Mentions modules (modules ++ [packageEntry])

/-- Two trees with the same directories and the same files at the names of modules. -/
structure AgreeOn (modules : List String) (t t' : Node) : Prop where
  directories : ∀ names, names <+: modules →
    (t.standing names = .directory ↔ t'.standing names = .directory)
  units : ∀ front s, front ++ [s] <+: modules →
    t.standing (front ++ [unitName s]) = t'.standing (front ++ [unitName s])
  entry : t.standing modules = .directory →
    t.standing (modules ++ [packageEntry]) = t'.standing (modules ++ [packageEntry])

namespace AgreeOn

variable {modules : List String} {t t' t'' : Node}

theorem refl (modules : List String) (t : Node) : AgreeOn modules t t :=
  ⟨fun _ _ => Iff.rfl, fun _ _ _ => rfl, fun _ => rfl⟩

theorem standing_entry (h : AgreeOn modules t t') :
    t.standing (modules ++ [packageEntry]) = t'.standing (modules ++ [packageEntry]) := by
  by_cases hdir : t.standing modules = .directory
  · exact h.entry hdir
  · have hdir' : t'.standing modules ≠ .directory := fun h' =>
      hdir ((h.directories modules (List.prefix_refl modules)).mpr h')
    rw [Files.standing_append_of_ne_directory t modules _ (List.cons_ne_nil _ _) hdir,
      Files.standing_append_of_ne_directory t' modules _ (List.cons_ne_nil _ _) hdir']

theorem symm (h : AgreeOn modules t t') : AgreeOn modules t' t :=
  ⟨fun names hnames => (h.directories names hnames).symm,
    fun front s hs => (h.units front s hs).symm, fun _ => h.standing_entry.symm⟩

theorem trans (h : AgreeOn modules t t') (h' : AgreeOn modules t' t'') : AgreeOn modules t t'' :=
  ⟨fun names hnames => (h.directories names hnames).trans (h'.directories names hnames),
    fun front s hs => (h.units front s hs).trans (h'.units front s hs),
    fun _ => h.standing_entry.trans h'.standing_entry⟩

end AgreeOn

/-- A change of a tree at names that a path does not come to. Only a new directory must not lie on the
way of the path either. -/
inductive Edit (modules : List String) (t : Node) : Node → Prop
  | write (names : List String) (bytes : List UInt8) (hopen : t.Open names)
      (hother : ¬ Mentions modules names) : Edit modules t (Node.put (.file bytes) names t)
  | makeDirectory (names : List String) (hopen : t.Open names) (hother : ¬ Mentions modules names)
      (hbeside : ¬ names <+: modules) : Edit modules t (Node.put .emptyDirectory names t)
  | delete (names : List String) (hopen : t.Open names) (hother : ¬ Mentions modules names) :
    Edit modules t (Node.remove names t)

theorem agreeOn_of_standing (modules names : List String) (t t' : Node)
    (hsame : ∀ other, other ≠ names → t'.standing other = t.standing other)
    (hother : ¬ Mentions modules names)
    (hdir : names <+: modules → (t.standing names = .directory ↔ t'.standing names = .directory)) :
    AgreeOn modules t t' := by
  refine ⟨fun other hpre => ?_, fun front s hs => ?_, fun _ => ?_⟩
  · by_cases h : other = names
    · subst h
      exact hdir hpre
    · rw [hsame other h]
  · exact (hsame _ fun h => hother (h ▸ .unit front s hs)).symm
  · exact (hsame _ fun h => hother (h ▸ .entry)).symm

theorem agreeOn_of_edit (modules : List String) (t t' : Node) (h : Edit modules t t') :
    AgreeOn modules t t' := by
  cases h with
  | write names bytes hopen hother =>
    refine agreeOn_of_standing modules names t _
      (Files.standing_put_of_ne (.file bytes) rfl names t hopen) hother fun _ => ?_
    rw [Files.standing_put_self]
    exact iff_of_false hopen.outside nofun
  | makeDirectory names hopen hother hbeside =>
    exact agreeOn_of_standing modules names t _
      (Files.standing_put_of_ne .emptyDirectory rfl names t hopen) hother fun h => absurd h hbeside
  | delete names hopen hother =>
    refine agreeOn_of_standing modules names t _
      (Files.standing_remove_of_ne names t hopen) hother fun _ => ?_
    rw [Files.standing_remove_self names t hopen.ne_nil]
    exact iff_of_false hopen.outside nofun

theorem agreeOn_of_edits (modules : List String) (t t' : Node)
    (h : Relation.ReflTransGen (Edit modules) t t') : AgreeOn modules t t' := by
  induction h with
  | refl => exact .refl modules t
  | tail _ hedit ih => exact ih.trans (agreeOn_of_edit modules _ _ hedit)

/-! Two trees that agree -/

theorem load_eq (host host' : Host) (file : Files.Path) (location : Location)
    (hsame : host.interpreter = host'.interpreter) (hread : Files.read host file = Files.read host' file) :
    SourceUnit.load host file location = SourceUnit.load host' file location := by
  unfold SourceUnit.load SourceUnit.read
  rw [hread, hsame]

/-- Two hosts with one interpreter, and trees below one root that agree at the names of modules. -/
structure Agreeing (host host' : Host) (root : Files.Path) (modules : List String) : Prop where
  interpreter : host.interpreter = host'.interpreter
  segments : AllSegments modules
  below : Files.isDirectory? host root = .ok true
  below' : Files.isDirectory? host' root = .ok true
  agree : AgreeOn modules (treeAt host root) (treeAt host' root)

namespace Agreeing

variable {host host' : Host} {root : Files.Path} {modules : List String}
  (h : Agreeing host host' root modules)

include h

theorem symm : Agreeing host' host root modules :=
  ⟨h.interpreter.symm, h.segments, h.below', h.below, h.agree.symm⟩

theorem hasNull_beside (before : List String) (name : String) (hbefore : before <+: modules)
    (hname : '\x00' ∉ name.toList) : Files.hasNull (under root (before ++ [name])) = false := by
  refine hasNull_under root _ ((Files.isDirectory?_eq_true_iff host root).mp h.below).1 fun s hs => ?_
  rcases List.mem_append.mp hs with hs | hs
  · exact null_not_mem_of_isSegment s (h.segments s (hbefore.subset hs))
  · rw [List.mem_singleton.mp hs]
    exact hname

/-- Below a directory that both trees have, a name leads into a directory in both or in none. -/
theorem isDirectory?_module (before : List String) (segment : String)
    (hpre : before ++ [segment] <+: modules)
    (hdir : Files.isDirectory? host (under root before) = .ok true)
    (hdir' : Files.isDirectory? host' (under root before) = .ok true) :
    Files.isDirectory? host (under root (before ++ [segment])) =
      Files.isDirectory? host' (under root (before ++ [segment])) := by
  have hbefore : before <+: modules := (List.prefix_append before [segment]).trans hpre
  have hsegment := h.segments segment (hpre.subset (by simp))
  have hups : ∀ s ∈ before, s ≠ ".." := fun s hs =>
    Walk.ne_up_of_allSegments modules h.segments s (hbefore.subset hs)
  have hup := Walk.ne_up_of_dotless segment (dotless_of_isSegment segment hsegment)
  have hnull := h.hasNull_beside before segment hbefore (null_not_mem_of_isSegment segment hsegment)
  rw [Files.isDirectory?_below host root before segment h.below hups hdir hup hnull,
    Files.isDirectory?_below host' root before segment h.below' hups hdir' hup hnull]
  simp only [h.agree.directories _ hpre]

theorem isDirectory?_along (names : List String) (hpre : names <+: modules)
    (hdir : Files.isDirectory? host (under root names) = .ok true) :
    Files.isDirectory? host' (under root names) = .ok true := by
  induction names using List.reverseRecOn with
  | nil =>
    rw [under_nil]
    exact h.below'
  | append_singleton before segment ih =>
    have hup : ∀ s ∈ [segment], s ≠ ".." := fun s hs =>
      Walk.ne_up_of_allSegments modules h.segments s (hpre.subset (List.mem_append_right _ hs))
    have hbefore := Walk.isDirectory?_of_append host root before [segment] hup hdir
    have hbefore' := ih ((List.prefix_append before [segment]).trans hpre) hbefore
    rw [← h.isDirectory?_module before segment hpre hbefore hbefore']
    exact hdir

/-- What is asked of a name below a directory that both trees have is told by what stands there. -/
theorem questions_below (before : List String) (name : String) (hbefore : before <+: modules)
    (hup : name ≠ "..") (hname : '\x00' ∉ name.toList)
    (hsame : (treeAt host root).standing (before ++ [name]) =
      (treeAt host' root).standing (before ++ [name]))
    (hdir : Files.isDirectory? host (under root before) = .ok true) :
    Files.isFile? host (under root (before ++ [name])) =
        Files.isFile? host' (under root (before ++ [name])) ∧
      Files.read host (under root (before ++ [name])) =
        Files.read host' (under root (before ++ [name])) := by
  have hdir' := h.isDirectory?_along before hbefore hdir
  have hups : ∀ s ∈ before, s ≠ ".." := fun s hs =>
    Walk.ne_up_of_allSegments modules h.segments s (hbefore.subset hs)
  have hnull := h.hasNull_beside before name hbefore hname
  constructor
  · rw [Files.isFile?_below host root before name h.below hups hdir hup hnull,
      Files.isFile?_below host' root before name h.below' hups hdir' hup hnull, hsame]
  · rw [Files.read_below host root before name h.below hups hdir hup hnull,
      Files.read_below host' root before name h.below' hups hdir' hup hnull, hsame]

theorem questions_unit (before : List String) (segment : String)
    (hpre : before ++ [segment] <+: modules)
    (hdir : Files.isDirectory? host (under root before) = .ok true) :
    Files.isFile? host (under root (before ++ [unitName segment])) =
        Files.isFile? host' (under root (before ++ [unitName segment])) ∧
      Files.read host (under root (before ++ [unitName segment])) =
        Files.read host' (under root (before ++ [unitName segment])) := by
  have hnull := null_not_mem_of_isSegment segment (h.segments segment (hpre.subset (by simp)))
  exact h.questions_below before _ ((List.prefix_append before [segment]).trans hpre)
    (Walk.unitName_ne_up segment) (Walk.null_not_mem_unitName segment hnull)
    (h.agree.units before segment hpre) hdir

/-- A walk goes the same way in both trees. -/
theorem descend_eq (path : TargetPath) (rest before : List String) (heq : before ++ rest = modules)
    (hdir : Files.isDirectory? host (under root before) = .ok true) :
    Walk.descend host path (under root before) rest =
      Walk.descend host' path (under root before) rest := by
  induction rest generalizing before with
  | nil => rfl
  | cons segment rest ih =>
    have heq' : before ++ [segment] ++ rest = modules := by rw [← heq]; simp
    have hpre : before ++ [segment] <+: modules := ⟨rest, heq'⟩
    have hbefore := (List.prefix_append before [segment]).trans hpre
    have hdir' := h.isDirectory?_along before hbefore hdir
    have hmodule := h.isDirectory?_module before segment hpre hdir hdir'
    have hunit := (h.questions_unit before segment hpre hdir).1
    unfold Walk.descend
    rw [Files.isFile?_of_isDirectory? host _ hdir, Files.isFile?_of_isDirectory? host' _ hdir',
      ← under_append, ← under_append, hmodule, hunit]
    cases hisDir : Files.isDirectory? host' (under root (before ++ [segment])) with
    | error fault => rfl
    | ok isDir =>
      cases isDir with
      | true => exact ih (before ++ [segment]) heq' (hmodule.trans hisDir)
      | false =>
        -- A walk that comes to a file goes no further.
        cases hisFile : Files.isFile? host' (under root (before ++ [unitName segment])) with
        | error fault => rfl
        | ok isFile =>
          cases isFile with
          | false => rfl
          | true =>
            cases rest with
            | nil => rfl
            | cons next rest =>
              dsimp only [bind, Except.bind]
              unfold Walk.descend
              rw [hunit, hisFile]
              rfl

/-- A walk comes to the same file in both trees and finds the same in it. -/
theorem walk_eq (path : TargetPath) (location : Location) (hpath : path.modules = modules) :
    Walk.resolve ⟨root, path.root⟩ host path location =
      Walk.resolve ⟨root, path.root⟩ host' path location := by
  have hdescent := Walk.descent_of_root host root path modules h.segments h.below
  have hdescend := h.descend_eq path modules [] (List.nil_append modules) (by rw [under_nil]; exact h.below)
  rw [under_nil] at hdescend
  subst hpath
  generalize hx : Walk.descend host path root path.modules = x at hdescent
  have hx' := hdescend.symm.trans hx
  cases hdescent with
  | directory hdir =>
    have hdir' := h.isDirectory?_along path.modules (List.prefix_refl _) hdir
    have hread := (h.questions_below path.modules packageEntry (List.prefix_refl _) (by decide)
      (by decide) h.agree.standing_entry hdir).2
    rw [(Walk.resolve_directory ⟨root, path.root⟩ host path location rfl _ hx hdir).2,
      (Walk.resolve_directory ⟨root, path.root⟩ host' path location rfl _ hx' hdir').2, ← under_append]
    unfold Walk.answerAt
    rw [load_eq host host' _ location h.interpreter hread, h.interpreter]
  | file before segment hleaves hfile =>
    have hpre : before ++ [segment] <+: path.modules :=
      ⟨[], (List.append_nil _).trans hleaves.modules_eq.symm⟩
    obtain ⟨hsame, hread⟩ := h.questions_unit before segment hpre hleaves.inside
    rw [(Walk.resolve_file ⟨root, path.root⟩ host path location rfl _ hx hfile).2,
      (Walk.resolve_file ⟨root, path.root⟩ host' path location rfl _ hx' (hsame.symm.trans hfile)).2]
    unfold Walk.answerAt
    rw [load_eq host host' _ location h.interpreter hread, h.interpreter]
  | overlong before segment after hleaves hlong =>
    rw [Walk.resolve_stopped ⟨root, path.root⟩ host path location rfl _ hx,
      Walk.resolve_stopped ⟨root, path.root⟩ host' path location rfl _ hx']
  | closed before segment after hleaves hshort hclosed file =>
    rw [Walk.resolve_problem ⟨root, path.root⟩ host path location rfl _ hx,
      Walk.resolve_problem ⟨root, path.root⟩ host' path location rfl _ hx']

theorem isDirectory?_iff :
    Files.isDirectory? host (under root modules) = .ok true ↔
      Files.isDirectory? host' (under root modules) = .ok true :=
  ⟨h.isDirectory?_along modules (List.prefix_refl modules),
    h.symm.isDirectory?_along modules (List.prefix_refl modules)⟩

end Agreeing

/-! The unit of a module -/

/-- The names of the unit that the registry of a tree has for a module. -/
def unitNames? (host : Host) (root : Files.Path) (modules : List String) : Option (List String) :=
  if (treeAt host root).standing (modules ++ [packageEntry]) ≠ .nothing then
    some (modules ++ [packageEntry])
  else if modules.getLast? ≠ some "__init__" ∧
      (treeAt host root).standing (fileNames modules) ≠ .nothing ∧
      Files.isDirectory? host (under root modules) ≠ .ok true then
    some (fileNames modules)
  else none

section

variable (host : Host) (root : Files.Path) (marker : String) (modules : List String)

theorem ne_up_of_mem_fileNames (hmodules : AllSegments modules) (s : String)
    (hs : s ∈ fileNames modules) : s ≠ ".." := by
  rcases List.mem_append.mp hs with hs | hs
  · exact Walk.ne_up_of_allSegments modules hmodules s (List.dropLast_subset modules hs)
  · rw [List.mem_singleton.mp hs]
    exact Walk.unitName_ne_up _

theorem distinct_treeAt (hhost : host.root.Distinct) : (treeAt host root).Distinct := by
  unfold treeAt
  cases hplace : Files.locate host root with
  | ok place => exact Files.distinct_of_locate host root place hhost hplace
  | error e => simp [Node.emptyDirectory, Node.Distinct, Node.EntriesDistinct]

theorem mem_candidates_iff (hhost : host.root.Distinct) (front : List String) (s : String) :
    front ++ [unitName s] ∈ Registry.candidates (treeAt host root) ↔
      (treeAt host root).standing (front ++ [unitName s]) ≠ .nothing := by
  rw [Registry.mem_candidates _ (distinct_treeAt host root hhost), Registry.lastName_append,
    Files.standing_ne_nothing_iff]
  exact and_iff_right ((Registry.endsWith_py_iff _).mpr ⟨s, rfl⟩)

/-- Only its entry file makes a module whose last name is that of an entry file. -/
theorem modulePath?_eq_entry_iff (hmarker : Dotless marker) (hmodules : AllSegments modules)
    (hlast : modules.getLast? = some "__init__") (names : List String)
    (hpy : (Registry.lastName names).endsWith ".py" = true) :
    Registry.modulePath? marker names = some (TargetPath.dotted (marker :: modules)) ↔
      names = modules ++ [packageEntry] := by
  obtain ⟨front, s, rfl⟩ := Registry.exists_unit names hpy
  rw [Registry.modulePath?_eq_some_iff marker hmarker modules hmodules]
  by_cases hs : s = "__init__"
  · subst hs
    rw [if_pos rfl]
    constructor
    · rintro rfl
      rfl
    · intro h
      exact (List.append_inj_left' h rfl).symm
  · rw [if_neg hs]
    constructor
    · rintro rfl
      rw [List.getLast?_concat] at hlast
      exact absurd (Option.some.inj hlast) hs
    · intro h
      have hentry := (List.append_inj' h rfl).2
      rw [List.cons.injEq] at hentry
      exact absurd hentry.1 (Registry.unitName_ne_packageEntry s hs)

theorem get?_foldlM_entry (hmarker : Dotless marker) (hmodules : AllSegments modules)
    (hlast : modules.getLast? = some "__init__") (l : List (List String))
    (hpy : ∀ names ∈ l, (Registry.lastName names).endsWith ".py" = true)
    (units : OrderedMap String Files.Path)
    (h : l.foldlM (Registry.addUnit host root marker) .empty = .ok units) :
    units.get? (TargetPath.dotted (marker :: modules)) =
      if modules ++ [packageEntry] ∈ l then some (under root (modules ++ [packageEntry]))
      else none := by
  induction l using List.reverseRecOn generalizing units with
  | nil =>
    cases h
    rfl
  | append_singleton l names ih =>
    rw [List.foldlM_append] at h
    obtain ⟨before, hbefore, hadd⟩ := exists_of_bind_ok _ _ _ h
    rw [List.foldlM_cons] at hadd
    obtain ⟨after, hafter, hnil⟩ := exists_of_bind_ok _ _ _ hadd
    cases hnil
    have ih := ih (fun other hother => hpy other (List.mem_append_left _ hother)) before hbefore
    have hkey := modulePath?_eq_entry_iff marker modules hmarker hmodules hlast names
      (hpy names (by simp))
    by_cases hnames : names = modules ++ [packageEntry]
    · rw [Registry.addUnit_eq host root marker before names _ (hkey.mpr hnames)] at hafter
      subst hnames
      rw [Registry.lastName_append, if_pos rfl] at hafter
      obtain ⟨shadowed, hshadowed, hadded⟩ := exists_of_map_ok _ _ _ hafter
      cases hshadowed
      rw [Bool.false_or, ih] at hadded
      rw [if_pos (by simp)]
      by_cases hentry : modules ++ [packageEntry] ∈ l
      · rw [if_pos hentry, Option.any_some, Registry.name_under, if_pos (by simp)] at hadded
        rw [← hadded, ih, if_pos hentry]
      · rw [if_neg hentry, Option.any_none, if_neg Bool.false_ne_true] at hadded
        rw [← hadded, OrderedMap.get?_insert_self]
    · rw [Registry.get?_addUnit_of_ne host root marker before units names _ (mt hkey.mp hnames) hafter, ih]
      exact if_congr (by simp [Ne.symm hnames]) rfl rfl

/-- The registry of a tree has just this unit for a module. -/
theorem get?_unitsBelow_eq (hmarker : Dotless marker) (hmodules : AllSegments modules)
    (hhost : host.root.Distinct) (hroot : Files.isDirectory? host root = .ok true)
    (units : OrderedMap String Files.Path)
    (hunits : Registry.unitsBelow host root marker = .ok units) :
    units.get? (TargetPath.dotted (marker :: modules)) =
      (unitNames? host root modules).map (under root) := by
  obtain ⟨hnull, top, htop, -⟩ := (Files.isDirectory?_eq_true_iff host root).mp hroot
  have hentry : modules ++ [packageEntry] ∈ Registry.candidates (treeAt host root) ↔
      (treeAt host root).standing (modules ++ [packageEntry]) ≠ .nothing :=
    mem_candidates_iff host root hhost modules "__init__"
  have hfile : fileNames modules ∈ Registry.candidates (treeAt host root) ↔
      (treeAt host root).standing (fileNames modules) ≠ .nothing :=
    mem_candidates_iff host root hhost modules.dropLast (modules.getLast?.getD "")
  unfold unitNames?
  rw [Files.treeAt_eq host root top htop] at hentry hfile ⊢
  by_cases hlast : modules.getLast? = some "__init__"
  · have hfold := Registry.foldlM_of_unitsBelow host root marker top hnull htop units hunits
    rw [get?_foldlM_entry host root marker modules hmarker hmodules hlast _
      (Registry.endsWith_of_mem_candidates top) units hfold]
    by_cases h : modules ++ [packageEntry] ∈ Registry.candidates top
    · rw [if_pos h, if_pos (hentry.mp h)]
      rfl
    · rw [if_neg h, if_neg (mt hentry.mpr h), if_neg fun hother => hother.1 hlast]
      rfl
  · rw [Registry.get?_unitsBelow host root marker modules hmarker hmodules hlast hroot top htop units
      hunits]
    unfold fileOf
    by_cases h : modules ++ [packageEntry] ∈ Registry.candidates top
    · rw [if_pos h, if_pos (hentry.mp h)]
      rfl
    · rw [if_neg h, if_neg (mt hentry.mpr h), apply_ite (Option.map (under root))]
      refine if_congr ?_ rfl rfl
      rw [and_iff_right hlast, hfile]

end

/-! Registries of two trees -/

namespace Agreeing

variable {host host' : Host} {root : Files.Path} {modules : List String}

/-- Both trees have the same unit for a module, and the same stands there. -/
theorem unitNames?_eq (h : Agreeing host host' root modules) :
    unitNames? host root modules = unitNames? host' root modules ∧
      ∀ names, unitNames? host root modules = some names →
        (∀ s ∈ names, s ≠ "..") ∧ names ≠ [] ∧ (treeAt host root).standing names ≠ .nothing ∧
          (treeAt host root).standing names = (treeAt host' root).standing names := by
  have hups := Walk.ne_up_of_allSegments modules h.segments
  have hentry := h.agree.standing_entry
  have hdir := h.isDirectory?_iff
  -- The root itself is a directory, so a unit that is no entry file has a name.
  have hfile : Files.isDirectory? host (under root modules) ≠ .ok true →
      (treeAt host root).standing (fileNames modules) =
        (treeAt host' root).standing (fileNames modules) := by
    intro hno
    have hunits := h.agree.units
    rcases List.eq_nil_or_concat modules with rfl | ⟨front, s, rfl⟩
    · rw [under_nil] at hno
      exact absurd h.below hno
    · rw [List.concat_eq_append] at hunits ⊢
      rw [Registry.fileNames_append]
      exact hunits front s (List.prefix_refl _)
  unfold unitNames?
  rw [← hentry]
  by_cases hthere : (treeAt host root).standing (modules ++ [packageEntry]) ≠ .nothing
  · rw [if_pos hthere, if_pos hthere]
    refine ⟨rfl, fun names hnames => ?_⟩
    cases hnames
    refine ⟨fun s hs => ?_, by simp, hthere, hentry⟩
    rcases List.mem_append.mp hs with hs | hs
    · exact hups s hs
    · rw [List.mem_singleton.mp hs]
      decide
  · rw [if_neg hthere, if_neg hthere]
    by_cases hno : Files.isDirectory? host (under root modules) = .ok true
    · rw [if_neg fun hother => hother.2.2 hno, if_neg fun hother => hother.2.2 (hdir.mp hno)]
      exact ⟨rfl, nofun⟩
    · rw [← hfile hno]
      refine ⟨if_congr ?_ rfl rfl, fun names hnames => ?_⟩
      · exact and_congr_right' (and_congr_right' (not_congr hdir))
      · split at hnames
        · rename_i hchosen
          cases hnames
          exact ⟨ne_up_of_mem_fileNames modules h.segments, by simp [fileNames], hchosen.2.1,
            hfile hno⟩
        · cases hnames

/-- Registries read from both trees give the same answer. -/
theorem registry_eq (path : TargetPath) (h : Agreeing host host' root path.modules)
    (hhost : host.root.Distinct) (hhost' : host'.root.Distinct) (location : Location) (r r' : Registry)
    (hr : Registry.ofSourceRoot host root path.root = .ok r)
    (hr' : Registry.ofSourceRoot host' root path.root = .ok r') :
    r.resolve path location = r'.resolve path location := by
  obtain ⟨hsame, hstands⟩ := h.unitNames?_eq
  obtain ⟨units, hread⟩ := Registry.exists_ingested host root path.root r h.below hr
  obtain ⟨units', hread'⟩ := Registry.exists_ingested host' root path.root r' h.below' hr'
  have hunits := get?_unitsBelow_eq host root path.root path.modules path.dotless_root h.segments hhost
    h.below units hread.below
  have hunits' := get?_unitsBelow_eq host' root path.root path.modules path.dotless_root h.segments hhost'
    h.below' units' hread'.below
  rw [← path.modulePath_eq] at hunits hunits'
  rw [Registry.resolve_ingested host root path.root units r hread path rfl location,
    Registry.resolve_ingested host' root path.root units' r' hread' path rfl location, hunits, hunits',
    ← hsame]
  cases hnames : unitNames? host root path.modules with
  | none => rfl
  | some names =>
    obtain ⟨hups, hne, hsome, hstanding⟩ := hstands names hnames
    have hload := load_eq host host' (under root names) {} h.interpreter
      (Files.read_of_standing host host' root h.below h.below' names hne hups hsome hstanding)
    have hproblem : Registry.problemOf? host (under root names) =
        Registry.problemOf? host' (under root names) := by
      unfold Registry.problemOf?
      rw [hload]
    have hschemas : Registry.schemasOf host (under root names) =
        Registry.schemasOf host' (under root names) := by
      unfold Registry.schemasOf
      rw [hload, h.interpreter]
    rw [Option.map_some]
    dsimp only
    rw [hproblem, hschemas]

end Agreeing

/-! Where a walk may go -/

/-- A file below the root, at the names of the modules: the last with its ending, or all of them followed
by the entry file. None of the names leads anywhere else. -/
def Confined (root : Files.Path) (modules : List String) (file : Files.Path) : Prop :=
  ∃ names, file = under root names ∧
    (names = modules ++ [packageEntry] ∨
      ∃ front s, modules = front ++ [s] ∧ names = front ++ [unitName s]) ∧
    ∀ s ∈ names, s ≠ "" ∧ s ≠ "." ∧ s ≠ ".." ∧ '/' ∉ s.toList

/-- How a walk answers: without opening a file, or from one that it is confined to. -/
inductive Walk.Answers (w : Walk) (host : Host) (path : TargetPath) (location : Location) : Prop
  | unopened (failure : Failure)
      (hnone : path.root ≠ w.marker ∨ w.locate host path location = .error failure)
      (h : w.resolve host path location = .error failure)
  | opened (file : Files.Path) (hlocate : w.locate host path location = .ok file)
      (hconfined : Confined w.root path.modules file)
      (h : w.resolve host path location = Walk.answerAt host path location file)

/-- Where a walk comes to: to a file that it is confined to, or to none. -/
inductive Walk.Located (host : Host) (root : Files.Path) (path : TargetPath) (location : Location) :
    Except Failure Files.Path → Prop
  | overlong (h : Walk.Overlong host root path.modules) :
    Located host root path location (.error (.stopped (.path .nameTooLong)))
  | closed (problem : ResolutionProblem) (h : ¬ Walk.Overlong host root path.modules) :
    Located host root path location (.error (problem.failure location))
  | file (file : Files.Path) (h : ¬ Walk.Overlong host root path.modules)
      (hconfined : Confined root path.modules file) :
    Located host root path location (.ok file)

theorem leads_of_isSegment (s : String) (h : isSegment (Text.codePoints s) = true) :
    s ≠ "" ∧ s ≠ "." ∧ s ≠ ".." ∧ '/' ∉ s.toList := by
  have hdot := dotless_of_isSegment s h
  refine ⟨ne_empty_of_isSegment s h, ?_, Walk.ne_up_of_dotless s hdot,
    not_mem_of_isSegment s h '/' (by decide) (by decide) (by decide) (by decide)⟩
  rintro rfl
  exact hdot (by decide)

theorem leads_unitName (s : String) (h : '/' ∉ s.toList) :
    unitName s ≠ "" ∧ unitName s ≠ "." ∧ unitName s ≠ ".." ∧ '/' ∉ (unitName s).toList := by
  have hmem : 'y' ∈ (unitName s).toList := by
    rw [unitName, String.toList_append]
    exact List.mem_append_right _ (by decide)
  refine ⟨?_, ?_, Walk.unitName_ne_up s, ?_⟩
  · intro hempty
    rw [hempty] at hmem
    cases hmem
  · intro hdot
    rw [hdot] at hmem
    exact absurd hmem (by decide)
  · rw [unitName, String.toList_append, List.mem_append, not_or]
    exact ⟨h, by decide⟩

section

variable (host : Host) (root : Files.Path) (path : TargetPath) (location : Location)
  (hroot : Files.isDirectory? host root = .ok true)

theorem confined_entry (modules : List String) (hmodules : AllSegments modules) :
    Confined root modules (under root (modules ++ [packageEntry])) := by
  refine ⟨_, rfl, .inl rfl, fun s hs => ?_⟩
  rcases List.mem_append.mp hs with hs | hs
  · exact leads_of_isSegment s (hmodules s hs)
  · rw [List.mem_singleton.mp hs]
    exact leads_unitName "__init__" (by decide)

theorem confined_unit (modules before : List String) (segment : String)
    (hmodules : AllSegments modules) (heq : modules = before ++ [segment]) :
    Confined root modules (under root (before ++ [unitName segment])) := by
  refine ⟨_, rfl, .inr ⟨before, segment, heq, rfl⟩, fun s hs => ?_⟩
  rw [heq] at hmodules
  rcases List.mem_append.mp hs with hs | hs
  · exact leads_of_isSegment s (hmodules s (List.mem_append_left _ hs))
  · rw [List.mem_singleton.mp hs]
    exact leads_unitName segment (leads_of_isSegment segment (hmodules segment (by simp))).2.2.2

include hroot

theorem located_locate (marker : String) :
    Walk.Located host root path location (Walk.locate ⟨root, marker⟩ host path location) := by
  have hmodules := path.allSegments_modules
  have hdescent := Walk.descent_of_root host root path path.modules hmodules hroot
  have hoverlong := Walk.stopped_iff_overlong host root path.modules hmodules path _ hdescent
  unfold Walk.locate Walk.unitPath
  dsimp only
  generalize Walk.descend host path root path.modules = x at hdescent hoverlong
  cases hdescent with
  | directory hdir =>
    simp only [bind, Except.bind, hdir]
    rw [← under_append]
    exact .file _ (mt hoverlong.mpr nofun) (confined_entry root path.modules hmodules)
  | file before segment hleaves hfile =>
    simp only [bind, Except.bind, Files.isDirectory?_of_isFile? host _ hfile]
    exact .file _ (mt hoverlong.mpr nofun)
      (confined_unit root path.modules before segment hmodules hleaves.modules_eq)
  | overlong before segment after hleaves hlong => exact .overlong (hoverlong.mp rfl)
  | closed before segment after hleaves hshort hclosed file =>
    exact .closed (.noFile file path) (mt hoverlong.mpr nofun)

theorem answers_walk (marker : String) : Walk.Answers ⟨root, marker⟩ host path location := by
  by_cases hpath : path.root = marker
  · have hresolve : Walk.resolve ⟨root, marker⟩ host path location =
        (Walk.locate ⟨root, marker⟩ host path location).bind (Walk.answerAt host path location) := by
      unfold Walk.resolve
      rw [if_neg (not_not_intro hpath)]
      rfl
    have hlocated := located_locate host root path location hroot marker
    cases hlocate : Walk.locate ⟨root, marker⟩ host path location with
    | error failure =>
      rw [hlocate] at hresolve
      exact .unopened failure (.inr hlocate) hresolve
    | ok file =>
      rw [hlocate] at hresolve hlocated
      cases hlocated with
      | file file _ hconfined => exact .opened file hlocate hconfined hresolve
  · exact .unopened _ (.inl hpath) (Walk.resolve_foreign ⟨root, marker⟩ host path location hpath)

end

/-! Resolving in two trees -/

theorem resolve_eq (host host' : Host) (root : Files.Path) (marker : String) (path : TargetPath)
    (location : Location) (hinterpreter : host.interpreter = host'.interpreter)
    (hhost : host.root.Distinct) (hhost' : host'.root.Distinct)
    (hroot : Files.isDirectory? host root = .ok true) (hroot' : Files.isDirectory? host' root = .ok true)
    (hagree : AgreeOn path.modules (treeAt host root) (treeAt host' root)) :
    Walk.resolve ⟨root, marker⟩ host path location = Walk.resolve ⟨root, marker⟩ host' path location ∧
      ∀ r r', Registry.ofSourceRoot host root marker = .ok r →
        Registry.ofSourceRoot host' root marker = .ok r' →
        r.resolve path location = r'.resolve path location := by
  have h : Agreeing host host' root path.modules :=
    ⟨hinterpreter, path.allSegments_modules, hroot, hroot', hagree⟩
  by_cases hpath : path.root = marker
  · subst hpath
    exact ⟨h.walk_eq path location rfl, h.registry_eq path hhost hhost' location⟩
  · refine ⟨?_, fun r r' hr hr' => ?_⟩
    · rw [Walk.resolve_foreign ⟨root, marker⟩ host path location hpath,
        Walk.resolve_foreign ⟨root, marker⟩ host' path location hpath]
    · obtain ⟨units, h⟩ := Registry.exists_ingested host root marker r hroot hr
      obtain ⟨units', h'⟩ := Registry.exists_ingested host' root marker r' hroot' hr'
      unfold Registry.resolve
      rw [Registry.marker_of_ingested host root marker units r h,
        Registry.marker_of_ingested host' root marker units' r' h', if_pos hpath, if_pos hpath]

/-- Resolving is confined to the files that a path names, and is told by what stands there: in trees that
agree on that, or come from each other by changes elsewhere, a path resolves alike, both by a walk and
in registries of the trees. The trees are plain: with links, what stands at other names could be what a path
comes to. -/
theorem resolution_local (host host' : Host) (root : Files.Path) (marker : String) (path : TargetPath)
    (location : Location) (hinterpreter : host.interpreter = host'.interpreter)
    (hhost : host.root.Distinct) (hhost' : host'.root.Distinct)
    (hroot : Files.isDirectory? host root = .ok true)
    (hroot' : Files.isDirectory? host' root = .ok true) :
    Walk.Answers ⟨root, marker⟩ host path location ∧
      (AgreeOn path.modules (treeAt host root) (treeAt host' root) ∨
          Relation.ReflTransGen (Edit path.modules) (treeAt host root) (treeAt host' root) →
        Walk.resolve ⟨root, marker⟩ host path location =
            Walk.resolve ⟨root, marker⟩ host' path location ∧
          ∀ r r', Registry.ofSourceRoot host root marker = .ok r →
            Registry.ofSourceRoot host' root marker = .ok r' →
            r.resolve path location = r'.resolve path location) := by
  refine ⟨answers_walk host root path location hroot marker, fun h => ?_⟩
  have hagree : AgreeOn path.modules (treeAt host root) (treeAt host' root) :=
    h.elim id (agreeOn_of_edits path.modules _ _)
  exact resolve_eq host host' root marker path location hinterpreter hhost hhost' hroot hroot' hagree

/-! A shelf with an unreadable neighbour -/

def litteredShelf : Node :=
  .directory [("src", .directory [("a.py", .file (Files.bytesOf "class A:\n    x: int\n")),
    ("b.py", .file (Files.bytesOf "class (:\n"))])]

theorem distinct_litteredShelf : litteredShelf.Distinct := by
  simp [litteredShelf, Node.Distinct, Node.EntriesDistinct]

theorem not_mentions_neighbour : ¬ Mentions shelvedPath.modules ["b.py"] := by
  intro h
  generalize hnames : ["b.py"] = names at h
  cases h with
  | unit front s hpre =>
    have hsplit : [] ++ ["b.py"] = front ++ [unitName s] := hnames
    obtain ⟨hfront, hunit⟩ := List.append_inj' hsplit rfl
    obtain ⟨rest, hrest⟩ := hpre
    rw [← hfront] at hrest
    have hs : s = "a" := (List.cons.inj hrest).1
    rw [hs] at hunit
    exact absurd hunit (by decide)
  | entry => exact absurd hnames (by decide)

theorem edit_shelf : Edit shelvedPath.modules (treeAt shelf shelfRoot) (treeAt litteredShelf shelfRoot) :=
  .write ["b.py"] (Files.bytesOf "class (:\n") ⟨by decide, rfl, by decide⟩ not_mentions_neighbour

theorem candidates_litteredShelf :
    Registry.candidates (treeAt litteredShelf shelfRoot) = [["a.py"], ["b.py"]] :=
  Registry.candidates_of_pairwise _ _ (by decide +kernel) (by decide)

/-- The neighbour is all that cannot be read. -/
theorem broken_litteredShelf :
    (Registry.ofSourceRoot litteredShelf shelfRoot "crate").map (·.broken.keys) = .ok ["crate.b"] := by
  unfold Registry.ofSourceRoot Registry.ingest
  rw [Registry.unitsBelow_eq litteredShelf shelfRoot _ (treeAt litteredShelf shelfRoot)
    (by decide) rfl]
  rw [candidates_litteredShelf]
  decide +kernel

theorem resolution_local_shelf :
    ∃ r r' schema, Registry.ofSourceRoot shelf shelfRoot "crate" = .ok r ∧
      Registry.ofSourceRoot litteredShelf shelfRoot "crate" = .ok r' ∧
      r'.broken.keys = ["crate.b"] ∧
      Walk.resolve ⟨shelfRoot, "crate"⟩ shelf shelvedPath = .ok schema ∧
      Walk.resolve ⟨shelfRoot, "crate"⟩ litteredShelf shelvedPath = .ok schema ∧
      r.resolve shelvedPath = r'.resolve shelvedPath := by
  obtain ⟨r, hr⟩ : ∃ r, Registry.ofSourceRoot shelf shelfRoot "crate" = .ok r :=
    exists_of_isOk _ (by decide +kernel)
  obtain ⟨schema, hschema⟩ :
      ∃ schema, Walk.resolve ⟨shelfRoot, "crate"⟩ shelf shelvedPath = .ok schema :=
    exists_of_isOk _ (by decide +kernel)
  obtain ⟨r', hr', hkeys⟩ := exists_of_map_ok _ _ _ broken_litteredShelf
  obtain ⟨-, hsame⟩ := resolution_local shelf litteredShelf shelfRoot "crate" shelvedPath {}
    rfl distinct_shelf distinct_litteredShelf rfl rfl
  obtain ⟨hwalk, hregistry⟩ := hsame (.inr (.single edit_shelf))
  exact ⟨r, r', schema, hr, hr', hkeys, hschema, hwalk.symm.trans hschema, hregistry r r' hr hr'⟩

end Crosswalk

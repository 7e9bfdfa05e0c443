import Crosswalk.Proofs.Registry.Units
import Crosswalk.Proofs.SourceUnit

/-! Where a walk ends. It goes down directories as long as there are any. Where it leaves them, it ends at
the file of the next module, or without one; it is stopped only where the name of that file is too long. -/

namespace Crosswalk.Walk

open Registry (under under_append under_nil)

/-! Names of segments -/

theorem ne_up_of_dotless (s : String) (h : Dotless s) : s ≠ ".." := by
  rintro rfl
  exact h (by decide)

theorem ne_up_of_allSegments (names : List String) (h : AllSegments names) (s : String) (hs : s ∈ names) :
    s ≠ ".." :=
  ne_up_of_dotless s (dotless_of_isSegment s (h s hs))

theorem unitName_ne_up (s : String) : unitName s ≠ ".." := by
  intro h
  have hlist := congrArg String.toList h
  rw [unitName, String.toList_append] at hlist
  have hlast := congrArg List.getLast? hlist
  rw [List.getLast?_append, show ".py".toList.getLast? = some 'y' from rfl, Option.some_or] at hlast
  exact absurd hlast (by decide)

theorem null_not_mem_unitName (s : String) (h : '\x00' ∉ s.toList) : '\x00' ∉ (unitName s).toList := by
  rw [unitName, String.toList_append, List.mem_append]
  rintro (hs | hpy)
  · exact h hs
  · exact absurd hpy (by decide)

/-! Below directories -/

section

variable (host : Host) (root : Files.Path)

/-- All that leads somewhere has directories before it. -/
theorem isDirectory?_of_locate (names rest : List String) (hne : rest ≠ [])
    (hup : ∀ s ∈ rest, s ≠ "..") (place : Files.Node)
    (hnull : Files.hasNull (under root (names ++ rest)) = false)
    (hplace : Files.locate host (under root (names ++ rest)) = .ok place) :
    Files.isDirectory? host (under root names) = .ok true := by
  induction rest using List.reverseRecOn generalizing place with
  | nil => exact absurd rfl hne
  | append_singleton rest name ih =>
    rw [← List.append_assoc, under_append] at hplace hnull
    obtain ⟨before, hbefore, hdir⟩ :=
      Files.directory_of_locate_child host _ name place hplace
    have hnull := ((Files.hasNull_child _ name).mp hnull).1
    cases rest with
    | nil =>
      rw [List.append_nil] at hbefore hnull
      exact (Files.isDirectory?_eq_true_iff host _).mpr ⟨hnull, before, hbefore, hdir⟩
    | cons first rest =>
      exact ih (List.cons_ne_nil _ _) (fun s hs => hup s (List.mem_append_left _ hs)) before hnull
        hbefore

/-- Where a walk has to leave the directories. -/
structure Leaves (modules before : List String) (segment : String) (after : List String) : Prop where
  modules_eq : modules = before ++ segment :: after
  inside : Files.isDirectory? host (under root before) = .ok true
  outside : Files.isDirectory? host (under root (before ++ [segment])) ≠ .ok true

theorem allSegments_of_leaves (modules before : List String) (segment : String)
    (after : List String) (hmodules : AllSegments modules)
    (h : Leaves host root modules before segment after) :
    AllSegments before ∧ isSegment (Text.codePoints segment) = true ∧ AllSegments after := by
  rw [h.modules_eq] at hmodules
  refine ⟨fun s hs => hmodules s ?_, hmodules segment ?_, fun s hs => hmodules s ?_⟩ <;> simp [*]

/-- How a walk down modules ends. -/
inductive Descent (path : TargetPath) (modules : List String) :
    Except Files.PathFault (Except ResolutionProblem Files.Path) → Prop
  | directory (h : Files.isDirectory? host (under root modules) = .ok true) :
    Descent path modules (.ok (.ok (under root modules)))
  | overlong (before : List String) (segment : String) (after : List String)
      (hleaves : Leaves host root modules before segment after)
      (hlong : (under root (before ++ [unitName segment])).TooLong) :
    Descent path modules (.error .nameTooLong)
  | file (before : List String) (segment : String)
      (hleaves : Leaves host root modules before segment [])
      (hfile : Files.isFile? host (under root (before ++ [unitName segment])) = .ok true) :
    Descent path modules (.ok (.ok (under root (before ++ [unitName segment]))))
  | closed (before : List String) (segment : String) (after : List String)
      (hleaves : Leaves host root modules before segment after)
      (hshort : ¬ (under root (before ++ [unitName segment])).TooLong)
      (hclosed : after ≠ [] ∨ Files.isFile? host (under root (before ++ [unitName segment])) = .ok false)
      (file : Files.Path) :
    Descent path modules (.ok (.error (.noFile file path)))

theorem descent_descend (path : TargetPath) (rest before : List String)
    (hrest : AllSegments rest) (hdir : Files.isDirectory? host (under root before) = .ok true) :
    Descent host root path (before ++ rest) (descend host path (under root before) rest) := by
  induction rest generalizing before with
  | nil =>
    rw [List.append_nil]
    exact .directory hdir
  | cons segment rest ih =>
    have hsegment := hrest segment List.mem_cons_self
    have hnull := null_not_mem_of_isSegment segment hsegment
    have hup := ne_up_of_dotless segment (dotless_of_isSegment segment hsegment)
    have hseg := Files.questions_child host (under root before) segment hdir hup hnull
    have hunit := Files.questions_child host (under root before) (unitName segment) hdir
      (unitName_ne_up segment) (null_not_mem_unitName segment hnull)
    rw [← under_append] at hseg hunit
    unfold descend
    rw [Files.isFile?_of_isDirectory? host _ hdir, ← under_append, ← under_append]
    by_cases hlong : (under root (before ++ [segment])).TooLong
    · -- The name of the file is longer still.
      have hunitlong : (under root (before ++ [unitName segment])).TooLong := by
        rw [under_append] at hlong ⊢
        exact Files.tooLong_child_append _ segment ".py" hlong
      have hdirectory := (hseg.1 hlong).1
      rw [hdirectory]
      refine .overlong before segment rest ⟨rfl, hdir, ?_⟩ hunitlong
      rw [hdirectory]
      exact nofun
    obtain ⟨⟨isDir, hisDir⟩, -⟩ := hseg.2 hlong
    rw [hisDir]
    cases isDir with
    | true =>
      have hdescent := ih (before ++ [segment]) (fun s hs => hrest s (List.mem_cons_of_mem _ hs)) hisDir
      rw [List.append_assoc] at hdescent
      exact hdescent
    | false =>
      have hleaves : Leaves host root (before ++ segment :: rest) before segment rest :=
        ⟨rfl, hdir, by rw [hisDir]; exact nofun⟩
      by_cases hunitlong : (under root (before ++ [unitName segment])).TooLong
      · rw [(hunit.1 hunitlong).2]
        exact .overlong before segment rest hleaves hunitlong
      obtain ⟨-, ⟨isFile, hisFile⟩⟩ := hunit.2 hunitlong
      rw [hisFile]
      cases isFile with
      | false => exact .closed before segment rest hleaves hunitlong (.inr hisFile) _
      | true =>
        cases rest with
        | nil => exact .file before segment hleaves hisFile
        | cons next rest =>
          have hstop : descend host path (under root (before ++ [unitName segment])) (next :: rest) =
              .ok (.error (.noFile ((under root (before ++ [unitName segment])).child next) path)) := by
            unfold descend
            rw [hisFile]
            rfl
          have hclosed : Descent host root path (before ++ segment :: next :: rest)
              (.ok (.error (.noFile ((under root (before ++ [unitName segment])).child next) path))) :=
            .closed before segment (next :: rest) hleaves hunitlong (.inl (List.cons_ne_nil _ _)) _
          rw [← hstop] at hclosed
          exact hclosed

theorem descent_of_root (path : TargetPath) (modules : List String) (hmodules : AllSegments modules)
    (hroot : Files.isDirectory? host root = .ok true) :
    Descent host root path modules (descend host path root modules) := by
  have hdescent := descent_descend host root path modules [] hmodules
    (by rw [under_nil]; exact hroot)
  rw [under_nil, List.nil_append] at hdescent
  exact hdescent

/-! Where the directories end -/

theorem isDirectory?_of_append (names rest : List String) (hup : ∀ s ∈ rest, s ≠ "..")
    (h : Files.isDirectory? host (under root (names ++ rest)) = .ok true) :
    Files.isDirectory? host (under root names) = .ok true := by
  by_cases hne : rest = []
  · rw [hne, List.append_nil] at h
    exact h
  · obtain ⟨hnull, place, hplace, -⟩ := (Files.isDirectory?_eq_true_iff host _).mp h
    exact isDirectory?_of_locate host root names rest hne hup place hnull hplace

/-- Nothing below the module that ends the directories leads anywhere. -/
theorem not_isFile?_of_leaves (modules before : List String) (segment : String) (after rest : List String)
    (h : Leaves host root modules before segment after) (hne : rest ≠ []) (hup : ∀ s ∈ rest, s ≠ "..") :
    Files.isFile? host (under root (before ++ [segment] ++ rest)) ≠ .ok true := by
  intro hfile
  obtain ⟨hnull, bytes, hplace⟩ := (Files.isFile?_eq_true_iff host _).mp hfile
  exact h.outside (isDirectory?_of_locate host root _ rest hne hup _ hnull hplace)

/-- A walk is stopped by a module at the end of the directories whose file would have too long a name. -/
def Overlong (modules : List String) : Prop :=
  ∃ before segment after, Leaves host root modules before segment after ∧
    (under root (before ++ [unitName segment])).TooLong

theorem short_of_isFile? (before : List String) (segment : String)
    (hsegment : isSegment (Text.codePoints segment) = true)
    (hdir : Files.isDirectory? host (under root before) = .ok true)
    (hfile : Files.isFile? host (under root (before ++ [unitName segment])) = .ok true) :
    ¬ (under root (before ++ [unitName segment])).TooLong := by
  intro hlong
  rw [under_append] at hfile hlong
  have hquestions := Files.questions_child host _ (unitName segment) hdir (unitName_ne_up segment)
    (null_not_mem_unitName segment (null_not_mem_of_isSegment segment hsegment))
  rw [(hquestions.1 hlong).2] at hfile
  cases hfile

section

variable (modules : List String) (hmodules : AllSegments modules)

include hmodules

/-- The directories go no further than where they are left. -/
theorem not_isDirectory?_of_leaves (before : List String) (segment : String) (after : List String)
    (h : Leaves host root modules before segment after) :
    Files.isDirectory? host (under root modules) ≠ .ok true := by
  intro hdir
  obtain ⟨-, -, hafter⟩ := allSegments_of_leaves host root modules before segment after hmodules h
  rw [h.modules_eq, show before ++ segment :: after = before ++ [segment] ++ after by simp] at hdir
  exact h.outside (isDirectory?_of_append host root _ after (ne_up_of_allSegments after hafter) hdir)

theorem leaves_unique (before before' : List String) (segment segment' : String)
    (after after' : List String) (h : Leaves host root modules before segment after)
    (h' : Leaves host root modules before' segment' after') :
    before = before' ∧ segment = segment' ∧ after = after' := by
  have hlonger : ∀ (b b' c : List String) (x x' : String) (a a' : List String),
      Leaves host root modules b x a → Leaves host root modules b' x' a' → b' = b ++ c → c = [] := by
    intro b b' c x x' a a' hb hb' hc
    cases c with
    | nil => rfl
    | cons y c =>
      have heq : b ++ x :: a = b ++ y :: (c ++ x' :: a') := by
        rw [← hb.modules_eq, hb'.modules_eq, hc, List.append_assoc, List.cons_append]
      obtain ⟨rfl, -⟩ := List.cons.inj (List.append_cancel_left heq)
      have hinside := hb'.inside
      rw [hc, show b ++ x :: c = b ++ [x] ++ c by simp] at hinside
      obtain ⟨hbefore, -, -⟩ := allSegments_of_leaves host root modules b' x' a' hmodules hb'
      refine absurd (isDirectory?_of_append host root _ c ?_ hinside) hb.outside
      intro s hs
      refine ne_up_of_allSegments b' hbefore s ?_
      rw [hc]
      simp [hs]
  have heq := h.modules_eq.symm.trans h'.modules_eq
  have hbefore : before = before' := by
    rcases List.append_eq_append_iff.mp heq with ⟨c, hc, -⟩ | ⟨c, hc, -⟩
    · rw [hc, hlonger before before' c _ _ _ _ h h' hc, List.append_nil]
    · rw [hc, hlonger before' before c _ _ _ _ h' h hc, List.append_nil]
  rw [hbefore] at heq
  obtain ⟨hsegment, hafter⟩ := List.cons.inj (List.append_cancel_left heq)
  exact ⟨hbefore, hsegment, hafter⟩

theorem stopped_iff_overlong (path : TargetPath)
    (x : Except Files.PathFault (Except ResolutionProblem Files.Path))
    (h : Descent host root path modules x) :
    x = .error .nameTooLong ↔ Overlong host root modules := by
  cases h with
  | directory hdir =>
    constructor
    · intro hx
      cases hx
    · rintro ⟨before, segment, after, hleaves, -⟩
      exact absurd hdir (not_isDirectory?_of_leaves host root modules hmodules _ _ _ hleaves)
  | overlong before segment after hleaves hlong =>
    exact iff_of_true rfl ⟨before, segment, after, hleaves, hlong⟩
  | file before segment hleaves hfile =>
    constructor
    · intro hx
      cases hx
    · rintro ⟨before', segment', after, hleaves', hlong⟩
      obtain ⟨rfl, rfl, -⟩ :=
        leaves_unique host root modules hmodules _ _ _ _ _ _ hleaves' hleaves
      obtain ⟨-, hsegment, -⟩ := allSegments_of_leaves host root modules _ _ _ hmodules hleaves
      exact absurd hlong (short_of_isFile? host root _ segment' hsegment hleaves.inside hfile)
  | closed before segment after hleaves hshort hclosed file =>
    constructor
    · intro hx
      cases hx
    · rintro ⟨before', segment', after', hleaves', hlong⟩
      obtain ⟨rfl, rfl, -⟩ :=
        leaves_unique host root modules hmodules _ _ _ _ _ _ hleaves' hleaves
      exact absurd hlong hshort

end

end

/-! What a walk answers -/

section

variable (w : Walk) (host : Host) (path : TargetPath) (location : Location)

/-- The answer of a walk that has come to a file. -/
def answerAt (file : Files.Path) : Except Failure Schema := do
  let u ← SourceUnit.load host file location
  match ← ofTextFault (u.find? host.interpreter path.identifier) with
  | some schema => return schema
  | none =>
    .error ((ResolutionProblem.noSchema path.identifier file.toString).failure location)

theorem resolve_foreign (hpath : path.root ≠ w.marker) :
    w.resolve host path location =
      .error ((ResolutionProblem.foreignRoot w.marker path).failure location) := by
  unfold resolve
  rw [if_pos hpath]

variable (hpath : path.root = w.marker)

include hpath

theorem resolve_stopped (fault : Files.PathFault)
    (h : descend host path w.root path.modules = .error fault) :
    w.resolve host path location = .error (.stopped (.path fault)) := by
  unfold resolve locate unitPath
  rw [if_neg (not_not_intro hpath), h]
  rfl

theorem resolve_problem (problem : ResolutionProblem)
    (h : descend host path w.root path.modules = .ok (.error problem)) :
    w.resolve host path location = .error (problem.failure location) := by
  unfold resolve locate unitPath
  rw [if_neg (not_not_intro hpath), h]
  rfl

theorem resolve_directory (directory : Files.Path)
    (h : descend host path w.root path.modules = .ok (.ok directory))
    (hdir : Files.isDirectory? host directory = .ok true) :
    w.locate host path location = .ok (directory.child packageEntry) ∧
      w.resolve host path location = answerAt host path location (directory.child packageEntry) := by
  have hlocate : w.locate host path location = .ok (directory.child packageEntry) := by
    unfold locate unitPath
    rw [h]
    simp only [bind, Except.bind, hdir]
    rfl
  refine ⟨hlocate, ?_⟩
  unfold resolve
  rw [if_neg (not_not_intro hpath), hlocate]
  rfl

theorem resolve_file (file : Files.Path)
    (h : descend host path w.root path.modules = .ok (.ok file))
    (hfile : Files.isFile? host file = .ok true) :
    w.locate host path location = .ok file ∧
      w.resolve host path location = answerAt host path location file := by
  have hlocate : w.locate host path location = .ok file := by
    unfold locate unitPath
    rw [h]
    simp only [bind, Except.bind, Files.isDirectory?_of_isFile? host file hfile]
    rfl
  refine ⟨hlocate, ?_⟩
  unfold resolve
  rw [if_neg (not_not_intro hpath), hlocate]
  rfl

omit hpath

theorem locate_ok (file : Files.Path) (h : w.locate host path location = .ok file)
    (place : Location) : w.locate host path place = .ok file := by
  unfold locate at h ⊢
  obtain ⟨found, hunit, h⟩ := exists_of_bind_ok _ _ _ h
  rw [hunit]
  cases found with
  | ok found => exact h
  | error problem => cases h

/-- A schema that is found is found wherever it is asked for. -/
theorem resolve_ok (schema : Schema) (h : w.resolve host path location = .ok schema)
    (place : Location) : w.resolve host path place = .ok schema := by
  unfold resolve at h ⊢
  split at h
  · cases h
  rename_i hroot
  obtain ⟨file, hfile, h⟩ := exists_of_bind_ok _ _ _ h
  obtain ⟨u, hu, h⟩ := exists_of_bind_ok _ _ _ h
  obtain ⟨found, hfound, h⟩ := exists_of_bind_ok _ _ _ h
  rw [if_neg hroot, w.locate_ok host path location file hfile place]
  simp only [bind, Except.bind, SourceUnit.load_ok host file u location hu place, hfound]
  cases found with
  | some found => exact h
  | none => cases h

end

end Crosswalk.Walk

import Mathlib.Data.List.Nodup
import Crosswalk.Proofs.Code.Placement
import Crosswalk.Proofs.Walk

/-! Which class a walk finds. The file tells the modules of a path, except that the entry file of a package
stands for the package as well, and the place in the file tells the class. So a class is found under one path
only, unless it stands in an entry file. -/

namespace Crosswalk

open Code (ClassDeclaration)
open Registry (under under_append under_nil unitName_injective)

namespace SourceUnit

section

variable (host : Host) (file : Files.Path) (location : Location) (u : SourceUnit)
  (h : load host file location = .ok u)

include h

theorem exists_bytes_of_load : ∃ bytes, ofBytes? host.interpreter file bytes = .ok (some u) := by
  cases hfound : Files.read host file with
  | error fault =>
    unfold load read at h
    rw [hfound] at h
    cases h
  | ok content =>
    cases content with
    | error reason =>
      rw [load_of_problem host file _ (read_of_error host file reason hfound) location _] at h
      cases h
    | ok bytes =>
      refine ⟨bytes, ?_⟩
      have hread := read_of_bytes host file bytes hfound
      cases hbytes : ofBytes? host.interpreter file bytes with
      | error fault =>
        rw [hbytes] at hread
        rw [load_of_fault host file _ hread location _] at h
        cases h
      | ok found =>
        rw [hbytes] at hread
        cases found with
        | none =>
          rw [load_of_problem host file _ hread location _] at h
          cases h
        | some found =>
          rw [load_of_unit host file _ hread location _] at h
          cases h
          rfl

/-- The classes of a unit stand in different places. -/
theorem nodup_positions : (u.classes.map (·.position)).Nodup := by
  obtain ⟨bytes, hbytes⟩ := exists_bytes_of_load host file location u h
  obtain ⟨source, statements, hparse, rfl⟩ := exists_statements _ file bytes u hbytes
  rw [List.Nodup, List.pairwise_map]
  exact (Code.before_of_parseModule? _ _ _ hparse).imp Code.Position.Before.ne

end

end SourceUnit

namespace Walk

/-! Files -/

section

variable (host : Host) (root : Files.Path)

/-- The file that a walk down modules ends at. -/
inductive Stands (modules : List String) : Files.Path → Prop
  | entry (hdir : Files.isDirectory? host (under root modules) = .ok true) :
    Stands modules (under root (modules ++ [packageEntry]))
  | unit (front : List String) (segment : String) (hmodules : modules = front ++ [segment])
      (hfront : Files.isDirectory? host (under root front) = .ok true)
      (houtside : Files.isDirectory? host (under root modules) ≠ .ok true) :
    Stands modules (under root (front ++ [unitName segment]))
  | root (hmodules : modules = []) (houtside : Files.isDirectory? host (under root modules) ≠ .ok true) :
    Stands modules (under root [])

/-- Modules lead into a package by the name of its entry file, where no directory has that name. -/
structure Enters (modules modules' : List String) : Prop where
  modules_eq : modules' = modules ++ ["__init__"]
  outside : Files.isDirectory? host (under root modules') ≠ .ok true

end

theorem under_injective (root : Files.Path) (names names' : List String)
    (h : under root names = under root names') : names = names' := by
  unfold under at h
  exact List.append_cancel_left (Files.Path.mk.inj h).2

section

variable {host : Host} {root file file' : Files.Path} {modules modules' : List String}

/-- The file of a module is an entry file only if the module has the name of one. -/
theorem Stands.enters_of_entry (h : Stands host root modules' (under root (modules ++ [packageEntry]))) :
    modules = modules' ∨ Enters host root modules modules' := by
  generalize hfile : under root (modules ++ [packageEntry]) = file at h
  cases h with
  | entry hdir => exact .inl (List.append_cancel_right (under_injective root _ _ hfile))
  | unit front segment hmodules hfront houtside =>
    obtain ⟨rfl, hname⟩ := List.append_inj' (under_injective root _ _ hfile) rfl
    obtain rfl : "__init__" = segment := unitName_injective _ _ (List.cons.inj hname).1
    exact .inr ⟨hmodules, houtside⟩
  | root hmodules houtside => exact absurd (under_injective root _ _ hfile) (by simp)

/-- One file stands for the modules of one path, or for a package and its entry. -/
theorem Stands.modules_eq_or_enters (h : Stands host root modules file)
    (h' : Stands host root modules' file) :
    modules = modules' ∨ Enters host root modules modules' ∨ Enters host root modules' modules := by
  cases h with
  | entry hdir => exact h'.enters_of_entry.imp id .inl
  | unit front segment hmodules hfront houtside =>
    generalize hfile : under root (front ++ [unitName segment]) = file at h'
    cases h' with
    | entry hdir' =>
      have hentry : Stands host root modules (under root (modules' ++ [packageEntry])) := by
        rw [← hfile]
        exact .unit front segment hmodules hfront houtside
      exact hentry.enters_of_entry.imp Eq.symm .inr
    | unit front' segment' hmodules' hfront' houtside' =>
      obtain ⟨rfl, hname⟩ := List.append_inj' (under_injective root _ _ hfile) rfl
      rw [hmodules, hmodules', unitName_injective _ _ (List.cons.inj hname).1]
      exact .inl rfl
    | root hmodules' houtside' => exact absurd (under_injective root _ _ hfile) (by simp)
  | root hmodules houtside =>
    generalize hfile : under root [] = file at h'
    cases h' with
    | entry hdir' => exact absurd (under_injective root _ _ hfile) (by simp)
    | unit front' segment' hmodules' hfront' houtside' =>
      exact absurd (under_injective root _ _ hfile) (by simp)
    | root hmodules' houtside' => exact .inl (hmodules.trans hmodules'.symm)

theorem Enters.file_eq (h : Enters host root modules modules') (hfile : Stands host root modules file)
    (hfile' : Stands host root modules' file') : file = file' := by
  cases hfile' with
  | entry hdir' => exact absurd hdir' h.outside
  | unit front segment hmodules hfront houtside =>
    obtain ⟨rfl, hname⟩ := List.append_inj' (h.modules_eq.symm.trans hmodules) rfl
    obtain rfl : "__init__" = segment := (List.cons.inj hname).1
    cases hfile with
    | entry hdir => rfl
    | unit _ _ _ _ houtside => exact absurd hfront houtside
    | root _ houtside => exact absurd hfront houtside
  | root hmodules houtside => exact absurd (h.modules_eq.symm.trans hmodules) (by simp)

theorem Stands.file_eq (h : Stands host root modules file) (h' : Stands host root modules file') :
    file = file' := by
  cases h with
  | entry hdir =>
    cases h' with
    | entry hdir' => rfl
    | unit _ _ _ _ houtside | root _ houtside => exact absurd hdir houtside
  | unit front segment hmodules hfront houtside =>
    cases h' with
    | entry hdir => exact absurd hdir houtside
    | unit front' segment' hmodules' _ _ =>
      obtain ⟨rfl, hname⟩ := List.append_inj' (hmodules.symm.trans hmodules') rfl
      rw [(List.cons.inj hname).1]
    | root hmodules' _ => exact absurd (hmodules.symm.trans hmodules') (by simp)
  | root hmodules houtside =>
    cases h' with
    | entry hdir => exact absurd hdir houtside
    | unit front' segment' hmodules' _ _ => exact absurd (hmodules.symm.trans hmodules') (by simp)
    | root _ _ => rfl

end

/-! Where walks end -/

section

variable (w : Walk) (host : Host) (path : TargetPath) (location : Location)

/-- There is nothing to go on to from a place that is no directory. -/
theorem isDirectory?_of_descend (here file : Files.Path) (segment : String) (rest : List String)
    (hsegment : isSegment (Text.codePoints segment) = true)
    (h : descend host path here (segment :: rest) = .ok (.ok file)) :
    Files.isDirectory? host here = .ok true := by
  have hup := ne_up_of_dotless segment (dotless_of_isSegment segment hsegment)
  unfold descend at h
  obtain ⟨isFile, -, h⟩ := exists_of_bind_ok _ _ _ h
  split at h
  · cases h
  obtain ⟨isDirectory, hdir, h⟩ := exists_of_bind_ok _ _ _ h
  split at h
  · rename_i htrue
    rw [htrue] at hdir
    have hbelow := isDirectory?_of_append host here [] [segment] (by simpa using hup)
      (by rwa [under_append, under_nil])
    rwa [under_nil] at hbelow
  obtain ⟨isUnit, hunit, h⟩ := exists_of_bind_ok _ _ _ h
  split at h
  · rename_i htrue
    rw [htrue, ← under_nil here, ← under_append] at hunit
    obtain ⟨hnull, bytes, hplace⟩ := (Files.isFile?_eq_true_iff host _).mp hunit
    have hbelow := isDirectory?_of_locate host here [] [unitName segment] (List.cons_ne_nil _ _)
      (by simpa using unitName_ne_up segment) _ hnull hplace
    rwa [under_nil] at hbelow
  · cases h

theorem stands_of_locate (hpath : path.root = w.marker) (file : Files.Path)
    (h : w.locate host path location = .ok file) : Stands host w.root path.modules file := by
  have hunit := h
  unfold locate unitPath at hunit
  by_cases hroot : Files.isDirectory? host w.root = .ok true
  · have hdescent := descent_of_root host w.root path path.modules path.allSegments_modules hroot
    generalize hend : descend host path w.root path.modules = x at hdescent
    rw [hend] at hunit
    cases hdescent with
    | directory hdir =>
      rw [(resolve_directory w host path location hpath _ hend hdir).1, ← under_append] at h
      cases h
      exact .entry hdir
    | overlong => cases hunit
    | file before segment hleaves hfile =>
      rw [(resolve_file w host path location hpath _ hend hfile).1] at h
      cases h
      refine .unit before segment hleaves.modules_eq hleaves.inside ?_
      rw [hleaves.modules_eq]
      exact hleaves.outside
    | closed => cases hunit
  · cases hmodules : path.modules with
    | nil =>
      rw [hmodules, show descend host path w.root [] = .ok (.ok w.root) from rfl] at hunit
      simp only [bind, Except.bind] at hunit
      cases hdir : Files.isDirectory? host w.root with
      | error fault =>
        rw [hdir] at hunit
        cases hunit
      | ok isDirectory =>
        rw [hdir] at hunit hroot
        cases isDirectory with
        | true => exact absurd rfl hroot
        | false =>
          cases hunit
          have hroot' : Files.isDirectory? host (under w.root []) ≠ .ok true := by
            rw [under_nil, hdir]
            exact hroot
          have hstands : Stands host w.root [] (under w.root []) := .root rfl hroot'
          rwa [under_nil] at hstands
    | cons segment rest =>
      have hsegment := path.allSegments_modules segment (by simp [hmodules])
      generalize hend : descend host path w.root path.modules = x at hunit
      rw [hmodules] at hend
      match x with
      | .error fault => cases hunit
      | .ok (.error problem) => cases hunit
      | .ok (.ok last) =>
        exact absurd (isDirectory?_of_descend host path w.root last segment rest hsegment hend) hroot

/-- A walk finds a class: the first of the name in the file where it ends. -/
structure Finds (file : Files.Path) (u : SourceUnit) (d : ClassDeclaration) (schema : Schema) : Prop where
  root : path.root = w.marker
  stands : Stands host w.root path.modules file
  loaded : SourceUnit.load host file = .ok u
  first : u.classes.find? (·.name == path.identifier) = some d
  read : Schema.ofClass host.interpreter d (some file) = .ok schema

theorem Finds.name_eq {w : Walk} {host : Host} {path : TargetPath} {file : Files.Path} {u : SourceUnit}
    {d : ClassDeclaration} {schema : Schema} (h : Finds w host path file u d schema) :
    d.name = path.identifier := by
  simpa using List.find?_some h.first

theorem exists_finds (schema : Schema) (h : w.resolve host path location = .ok schema) :
    ∃ file u d, Finds w host path file u d schema := by
  unfold resolve at h
  split at h
  · cases h
  rename_i hpath
  obtain ⟨file, hlocate, h⟩ := exists_of_bind_ok _ _ _ h
  obtain ⟨u, hload, h⟩ := exists_of_bind_ok _ _ _ h
  obtain ⟨found, hfound, h⟩ := exists_of_bind_ok _ _ _ h
  obtain ⟨bytes, hbytes⟩ := SourceUnit.exists_bytes_of_load host file location u hload
  cases found with
  | none => cases h
  | some found =>
    cases h
    unfold SourceUnit.find? at hfound
    rw [SourceUnit.path_of_ofBytes? _ file bytes u hbytes] at hfound
    cases hfirst : u.classes.find? (·.name == path.identifier) with
    | none =>
      rw [hfirst] at hfound
      cases hfound
    | some d =>
      rw [hfirst] at hfound
      change ofTextFault (some <$> Schema.ofClass host.interpreter d (some file)) =
        .ok (some schema) at hfound
      cases hclass : Schema.ofClass host.interpreter d (some file) with
      | error reason =>
        rw [hclass] at hfound
        cases hfound
      | ok schema' =>
        rw [hclass] at hfound
        cases hfound
        have hroot := not_not.mp hpath
        exact ⟨file, u, d, hroot, stands_of_locate w host path location hroot file hlocate,
          SourceUnit.load_ok host file u location hload {}, hfirst, hclass⟩

end

/-! One class, one path -/

section

variable (w : Walk) (host : Host) (p q : TargetPath)

/-- A path leads to what another one leads to, through the entry file of its package. -/
structure Doubles : Prop where
  enters : Enters host w.root p.modules q.modules
  identifier : p.identifier = q.identifier

/-- A class of a tree is found under one path, except that a class in the entry file of a package is found
under the path of the package and, where no directory has the name of the entry file, through that name as
well. Other paths that are found lead to other files or to other places in a file. -/
theorem finds_apart (location location' : Location) (schema schema' : Schema)
    (hp : w.resolve host p location = .ok schema) (hq : w.resolve host q location' = .ok schema') :
    ∃ file u d file' u' d', Finds w host p file u d schema ∧ Finds w host q file' u' d' schema' ∧
      (file = file' ∧ d.position = d'.position ↔ p = q ∨ Doubles w host p q ∨ Doubles w host q p) ∧
      (p = q ∨ Doubles w host p q ∨ Doubles w host q p → schema = schema') := by
  obtain ⟨file, u, d, h⟩ := exists_finds w host p location schema hp
  obtain ⟨file', u', d', h'⟩ := exists_finds w host q location' schema' hq
  have hsame : p = q ∨ Doubles w host p q ∨ Doubles w host q p →
      file = file' ∧ d = d' ∧ schema = schema' := by
    intro hpaths
    have hfile : file = file' := by
      rcases hpaths with rfl | hdoubles | hdoubles
      · exact h.stands.file_eq h'.stands
      · exact hdoubles.enters.file_eq h.stands h'.stands
      · exact (hdoubles.enters.file_eq h'.stands h.stands).symm
    have hidentifier : p.identifier = q.identifier := by
      rcases hpaths with rfl | hdoubles | hdoubles
      · rfl
      · exact hdoubles.identifier
      · exact hdoubles.identifier.symm
    subst hfile
    obtain rfl : u = u' := Except.ok.inj (h.loaded.symm.trans h'.loaded)
    have hfirst := h.first
    rw [hidentifier, h'.first] at hfirst
    obtain rfl : d' = d := Option.some_inj.mp hfirst
    exact ⟨rfl, rfl, Except.ok.inj (h.read.symm.trans h'.read)⟩
  refine ⟨file, u, d, file', u', d', h, h', ⟨?_, fun hpaths => ?_⟩, fun hpaths => (hsame hpaths).2.2⟩
  · rintro ⟨rfl, hposition⟩
    obtain rfl : u = u' := Except.ok.inj (h.loaded.symm.trans h'.loaded)
    have hd : d = d' := List.inj_on_of_nodup_map (SourceUnit.nodup_positions host file {} u h.loaded)
      (List.mem_of_find?_eq_some h.first) (List.mem_of_find?_eq_some h'.first) hposition
    have hidentifier : p.identifier = q.identifier := by
      rw [← h.name_eq, ← h'.name_eq, hd]
    rcases h.stands.modules_eq_or_enters h'.stands with hmodules | henters | henters
    · left
      refine TargetPath.toString_injective p q ?_
      rw [p.toString_eq, q.toString_eq, h.root, h'.root, hmodules, hidentifier]
    · exact .inr (.inl ⟨henters, hidentifier⟩)
    · exact .inr (.inr ⟨henters, hidentifier.symm⟩)
  · obtain ⟨hfile, hd, -⟩ := hsame hpaths
    exact ⟨hfile, congrArg ClassDeclaration.position hd⟩

end

/-! A tree of one package -/

def parcel : Files.Node :=
  .directory [("src", .directory [("p", .directory
    [("__init__.py", .file (Files.bytesOf "class A:\n    x: int\n"))])])]

def parcelWalk : Walk := ⟨⟨"", ["src"]⟩, "crate"⟩

def parcelPath : TargetPath := ⟨["crate", "p", "A"], by decide, by decide⟩

def entryPath : TargetPath := ⟨["crate", "p", "__init__", "A"], by decide, by decide⟩

/-- The class of the package is found under two paths. -/
theorem finds_apart_parcel :
    parcelPath ≠ entryPath ∧
      ∃ schema, parcelWalk.resolve parcel parcelPath = .ok schema ∧
        parcelWalk.resolve parcel entryPath = .ok schema := by
  obtain ⟨schema, hfound⟩ := exists_of_isOk (parcelWalk.resolve parcel parcelPath) (by decide +kernel)
  obtain ⟨schema', hfound'⟩ := exists_of_isOk (parcelWalk.resolve parcel entryPath) (by decide +kernel)
  obtain ⟨_, _, _, _, _, _, -, -, -, hsame⟩ :=
    finds_apart parcelWalk parcel parcelPath entryPath {} {} schema schema' hfound hfound'
  have hdoubles : Doubles parcelWalk parcel parcelPath entryPath := ⟨⟨rfl, by decide +kernel⟩, rfl⟩
  rw [← hsame (.inr (.inl hdoubles))] at hfound'
  exact ⟨by decide, schema, hfound, hfound'⟩

end Walk
end Crosswalk

import Crosswalk.Proofs.Files.Lookup
import Crosswalk.SourceUnit

/-! What a file gives as a unit. Only the place of a report depends on where the file is asked for. The
schemas of a unit stand in the order of its classes, so the first class of a name gives the first schema
of that name. -/

namespace Crosswalk

open Code (ClassDeclaration Interpreter TextFault)

/-! Schemas of classes -/

/-- A schema that is read off a class. -/
def Schema.Declared (s : Schema) : Prop := ∃ i d file, Schema.ofClass i d file = .ok s

theorem identifier_of_ofClass {i : Interpreter} (d : ClassDeclaration) (file : Option Files.Path)
    (schema : Schema) (h : Schema.ofClass i d file = .ok schema) : schema.identifier = d.name := by
  unfold Schema.ofClass at h
  obtain ⟨members, -, hschema⟩ := exists_of_bind_ok _ _ _ h
  cases hschema
  rfl

/-- The first class of a name gives the first schema of that name. -/
theorem find?_schemas {i : Interpreter} (classes : List ClassDeclaration) (file : Option Files.Path)
    (schemas : List Schema) (h : classes.mapM (Schema.ofClass i · file) = .ok schemas)
    (identifier : String) :
    match classes.find? (·.name == identifier) with
    | none => schemas.find? (·.identifier == identifier) = none
    | some d => ∃ schema, Schema.ofClass i d file = .ok schema ∧
        schemas.find? (·.identifier == identifier) = some schema := by
  induction classes generalizing schemas with
  | nil =>
    cases h
    rfl
  | cons d rest ih =>
    obtain ⟨first, others, hfirst, hothers, rfl⟩ := exists_of_mapM_cons _ d rest schemas h
    have hname := identifier_of_ofClass d file first hfirst
    by_cases hd : d.name = identifier
    · have hclass : (d.name == identifier) = true := beq_iff_eq.mpr hd
      have hschema : (first.identifier == identifier) = true := by rw [hname, hclass]
      simp only [List.find?_cons, hclass, hschema]
      exact ⟨first, hfirst, rfl⟩
    · have hclass : (d.name == identifier) = false := beq_eq_false_iff_ne.mpr hd
      have hschema : (first.identifier == identifier) = false := by rw [hname, hclass]
      simp only [List.find?_cons, hclass, hschema]
      exact ih others hothers

/-! Loading -/

namespace SourceUnit

/-- A unit is made of the classes among the statements that its text is read as. -/
theorem exists_statements (i : Interpreter) (file : Files.Path) (bytes : List UInt8) (u : SourceUnit)
    (h : ofBytes? i file bytes = .ok (some u)) :
    ∃ source statements, Code.parseModule? i.character? source = some statements ∧
      u = ⟨file, statements.filterMap Code.Statement.record?⟩ := by
  unfold ofBytes? at h
  split at h
  · cases h
  · rename_i text htext
    obtain ⟨found, hfound, h⟩ := exists_of_map_ok _ _ _ h
    cases found with
    | none => cases h
    | some statements =>
      cases h
      unfold Interpreter.statements? at hfound
      split at hfound
      · cases hfound
      · exact ⟨_, statements, Except.ok.inj hfound, rfl⟩

theorem path_of_ofBytes? (i : Interpreter) (file : Files.Path) (bytes : List UInt8) (u : SourceUnit)
    (h : ofBytes? i file bytes = .ok (some u)) : u.path = file := by
  obtain ⟨-, -, -, rfl⟩ := exists_statements i file bytes u h
  rfl

section

variable (host : Host) (file : Files.Path)

theorem read_of_error (reason : Files.FileError) (h : Files.read host file = .ok (.error reason)) :
    read host file = .ok (.error (.unopened reason)) := by
  unfold read
  rw [h]
  rfl

theorem read_of_bytes (bytes : List UInt8) (h : Files.read host file = .ok (.ok bytes)) :
    read host file =
      match ofBytes? host.interpreter file bytes with
      | .ok (some u) => .ok (.ok u)
      | .ok none => .ok (.error .unreadable)
      | .error fault => .error (.text fault) := by
  unfold read
  rw [h]
  simp only [bind, Except.bind, mapError_ok]
  cases ofBytes? host.interpreter file bytes with
  | error fault => rfl
  | ok found => cases found <;> rfl

theorem load_of_fault (fault : Fault) (hread : read host file = .error fault) (location : Location)
    (kind : ErrorKind) : load host file location kind = .error (.stopped fault) := by
  unfold load
  rw [hread]
  rfl

theorem load_of_problem (p : UnitProblem) (hread : read host file = .ok (.error p))
    (location : Location) (kind : ErrorKind) :
    load host file location kind = .error (.reported ⟨kind, p.message file, location⟩) := by
  unfold load
  rw [hread]
  rfl

theorem load_of_unit (u : SourceUnit) (hread : read host file = .ok (.ok u)) (location : Location)
    (kind : ErrorKind) : load host file location kind = .ok u := by
  unfold load
  rw [hread]
  rfl

/-- A file that is read is read wherever it is asked for. -/
theorem load_ok (u : SourceUnit) (location : Location) (h : load host file location = .ok u)
    (place : Location) : load host file place = .ok u := by
  unfold load at h ⊢
  obtain ⟨found, hread, h⟩ := exists_of_bind_ok _ _ _ h
  rw [hread]
  cases found with
  | ok found => exact h
  | error problem => cases h

/-- What a file gives, wherever it is asked for. -/
inductive Gives : Prop
  | unit (u : SourceUnit) (hpath : u.path = file) (h : ∀ location, load host file location = .ok u)
  | problem (p : UnitProblem)
      (h : ∀ location, load host file location =
        .error (.reported ⟨.pathResolution, p.message file, location⟩))
  | exhausted (fault : TextFault)
      (h : ∀ location, load host file location = .error (.stopped (.text fault)))

theorem gives_of_not_hasNull (hnull : Files.hasNull file = false) : Gives host file := by
  obtain ⟨found, hfound⟩ := Files.exists_read host file hnull
  cases found with
  | error reason =>
    have hread := read_of_error host file reason hfound
    exact .problem _ fun location => load_of_problem host file _ hread location _
  | ok bytes =>
    have hread := read_of_bytes host file bytes hfound
    cases hbytes : ofBytes? host.interpreter file bytes with
    | error fault =>
      rw [hbytes] at hread
      exact .exhausted fault fun location => load_of_fault host file _ hread location _
    | ok found =>
      rw [hbytes] at hread
      cases found with
      | some u =>
        exact .unit u (path_of_ofBytes? _ file bytes u hbytes) fun location =>
          load_of_unit host file u hread location _
      | none =>
        exact .problem .unreadable fun location => load_of_problem host file _ hread location _

/-- What is no file cannot be opened. -/
theorem load_of_not_file (hnull : Files.hasNull file = false)
    (hfile : Files.isFile? host file ≠ .ok true) :
    ∃ reason, ∀ location, load host file location =
      .error (.reported ⟨.pathResolution, (UnitProblem.unopened reason).message file, location⟩) := by
  have hread : ∃ reason, Files.read host file = .ok (.error reason) := by
    rw [ne_eq, Files.isFile?_eq_true_iff, not_and] at hfile
    unfold Files.read
    rw [hnull, if_neg Bool.false_ne_true]
    split
    · exact ⟨_, rfl⟩
    · rename_i bytes hlocate
      exact absurd ⟨bytes, hlocate⟩ (hfile hnull)
    · exact ⟨_, rfl⟩
  obtain ⟨reason, hread⟩ := hread
  exact ⟨reason, fun location =>
    load_of_problem host file _ (read_of_error host file reason hread) location _⟩

end

end SourceUnit
end Crosswalk

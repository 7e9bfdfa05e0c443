import Crosswalk.Request

/-! Which decorators are reported: those that name a mode and are not called with one path, or with one
sequence of paths. -/

namespace Crosswalk.Request

open Code (Constant Expr Position)

/-- The elements written in an argument: a constant stands for itself, a sequence for its parts. -/
inductive Written : Expr → List Expr → Prop
  | constant (p : Position) (value : Constant) : Written (.constant p value) [.constant p value]
  | list (p : Position) (elements : List Expr) : Written (.list p elements) elements
  | tuple (p : Position) (elements : List Expr) : Written (.tuple p elements) elements

/-- What an element is read as. -/
inductive ReadsAs : Expr → Except Problem TargetPath → Prop
  | path (p : Position) (text : List Text.CodePoint) (marked : Bool) (path : TargetPath)
    (h : TargetPath.parse text = .ok path) : ReadsAs (.constant p (.text text marked)) (.ok path)
  | badPath (p : Position) (text : List Text.CodePoint) (marked : Bool) (reason : PathError)
    (h : TargetPath.parse text = .error reason) :
    ReadsAs (.constant p (.text text marked)) (.error (.badPath reason))
  | notText (e : Expr) (h : ∀ p text marked, e ≠ .constant p (.text text marked)) :
    ReadsAs e (.error .notText)

theorem readsAs_iff (e : Expr) (answer : Except Problem TargetPath) :
    ReadsAs e answer ↔ path e = answer := by
  constructor
  · intro h
    cases h with
    | path p text marked found hparse =>
      dsimp only [path]
      rw [hparse]
      rfl
    | badPath p text marked reason hparse =>
      dsimp only [path]
      rw [hparse]
      rfl
    | notText e h =>
      unfold path
      split
      · exact absurd rfl (h _ _ _)
      · rfl
  · rintro rfl
    unfold path
    split
    · rename_i p text marked
      cases hparse : TargetPath.parse text with
      | ok found => exact .path p text marked found hparse
      | error reason => exact .badPath p text marked reason hparse
    · rename_i h
      exact .notText e fun p text marked heq => h p text marked heq

/-- An element that is a text with a path in it. -/
def IsPath (element : Expr) : Prop :=
  ∃ p text marked path, element = .constant p (.text text marked) ∧ TargetPath.parse text = .ok path

/-- A decorator that is called with one argument, all whose elements are paths. -/
def WellFormed (decorator : Expr) : Prop :=
  ∃ p callee argument elements, decorator = .call p callee [argument] [] ∧
    Written argument elements ∧ ∀ e ∈ elements, IsPath e

theorem elements?_eq_some_iff (decorator : Expr) (elements : List Expr) :
    elements? decorator = some elements ↔
      ∃ p callee argument, decorator = .call p callee [argument] [] ∧ Written argument elements := by
  constructor
  · intro h
    unfold elements? at h
    split at h <;> cases h
    · exact ⟨_, _, _, rfl, .constant _ _⟩
    · exact ⟨_, _, _, rfl, .list _ _⟩
    · exact ⟨_, _, _, rfl, .tuple _ _⟩
  · rintro ⟨p, callee, argument, rfl, hwritten⟩
    cases hwritten <;> rfl

theorem elementError?_eq_none_iff (file : Option Files.Path) (element : Expr) :
    elementError? file element = none ↔ IsPath element := by
  constructor
  · intro h
    unfold elementError? at h
    split at h
    · rename_i found hpath
      cases (readsAs_iff element _).mpr hpath with
      | path p text marked _ hparse => exact ⟨p, text, marked, found, rfl, hparse⟩
    · cases h
  · rintro ⟨p, text, marked, found, rfl, hparse⟩
    rw [elementError?, (readsAs_iff _ _).mp (.path p text marked found hparse)]

/-- A decorator with a mode is reported if it is not well-formed, and others never are. -/
theorem problems_ofDecorator (file : Option Files.Path) (decorator : Expr) :
    (ofDecorator file decorator).2 = [] ↔
      ∀ mode, decoratorMode? decorator = some mode → WellFormed decorator := by
  unfold ofDecorator
  cases hmode : decoratorMode? decorator with
  | none => simp
  | some mode =>
    dsimp only
    cases helements : elements? decorator with
    | none =>
      constructor
      · intro h
        cases h
      · intro h
        obtain ⟨p, callee, argument, elements, hcall, hwritten, -⟩ := h mode rfl
        rw [(elements?_eq_some_iff decorator elements).mpr ⟨p, callee, argument, hcall, hwritten⟩]
          at helements
        cases helements
    | some elements =>
      obtain ⟨p, callee, argument, hcall, hwritten⟩ :=
        (elements?_eq_some_iff decorator elements).mp helements
      dsimp only
      simp only [List.filterMap_eq_nil_iff, elementError?_eq_none_iff]
      constructor
      · intro h _ _
        exact ⟨p, callee, argument, elements, hcall, hwritten, h⟩
      · intro h
        obtain ⟨p', callee', argument', elements', hcall', hwritten', hpaths⟩ := h mode rfl
        have hsame := (elements?_eq_some_iff decorator elements').mpr
          ⟨p', callee', argument', hcall', hwritten'⟩
        rw [helements] at hsame
        cases hsame
        exact hpaths

theorem problems_ofDecorators (file : Option Files.Path) (decorators : List Expr) :
    (ofDecorators file decorators).2 = [] ↔
      ∀ decorator ∈ decorators, ∀ mode, decoratorMode? decorator = some mode →
        WellFormed decorator := by
  unfold ofDecorators
  simp only [List.flatMap_map, List.flatMap_eq_nil_iff, problems_ofDecorator]

/-- The words of a misused decorator begin differently from those of its elements. -/
theorem head_message (p : Problem) :
    p.message.toList.head? = some (if p = .usage then 'i' else 'O') := by
  cases p with
  | usage => decide +kernel
  | notText => decide +kernel
  | badPath reason =>
    unfold Problem.message
    generalize reason.message = rest
    rw [String.toList_append, List.head?_append]
    rfl

theorem eq_usage_of_message (p : Problem) (h : p.message = Problem.usage.message) : p = .usage := by
  have hhead := head_message p
  rw [h, head_message, if_pos rfl, Option.some_inj] at hhead
  split at hhead
  · assumption
  · exact absurd hhead (by decide)

/-- All that is told of decorators is one of their problems. -/
theorem exists_problem (file : Option Files.Path) (decorators : List Expr) (d : Diagnostic)
    (h : d ∈ (ofDecorators file decorators).2) :
    ∃ (p : Problem) (location : Location), d = p.diagnostic location := by
  unfold ofDecorators at h
  dsimp only at h
  rw [List.flatMap_map, List.mem_flatMap] at h
  obtain ⟨decorator, -, h⟩ := h
  unfold ofDecorator at h
  split at h
  · cases h
  dsimp only at h
  split at h
  · exact ⟨_, _, List.mem_singleton.mp h⟩
  · obtain ⟨element, -, herror⟩ := List.mem_filterMap.mp h
    unfold elementError? at herror
    split at herror
    · cases herror
    · cases herror
      exact ⟨_, _, rfl⟩

theorem kind_of_problem (file : Option Files.Path) (decorators : List Expr) (d : Diagnostic)
    (h : d ∈ (ofDecorators file decorators).2) : d.kind = .configuration := by
  obtain ⟨p, location, rfl⟩ := exists_problem file decorators d h
  rfl

/-- A decorator that asks for a mode, but in a wrong way. -/
def Malformed (decorator : Expr) : Prop :=
  (∃ mode, decoratorMode? decorator = some mode) ∧ ¬ WellFormed decorator

theorem exists_malformed_iff (file : Option Files.Path) (decorators : List Expr) :
    (ofDecorators file decorators).2 ≠ [] ↔ ∃ decorator ∈ decorators, Malformed decorator := by
  rw [ne_eq, problems_ofDecorators]
  unfold Malformed
  constructor
  · intro h
    obtain ⟨decorator, h⟩ := Classical.not_forall.mp h
    obtain ⟨hdecorator, h⟩ := Classical.not_forall.mp h
    obtain ⟨mode, h⟩ := Classical.not_forall.mp h
    obtain ⟨hmode, hbad⟩ := Classical.not_forall.mp h
    exact ⟨decorator, hdecorator, ⟨mode, hmode⟩, hbad⟩
  · rintro ⟨decorator, hdecorator, ⟨mode, hmode⟩, hbad⟩ h
    exact hbad (h decorator hdecorator mode hmode)

/-- A decorator that names elements makes a request, and others make none. -/
theorem mem_ofDecorators (file : Option Files.Path) (decorators : List Expr) (request : Request) :
    request ∈ (ofDecorators file decorators).1 ↔
      ∃ decorator ∈ decorators, ∃ mode elements, decoratorMode? decorator = some mode ∧
        elements? decorator = some elements ∧
        request = ofElements mode (Location.ofPosition decorator.position file) elements := by
  have hone : ∀ decorator, (ofDecorator file decorator).1 = some request ↔
      ∃ mode elements, decoratorMode? decorator = some mode ∧
        elements? decorator = some elements ∧
        request = ofElements mode (Location.ofPosition decorator.position file) elements := by
    intro decorator
    unfold ofDecorator
    cases decoratorMode? decorator with
    | none => simp
    | some mode => cases elements? decorator <;> simp [eq_comm]
  unfold ofDecorators
  simp only [List.filterMap_map, List.mem_filterMap, Function.comp_apply, hone]

end Crosswalk.Request

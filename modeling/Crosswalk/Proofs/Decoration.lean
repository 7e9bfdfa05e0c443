import Mathlib.Data.List.Forall2
import Crosswalk.Proofs.Hierarchy
import Crosswalk.Proofs.Request

/-! Decorators as they are applied and as they are read. A literal has a value, which the decorator is
applied to, and a form, which is read in the source: the one is refused where the other is reported. The
record of a class holds the paths that are read, from the decorator next to the class to the one on top. -/

namespace Crosswalk.Decoration

open Code (Constant Expr Position)
open Text (CodePoint)

/-! Values of literals -/

def typeName : Constant → String
  | .none => "NoneType"
  | .boolean _ => "bool"
  | .ellipsis => "ellipsis"
  | .integer _ => "int"
  | .real _ => "float"
  | .imaginary _ => "complex"
  | .text .. => "str"
  | .bytes _ => "bytes"

/-- The type of a number, with a sign or not; a complex one is the sum of two. -/
def numberType? : Expr → Option String
  | .constant _ (.integer _) => some "int"
  | .constant _ (.real _) => some "float"
  | .constant _ (.imaginary _) => some "complex"
  | .unary _ .minus e | .unary _ .plus e => numberType? e
  | .binary _ .add left (.constant _ (.imaginary _))
  | .binary _ .subtract left (.constant _ (.imaginary _)) => (numberType? left).map fun _ => "complex"
  | _ => none

mutual

/-- What a decorator is given for a literal. -/
def valueOf? : Expr → Option Argument
  | .constant _ (.text value _) => some (.text value)
  | .constant _ c => some (.other (typeName c))
  | .list _ elements | .tuple _ elements => (valuesOf? elements).map .sequence
  | .dict _ entries => (entriesOf? entries).map fun _ => .other "dict"
  | e => (numberType? e).map .other

def valuesOf? : List Expr → Option (List Argument)
  | [] => some []
  | e :: rest => do return (← valueOf? e) :: (← valuesOf? rest)

def entriesOf? : List Expr → Option (List (Argument × Argument))
  | [] => some []
  | .entry (some key) value :: rest => do
    return (← valueOf? key, ← valueOf? value) :: (← entriesOf? rest)
  | _ => none

end

/-- Values in sequence are values one by one. -/
theorem forall₂_of_valuesOf? (elements : List Expr) (items : List Argument)
    (h : valuesOf? elements = some items) :
    List.Forall₂ (fun e a => valueOf? e = some a) elements items := by
  induction elements generalizing items with
  | nil =>
    cases h
    exact .nil
  | cons e rest ih =>
    unfold valuesOf? at h
    obtain ⟨a, ha, h⟩ := Option.bind_eq_some_iff.mp h
    obtain ⟨others, hothers, h⟩ := Option.bind_eq_some_iff.mp h
    cases h
    exact .cons ha (ih others hothers)

/-- A literal is a text, a sequence, or neither in its value as in its form. -/
inductive Shape : Expr → Argument → Prop
  | text (p : Position) (value : List CodePoint) (marked : Bool) :
    Shape (.constant p (.text value marked)) (.text value)
  | constant (p : Position) (c : Constant) (h : ∀ value marked, c ≠ .text value marked) :
    Shape (.constant p c) (.other (typeName c))
  | list (p : Position) (elements : List Expr) (items : List Argument)
      (h : List.Forall₂ (fun e a => valueOf? e = some a) elements items) :
    Shape (.list p elements) (.sequence items)
  | tuple (p : Position) (elements : List Expr) (items : List Argument)
      (h : List.Forall₂ (fun e a => valueOf? e = some a) elements items) :
    Shape (.tuple p elements) (.sequence items)
  | other (e : Expr) (type : String) (hconstant : ∀ p c, e ≠ .constant p c)
      (hlist : ∀ p elements, e ≠ .list p elements) (htuple : ∀ p elements, e ≠ .tuple p elements) :
    Shape e (.other type)

theorem shape_of_valueOf? (e : Expr) (a : Argument) (h : valueOf? e = some a) : Shape e a := by
  unfold valueOf? at h
  split at h
  · cases h
    exact .text _ _ _
  · rename_i p c hnot
    cases h
    exact .constant p c fun value marked heq => hnot value marked heq
  · rename_i p elements
    obtain ⟨items, hitems, rfl⟩ := Option.map_eq_some_iff.mp h
    exact .list p elements items (forall₂_of_valuesOf? elements items hitems)
  · rename_i p elements
    obtain ⟨items, hitems, rfl⟩ := Option.map_eq_some_iff.mp h
    exact .tuple p elements items (forall₂_of_valuesOf? elements items hitems)
  · obtain ⟨entries, -, rfl⟩ := Option.map_eq_some_iff.mp h
    exact .other _ _ nofun nofun nofun
  · rename_i hconstant hlist htuple _
    obtain ⟨type, -, rfl⟩ := Option.map_eq_some_iff.mp h
    exact .other _ _ (fun p c heq => hconstant p c heq) (fun p l heq => hlist p l heq)
      fun p l heq => htuple p l heq

/-! One decorator -/

section

variable (file : Option Files.Path)

/-- What the values of elements come to, and what is read of the elements: the same paths, or a refusal
and a report. -/
inductive Agrees (elements : List Expr) : Except DeclarationError (List (List CodePoint)) → Prop
  | accepted (texts : List (List CodePoint)) (paths : List TargetPath)
      (hparse : texts.mapM TargetPath.parse = .ok paths)
      (hpaths : elements.filterMap (fun e => (Request.path e).toOption) = paths)
      (herrors : elements.filterMap (Request.elementError? file) = []) :
    Agrees elements (.ok texts)
  | refused (reason : DeclarationError)
      (herrors : elements.filterMap (Request.elementError? file) ≠ []) :
    Agrees elements (.error reason)

theorem agrees_of_error (e : Expr) (rest : List Expr) (reason : DeclarationError)
    (problem : Request.Problem) (h : Request.path e = .error problem) :
    Agrees file (e :: rest) (.error reason) := by
  have herror : Request.elementError? file e =
      some (problem.diagnostic (Location.ofPosition e.position file)) := by
    rw [Request.elementError?, h]
  refine .refused reason ?_
  rw [List.filterMap_cons_some herror]
  exact List.cons_ne_nil _ _

/-- A value is refused as an element just where its form is reported. -/
theorem path_of_shape (e : Expr) (a : Argument) (h : Shape e a) :
    (∃ text path, a.path = .ok text ∧ TargetPath.parse text = .ok path ∧ Request.path e = .ok path) ∨
      ∃ reason problem, a.path = .error reason ∧ Request.path e = .error problem := by
  cases h with
  | text p value marked =>
    unfold Argument.path Request.path
    dsimp only
    cases hparse : TargetPath.parse value with
    | ok path => exact .inl ⟨value, path, rfl, hparse, rfl⟩
    | error reason => exact .inr ⟨_, _, rfl, rfl⟩
  | constant p c hnot =>
    refine .inr ⟨.notText, .notText, rfl, ?_⟩
    cases c with
    | text value marked => exact absurd rfl (hnot value marked)
    | _ => rfl
  | list p elements items _ => exact .inr ⟨.notText, .notText, rfl, rfl⟩
  | tuple p elements items _ => exact .inr ⟨.notText, .notText, rfl, rfl⟩
  | other e type hconstant _ _ =>
    refine .inr ⟨.notText, .notText, rfl, ?_⟩
    cases e with
    | constant p c => exact absurd rfl (hconstant p c)
    | _ => rfl

theorem agrees_elements (elements : List Expr) (items : List Argument)
    (h : List.Forall₂ (fun e a => valueOf? e = some a) elements items) :
    Agrees file elements (items.mapM Argument.path) := by
  induction h with
  | nil => exact .accepted [] [] rfl rfl rfl
  | @cons e a elements items hvalue _ ih =>
    rw [List.mapM_cons]
    rcases path_of_shape e a (shape_of_valueOf? e a hvalue) with
      ⟨text, path, hpath, hparse, hread⟩ | ⟨reason, problem, hpath, hread⟩
    · have hsome : (Request.path e).toOption = some path := by rw [hread]; rfl
      have hnone : Request.elementError? file e = none := by rw [Request.elementError?, hread]
      rw [hpath]
      generalize items.mapM Argument.path = result at ih ⊢
      cases ih with
      | accepted texts paths hparses hpaths herrors =>
        refine .accepted (text :: texts) (path :: paths) ?_ ?_ ?_
        · rw [List.mapM_cons, hparse, hparses]
          rfl
        · rw [List.filterMap_cons, hsome, hpaths]
        · rw [List.filterMap_cons_none hnone, herrors]
      | refused reason herrors =>
        refine .refused reason ?_
        rw [List.filterMap_cons_none hnone]
        exact herrors
    · rw [hpath]
      exact agrees_of_error file e elements reason problem hread

/-- How a decorator is applied to the value of a literal and how it is read with its form: both give the
same paths, or the value is refused and the form is reported. -/
inductive Alike (mode : Mode) (location : Location) :
    Except DeclarationError (List (List CodePoint)) → Option Request × List Diagnostic → Prop
  | accepted (texts : List (List CodePoint)) (paths : List TargetPath)
      (hparse : texts.mapM TargetPath.parse = .ok paths) :
    Alike mode location (.ok texts) (some ⟨mode, paths, location⟩, [])
  | refused (reason : DeclarationError) (read : Option Request × List Diagnostic) (h : read.2 ≠ []) :
    Alike mode location (.error reason) read

section

variable (p : Position) (callee e : Expr) (mode : Mode)
  (hcallee : Request.modeOf? callee = some mode)

include hcallee

theorem alike_of_agrees (result : Except DeclarationError (List (List CodePoint)))
    (elements : List Expr)
    (helements : Request.elements? (.call p callee [e] []) = some elements)
    (h : Agrees file elements result) :
    Alike mode (Location.ofPosition p file) result
      (Request.ofDecorator file (.call p callee [e] [])) := by
  unfold Request.ofDecorator
  rw [show Request.decoratorMode? (.call p callee [e] []) = some mode from hcallee, helements]
  cases h with
  | accepted texts paths hparse hpaths herrors =>
    dsimp only
    rw [herrors, Request.ofElements, hpaths]
    exact .accepted texts paths hparse
  | refused reason herrors => exact .refused reason _ herrors

/-- A decorator of one literal. -/
theorem alike_ofDecorator (a : Argument) (hvalue : valueOf? e = some a) :
    Alike mode (Location.ofPosition p file) (a.paths mode)
      (Request.ofDecorator file (.call p callee [e] [])) := by
  cases shape_of_valueOf? e a hvalue with
  | text q value marked =>
    have hone : (Argument.text value).paths mode = [Argument.text value].mapM Argument.path := by
      rw [List.mapM_cons, List.mapM_nil]
      change (Argument.text value).path.map (fun p => [p]) = _
      cases (Argument.text value).path <;> rfl
    rw [hone]
    exact alike_of_agrees file p callee _ mode hcallee _ _ rfl
      (agrees_elements file _ _ (.cons hvalue .nil))
  | constant q c hnot =>
    refine alike_of_agrees file p callee _ mode hcallee _ _ rfl ?_
    obtain ⟨text, path, hpath, -⟩ | ⟨reason, problem, -, hpath⟩ :=
      path_of_shape _ _ (.constant q c hnot)
    · cases hpath
    · exact agrees_of_error file _ [] _ problem hpath
  | list q elements items hitems =>
    exact alike_of_agrees file p callee _ mode hcallee _ elements rfl
      (agrees_elements file elements items hitems)
  | tuple q elements items hitems =>
    exact alike_of_agrees file p callee _ mode hcallee _ elements rfl
      (agrees_elements file elements items hitems)
  | other e type hconstant hlist htuple =>
    have hnone : Request.elements? (.call p callee [e] []) = none := by
      cases e with
      | constant q c => exact absurd rfl (hconstant q c)
      | list q elements => exact absurd rfl (hlist q elements)
      | tuple q elements => exact absurd rfl (htuple q elements)
      | _ => rfl
    unfold Request.ofDecorator
    rw [show Request.decoratorMode? (.call p callee [e] []) = some mode from hcallee, hnone]
    exact .refused _ _ (List.cons_ne_nil _ _)

end

end

/-! A stack of decorators -/

/-- A decorator that is called with a literal, as it is applied: its mode and the value. -/
def decoration? : Expr → Option (Mode × Argument)
  | .call _ callee [argument] [] => do return (← Request.modeOf? callee, ← valueOf? argument)
  | _ => none

theorem exists_of_decoration? (decorator : Expr) (mode : Mode) (a : Argument)
    (h : decoration? decorator = some (mode, a)) :
    ∃ p callee e, decorator = .call p callee [e] [] ∧ Request.modeOf? callee = some mode ∧
      valueOf? e = some a := by
  unfold decoration? at h
  split at h
  · rename_i p callee e
    obtain ⟨mode', hmode, h⟩ := Option.bind_eq_some_iff.mp h
    obtain ⟨a', ha, h⟩ := Option.bind_eq_some_iff.mp h
    cases h
    exact ⟨p, callee, e, rfl, hmode, ha⟩
  · cases h

/-- Applies decorators to a class. The last is next to the class and is applied first. -/
def applyAll (h : Hierarchy) (c : ClassId) :
    List (Mode × Argument) → Except DeclarationError Hierarchy
  | [] => .ok h
  | (mode, argument) :: rest => do (← applyAll h c rest).decorate c mode argument

/-- The paths a class shows for a mode. -/
def recorded (h : Hierarchy) (c : ClassId) (mode : Mode) : List (List CodePoint) :=
  (OrderedMap.get? (h.targets c) mode).getD []

/-- The paths that requests read for a mode, the last request first. -/
def upward (requests : List Request) (mode : Mode) : List TargetPath :=
  (requests.reverse.filter fun r => r.mode = mode).flatMap (·.paths)

theorem upward_cons (request : Request) (rest : List Request) (mode : Mode) :
    upward (request :: rest) mode =
      upward rest mode ++ if request.mode = mode then request.paths else [] := by
  unfold upward
  rw [List.reverse_cons, List.filter_append, List.flatMap_append]
  by_cases hmode : request.mode = mode <;> simp [hmode]

/-- A class whose own record is that of some requests, and that inherits from no class with a record. -/
structure Holds (h : Hierarchy) (c : ClassId) (requests : List Request) : Prop where
  made : (h.get? c).isSome = true
  first : ∃ rest, h.orderOf c = c :: rest
  others : ∀ a ∈ h.orderOf c, a ≠ c → h.ownRecord? a = none
  record : ∀ mode, ((OrderedMap.get? ((h.ownRecord? c).getD .empty) mode).getD []).mapM
    TargetPath.parse = .ok (upward requests mode)

section

variable (h : Hierarchy) (c : ClassId)

/-- Such a class shows its own record. -/
theorem targets_eq (requests : List Request) (hholds : Holds h c requests) :
    h.targets c = (h.ownRecord? c).getD .empty := by
  obtain ⟨rest, hrest⟩ := hholds.first
  unfold Hierarchy.targets
  rw [hrest, List.findSome?_cons]
  cases hown : h.ownRecord? c with
  | some record => rfl
  | none =>
    have hnone : rest.findSome? h.ownRecord? = none := by
      rw [List.findSome?_eq_none_iff]
      intro a ha
      by_cases hself : a = c
      · rw [hself, hown]
      · exact hholds.others a (by rw [hrest]; exact List.mem_cons_of_mem c ha) hself
    rw [hnone]

theorem getD_declare (mode other : Mode) (texts : List (List CodePoint)) (record : TargetRecord) :
    (OrderedMap.get? (record.declare mode texts) other).getD [] =
      (OrderedMap.get? record other).getD [] ++ if mode = other then texts else [] := by
  rw [Hierarchy.get?_declare]
  by_cases hmode : mode = other
  · rw [if_pos hmode, if_pos hmode, Option.getD_some]
  · rw [if_neg hmode, if_neg hmode, List.append_nil]

/-- One decorator more. -/
theorem holds_decorate (requests : List Request) (hholds : Holds h c requests) (mode : Mode)
    (a : Argument) (texts : List (List CodePoint)) (ha : a.paths mode = .ok texts)
    (paths : List TargetPath) (hparse : texts.mapM TargetPath.parse = .ok paths)
    (location : Location) :
    ∃ h', h.decorate c mode a = .ok h' ∧ Holds h' c (⟨mode, paths, location⟩ :: requests) := by
  have hc : c < h.classes.length := by
    obtain ⟨x, hx⟩ := Option.isSome_iff_exists.mp hholds.made
    exact (List.getElem?_eq_some_iff.mp hx).1
  refine ⟨h.decorated c mode texts, ?_, ?_, ?_, ?_, ?_⟩
  · exact (h.decorate_eq_ok_iff c mode a _).mpr ⟨texts, ha, rfl⟩
  · rw [Hierarchy.get?_decorated, Option.isSome_map]
    exact hholds.made
  · rw [Hierarchy.orderOf_decorated]
    exact hholds.first
  · intro b hb hne
    rw [Hierarchy.orderOf_decorated] at hb
    rw [Hierarchy.ownRecord?_decorated_of_ne h c mode texts b hne]
    exact hholds.others b hb hne
  · intro other
    rw [Hierarchy.ownRecord?_decorated_self h c mode texts hc, Option.getD_some, getD_declare,
      upward_cons, List.mapM_append, hholds.record other]
    by_cases hmode : mode = other
    · rw [if_pos hmode, if_pos hmode, hparse]
      rfl
    · rw [if_neg hmode, if_neg hmode]
      rfl

/-- A new class holds nothing. -/
theorem holds_define (name : String) (bases : List ClassId) (h₁ : Hierarchy)
    (hdefine : h.define name bases = .ok h₁)
    (hbases : ∀ a ∈ h₁.orderOf h.classes.length, a ≠ h.classes.length → h₁.ownRecord? a = none) :
    Holds h₁ h.classes.length [] := by
  obtain ⟨-, -, rest, -, hnew⟩ := Hierarchy.get?_of_define h name bases h₁ hdefine
  refine ⟨by rw [hnew]; rfl, ⟨rest, ?_⟩, hbases, fun mode => ?_⟩
  · rw [Hierarchy.orderOf, hnew]
    rfl
  · rw [Hierarchy.ownRecord?, hnew]
    rfl

/-- All decorators. -/
theorem holds_applyAll (file : Option Files.Path) (decorators : List Expr)
    (stack : List (Mode × Argument)) (hstack : decorators.mapM decoration? = some stack)
    (haccepted : (Request.ofDecorators file decorators).2 = []) (hholds : Holds h c []) :
    ∃ h', applyAll h c stack = .ok h' ∧ Holds h' c (Request.ofDecorators file decorators).1 := by
  induction decorators generalizing stack with
  | nil =>
    cases hstack
    exact ⟨h, rfl, hholds⟩
  | cons decorator rest ih =>
    rw [List.mapM_cons] at hstack
    obtain ⟨⟨mode, a⟩, hfirst, hstack⟩ := Option.bind_eq_some_iff.mp hstack
    obtain ⟨others, hothers, hstack⟩ := Option.bind_eq_some_iff.mp hstack
    cases hstack
    unfold Request.ofDecorators at haccepted ⊢
    dsimp only at haccepted ⊢
    rw [List.map_cons, List.flatMap_cons, List.append_eq_nil_iff] at haccepted
    rw [List.map_cons, List.filterMap_cons]
    obtain ⟨h', happly, hbefore⟩ := ih others hothers haccepted.2
    obtain ⟨p, callee, e, rfl, hcallee, hvalue⟩ := exists_of_decoration? decorator mode a hfirst
    have halike := alike_ofDecorator file p callee e mode hcallee a hvalue
    generalize hpaths : a.paths mode = result at halike
    generalize Request.ofDecorator file (.call p callee [e] []) = read at halike haccepted ⊢
    cases halike with
    | accepted texts paths hparse =>
      obtain ⟨h'', hdecorate, hafter⟩ := holds_decorate h' c _ hbefore mode a texts hpaths paths hparse
        (Location.ofPosition p file)
      refine ⟨h'', ?_, hafter⟩
      unfold applyAll
      rw [happly]
      exact hdecorate
    | refused reason read herrors => exact absurd haccepted.1 herrors

end

/-- A decorator is refused for a literal just where it is reported in the source. Decorators that are not
refused leave the class with the paths that are read from them, mode by mode, from the last of them to the
first. -/
theorem decorators_agree :
    (∀ (file : Option Files.Path) (p : Position) (callee e : Expr) (mode : Mode) (a : Argument),
      Request.modeOf? callee = some mode → valueOf? e = some a → ∀ (h : Hierarchy) (c : ClassId),
        ((∃ reason, h.decorate c mode a = .error reason) ↔
          (Request.ofDecorator file (.call p callee [e] [])).2 ≠ [])) ∧
    ∀ (file : Option Files.Path) (decorators : List Expr) (stack : List (Mode × Argument)),
      decorators.mapM decoration? = some stack → (Request.ofDecorators file decorators).2 = [] →
      ∀ (h : Hierarchy) (name : String) (bases : List ClassId) (h₁ : Hierarchy),
        h.define name bases = .ok h₁ →
        (∀ a ∈ h₁.orderOf h.classes.length, a ≠ h.classes.length → h₁.ownRecord? a = none) →
        ∃ h₂, applyAll h₁ h.classes.length stack = .ok h₂ ∧
          ∀ mode, (recorded h₂ h.classes.length mode).mapM TargetPath.parse =
            .ok (upward (Request.ofDecorators file decorators).1 mode) := by
  constructor
  · intro file p callee e mode a hcallee hvalue h c
    have halike := alike_ofDecorator file p callee e mode hcallee a hvalue
    unfold Hierarchy.decorate
    generalize a.paths mode = result at halike ⊢
    generalize Request.ofDecorator file (.call p callee [e] []) = read at halike ⊢
    cases halike with
    | accepted texts paths hparse =>
      refine iff_of_false ?_ (not_not_intro rfl)
      rintro ⟨reason, hreason⟩
      cases hreason
    | refused reason read herrors => exact iff_of_true ⟨reason, rfl⟩ herrors
  · intro file decorators stack hstack haccepted h name bases h₁ hdefine hbases
    obtain ⟨h₂, happly, hholds⟩ := holds_applyAll h₁ h.classes.length file decorators stack hstack
      haccepted (holds_define h name bases h₁ hdefine hbases)
    refine ⟨h₂, happly, fun mode => ?_⟩
    unfold recorded
    rw [targets_eq h₂ h.classes.length _ hholds]
    exact hholds.record mode

/-! A sign with three decorators -/

def signText : String :=
  "@merge(('crate.a.A', 'crate.b.B'))\n@into('crate.a.A')\n@merge([' crate::c::C '])\n" ++
    "class S(P):\n    x: int\n"

def signDecorators : List Expr :=
  match Schema.parse {} signText with
  | .ok source => source.decorators
  | .error _ => []

def plainBase : LiveClass := { name := "P", order := [0] }

def beforeSign : Hierarchy := ⟨[plainBase]⟩

def bareSign : Hierarchy := ⟨[plainBase, { name := "S", order := [1, 0] }]⟩

/-- A dictionary is refused and reported; the paths of the sign are recorded from the bottom to the top. -/
theorem decorators_agree_sign :
    (∃ reason, bareSign.decorate 1 .into (.other "dict") = .error reason) ∧
    ∃ stack h, signDecorators.mapM decoration? = some stack ∧ applyAll bareSign 1 stack = .ok h ∧
      (recorded h 1 .merge).mapM TargetPath.parse =
        .ok (upward (Request.ofDecorators none signDecorators).1 .merge) ∧
      (upward (Request.ofDecorators none signDecorators).1 .merge).map (·.toString) =
        ["crate.c.C", "crate.a.A", "crate.b.B"] := by
  have hname : Code.IsName "into" := ⟨"into", by decide, by decide +kernel⟩
  have hdict : (Request.ofDecorator none
      (.call {} (.name {} ⟨"into", hname⟩) [.dict {} []] [])).2 ≠ [] := List.cons_ne_nil _ _
  obtain ⟨stack, hstack⟩ : ∃ stack, signDecorators.mapM decoration? = some stack :=
    Option.isSome_iff_exists.mp (by decide +kernel)
  have haccepted : (Request.ofDecorators none signDecorators).2 = [] :=
    List.isEmpty_iff.mp (by decide +kernel)
  have hbases : ∀ a ∈ bareSign.orderOf 1, a ≠ 1 → bareSign.ownRecord? a = none := by
    intro a ha hne
    rcases List.mem_cons.mp ha with rfl | ha
    · exact absurd rfl hne
    · rw [List.mem_singleton.mp ha]
      rfl
  obtain ⟨hrefused, hread⟩ := decorators_agree
  obtain ⟨h, happly, hrecorded⟩ :=
    hread none signDecorators stack hstack haccepted beforeSign "S" [0] bareSign rfl hbases
  refine ⟨(hrefused none _ _ _ .into (.other "dict") rfl rfl bareSign 1).mpr hdict, stack, h, hstack,
    happly, hrecorded .merge, by decide +kernel⟩

end Crosswalk.Decoration

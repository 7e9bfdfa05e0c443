import Crosswalk.Declaration
import Crosswalk.Proofs.Linearization

/-! Classes and their records through a program. Every class is searched in an order of its own, which keeps
those of all it inherits from and never changes. The record of a class is made of the decorations of that very
class; a class shows the first record in its order, and so a decoration shows where no record comes before. -/

namespace Crosswalk.Hierarchy

open Text (CodePoint)

/-! What is accepted -/

theorem path_eq_ok_iff (a : Argument) (t : List CodePoint) :
    a.path = .ok t ↔ a = .text t ∧ ∃ p, TargetPath.parse t = .ok p := by
  cases a with
  | text value =>
    have hpath : (Argument.text value).path =
        ((TargetPath.parse value).mapError .badPath).map fun _ => value := rfl
    rw [hpath]
    cases hparse : TargetPath.parse value with
    | error e =>
      refine iff_of_false nofun ?_
      rintro ⟨heq, p, hp⟩
      cases heq
      rw [hparse] at hp
      cases hp
    | ok p =>
      constructor
      · intro h
        cases h
        exact ⟨rfl, p, hparse⟩
      · rintro ⟨heq, -⟩
        cases heq
        rfl
  | sequence items => exact iff_of_false nofun nofun
  | other type => exact iff_of_false nofun nofun

theorem mapM_path_eq_ok_iff (items : List Argument) (texts : List (List CodePoint)) :
    items.mapM Argument.path = .ok texts ↔
      items = texts.map .text ∧ ∀ t ∈ texts, ∃ p, TargetPath.parse t = .ok p := by
  induction items generalizing texts with
  | nil =>
    constructor
    · intro h
      cases h
      exact ⟨rfl, nofun⟩
    · rintro ⟨h, -⟩
      rw [List.map_eq_nil_iff.mp h.symm]
      rfl
  | cons a rest ih =>
    rw [List.mapM_cons]
    constructor
    · intro h
      cases ha : a.path with
      | error e =>
        rw [ha] at h
        cases h
      | ok t =>
        rw [ha] at h
        cases hrest : rest.mapM Argument.path with
        | error e =>
          rw [hrest] at h
          cases h
        | ok others =>
          rw [hrest] at h
          cases h
          obtain ⟨rfl, hparse⟩ := (path_eq_ok_iff a t).mp ha
          obtain ⟨rfl, hothers⟩ := (ih others).mp hrest
          exact ⟨rfl, List.forall_mem_cons.mpr ⟨hparse, hothers⟩⟩
    · rintro ⟨h, hparse⟩
      cases texts with
      | nil => cases h
      | cons t others =>
        obtain ⟨rfl, hrest⟩ := List.cons.inj h
        obtain ⟨hfirst, hothers⟩ := List.forall_mem_cons.mp hparse
        rw [(path_eq_ok_iff _ t).mpr ⟨rfl, hfirst⟩, (ih others).mpr ⟨hrest, hothers⟩]
        rfl

/-- A decorator takes a path or a sequence of paths. -/
theorem paths_eq_ok_iff (mode : Mode) (a : Argument) (texts : List (List CodePoint)) :
    a.paths mode = .ok texts ↔
      ((∃ t, a = .text t ∧ texts = [t]) ∨ a = .sequence (texts.map .text)) ∧
        ∀ t ∈ texts, ∃ p, TargetPath.parse t = .ok p := by
  cases a with
  | text value =>
    have hpaths : (Argument.text value).paths mode = (Argument.text value).path.map fun p => [p] := rfl
    rw [hpaths]
    constructor
    · intro h
      cases hpath : (Argument.text value).path with
      | error e =>
        rw [hpath] at h
        cases h
      | ok t =>
        rw [hpath] at h
        cases h
        obtain ⟨heq, hparse⟩ := (path_eq_ok_iff _ t).mp hpath
        exact ⟨.inl ⟨t, heq, rfl⟩, by simpa using hparse⟩
    · rintro ⟨⟨t, heq, rfl⟩ | heq, hparse⟩
      · rw [(path_eq_ok_iff _ t).mpr ⟨heq, hparse t List.mem_cons_self⟩]
        rfl
      · cases heq
  | sequence items =>
    have hpaths : (Argument.sequence items).paths mode = items.mapM Argument.path := rfl
    rw [hpaths, mapM_path_eq_ok_iff]
    simp
  | other type =>
    refine iff_of_false nofun ?_
    rintro ⟨⟨t, heq, -⟩ | heq, -⟩ <;> cases heq

/-! Decorating -/

/-- All classes after paths were put on one of them. -/
def decorated (h : Hierarchy) (c : ClassId) (mode : Mode) (texts : List (List CodePoint)) : Hierarchy :=
  ⟨h.classes.modify c (declareOn mode texts)⟩

section

variable (h : Hierarchy) (c : ClassId) (mode : Mode) (texts : List (List CodePoint))

theorem decorate_eq_ok_iff (argument : Argument) (h' : Hierarchy) :
    h.decorate c mode argument = .ok h' ↔
      ∃ texts, argument.paths mode = .ok texts ∧ h' = h.decorated c mode texts := by
  unfold decorate
  cases argument.paths mode with
  | error e => exact iff_of_false nofun nofun
  | ok texts =>
    constructor
    · intro hok
      cases hok
      exact ⟨texts, rfl, rfl⟩
    · rintro ⟨texts', heq, rfl⟩
      cases heq
      rfl

theorem length_decorated : (h.decorated c mode texts).classes.length = h.classes.length := by
  simp [decorated]

theorem get?_decorated (d : ClassId) :
    (h.decorated c mode texts).get? d =
      (h.get? d).map fun x => if c = d then declareOn mode texts x else x := by
  unfold decorated get?
  rw [List.getElem?_modify]
  by_cases hd : c = d <;> simp [hd]

/-- No decoration changes an order. -/
theorem orderOf_decorated (d : ClassId) : (h.decorated c mode texts).orderOf d = h.orderOf d := by
  unfold orderOf
  rw [get?_decorated]
  cases h.get? d with
  | none => rfl
  | some x => by_cases hd : c = d <;> simp [hd, declareOn]

theorem ownRecord?_decorated_of_ne (d : ClassId) (hd : d ≠ c) :
    (h.decorated c mode texts).ownRecord? d = h.ownRecord? d := by
  unfold ownRecord?
  rw [get?_decorated]
  simp [Ne.symm hd]

theorem ownRecord?_decorated_self (hc : c < h.classes.length) :
    (h.decorated c mode texts).ownRecord? c =
      some (((h.ownRecord? c).getD .empty).declare mode texts) := by
  unfold ownRecord?
  rw [get?_decorated, show h.get? c = some h.classes[c] from List.getElem?_eq_getElem hc]
  simp [declareOn]

end

/-! Defining -/

section

variable (h : Hierarchy) (name : String) (bases : List ClassId)

theorem define_eq_ok_iff (h' : Hierarchy) :
    h.define name bases = .ok h' ↔
      firstRepeated bases = none ∧
        ∃ rest, Linearization.ofBases (bases.map fun b => (b, h.orderOf b)) = .ok rest ∧
          h' = ⟨h.classes ++ [{ name, order := h.classes.length :: rest }]⟩ := by
  unfold define
  cases firstRepeated bases with
  | some c => exact iff_of_false nofun nofun
  | none =>
    cases Linearization.ofBases (bases.map fun b => (b, h.orderOf b)) with
    | error conflict => exact iff_of_false nofun nofun
    | ok rest =>
      constructor
      · intro hok
        cases hok
        exact ⟨rfl, rest, rfl, rfl⟩
      · rintro ⟨-, rest', heq, rfl⟩
        cases heq
        rfl

/-- A definition leaves the classes that were there, and adds one without a record. -/
theorem get?_of_define (h' : Hierarchy) (hdefine : h.define name bases = .ok h') :
    h'.classes.length = h.classes.length + 1 ∧ (∀ c < h.classes.length, h'.get? c = h.get? c) ∧
      ∃ rest, Linearization.ofBases (bases.map fun b => (b, h.orderOf b)) = .ok rest ∧
        h'.get? h.classes.length = some { name, order := h.classes.length :: rest } := by
  obtain ⟨-, rest, hrest, rfl⟩ := (define_eq_ok_iff h name bases h').mp hdefine
  refine ⟨by simp, fun c hc => List.getElem?_append_left hc, rest, hrest, ?_⟩
  simp [get?]

end

/-! Orders -/

/-- Every class comes first in its own order, and before it come only classes that were made earlier. The
order of a class keeps those of all classes in it. -/
structure Linear (h : Hierarchy) : Prop where
  first : ∀ c < h.classes.length, ∃ rest, h.orderOf c = c :: rest ∧ rest.Nodup ∧ ∀ a ∈ rest, a < c
  keeps : ∀ c, ∀ a ∈ h.orderOf c, (h.orderOf a).Sublist (h.orderOf c)

theorem linear_decorated (h : Hierarchy) (hlinear : Linear h) (c : ClassId) (mode : Mode)
    (texts : List (List CodePoint)) : Linear (h.decorated c mode texts) where
  first d hd := by
    rw [length_decorated] at hd
    rw [orderOf_decorated]
    exact hlinear.first d hd
  keeps d a ha := by
    rw [orderOf_decorated] at ha
    rw [orderOf_decorated, orderOf_decorated]
    exact hlinear.keeps d a ha

theorem le_of_mem_orderOf (h : Hierarchy) (hlinear : Linear h) (c a : ClassId)
    (ha : a ∈ h.orderOf c) : a ≤ c ∧ c < h.classes.length := by
  have hc : c < h.classes.length := by
    by_contra hc
    have hnone : h.get? c = none := List.getElem?_eq_none (Nat.le_of_not_lt hc)
    rw [orderOf, hnone] at ha
    cases ha
  obtain ⟨rest, hrest, -, hlt⟩ := hlinear.first c hc
  rw [hrest] at ha
  rcases List.mem_cons.mp ha with rfl | ha
  · exact ⟨Nat.le_refl a, hc⟩
  · exact ⟨Nat.le_of_lt (hlt a ha), hc⟩

theorem nodup_orderOf (h : Hierarchy) (hlinear : Linear h) (c : ClassId) : (h.orderOf c).Nodup := by
  by_cases hc : c < h.classes.length
  · obtain ⟨rest, hrest, hnodup, hlt⟩ := hlinear.first c hc
    rw [hrest]
    exact List.nodup_cons.mpr ⟨fun hmem => Nat.lt_irrefl c (hlt c hmem), hnodup⟩
  · have hnone : h.get? c = none := List.getElem?_eq_none (Nat.le_of_not_lt hc)
    rw [orderOf, hnone]
    exact List.nodup_nil

/-- The order of a new class is merged from those of its bases, and so keeps what they keep. -/
theorem linear_define (h : Hierarchy) (hlinear : Linear h) (name : String) (bases : List ClassId)
    (hbases : ∀ b ∈ bases, b < h.classes.length) (h' : Hierarchy)
    (hdefine : h.define name bases = .ok h') : Linear h' := by
  obtain ⟨hlength, hold, rest, hrest, hnew⟩ := get?_of_define h name bases h' hdefine
  have horder : ∀ c < h.classes.length, h'.orderOf c = h.orderOf c := fun c hc => by
    rw [orderOf, hold c hc, orderOf]
  have hself : h'.orderOf h.classes.length = h.classes.length :: rest := by
    rw [orderOf, hnew]
    rfl
  obtain ⟨hnodup, horigin, hkeeps⟩ := Linearization.merged_ofBases _ rest hrest
  have hinherited : ∀ a ∈ rest, ∃ b ∈ bases, a ∈ h.orderOf b := by
    intro a ha
    obtain ⟨l, hl, hal⟩ := horigin a ha
    rw [List.map_map, List.map_map, List.mem_append, List.mem_singleton] at hl
    rcases hl with hl | rfl
    · obtain ⟨b, hb, rfl⟩ := List.mem_map.mp hl
      exact ⟨b, hb, hal⟩
    · obtain ⟨b, hb, rfl⟩ := List.mem_map.mp hal
      obtain ⟨others, hothers, -⟩ := hlinear.first b (hbases b hb)
      exact ⟨b, hb, hothers ▸ List.mem_cons_self⟩
  have hkept : ∀ b ∈ bases, (h.orderOf b).Sublist rest := by
    intro b hb
    refine hkeeps _ (List.mem_append_left _ ?_)
    rw [List.map_map]
    exact List.mem_map_of_mem hb
  constructor
  · intro c hc
    rcases Nat.lt_succ_iff_lt_or_eq.mp (hlength ▸ hc) with hc | rfl
    · rw [horder c hc]
      exact hlinear.first c hc
    · refine ⟨rest, hself, hnodup, ?_⟩
      intro a ha
      obtain ⟨b, hb, hab⟩ := hinherited a ha
      exact Nat.lt_of_le_of_lt (le_of_mem_orderOf h hlinear b a hab).1 (hbases b hb)
  · intro c a ha
    by_cases hc : c < h.classes.length
    · rw [horder c hc] at ha ⊢
      rw [horder a (Nat.lt_of_le_of_lt (le_of_mem_orderOf h hlinear c a ha).1 hc)]
      exact hlinear.keeps c a ha
    · by_cases hself' : c = h.classes.length
      · subst hself'
        rw [hself] at ha
        rcases List.mem_cons.mp ha with rfl | ha
        · exact List.Sublist.refl _
        · obtain ⟨b, hb, hab⟩ := hinherited a ha
          have hle := (le_of_mem_orderOf h hlinear b a hab).1
          rw [horder a (Nat.lt_of_le_of_lt hle (hbases b hb)), hself]
          exact ((hlinear.keeps b a hab).trans (hkept b hb)).cons _
      · have hlt : h.classes.length < c :=
          Nat.lt_of_le_of_ne (Nat.le_of_not_lt hc) (Ne.symm hself')
        have hnone : h'.get? c = none := List.getElem?_eq_none (hlength ▸ hlt)
        rw [orderOf, hnone] at ha
        cases ha

/-! Records -/

/-- What decorations of a class give for a mode: all their paths of it, in sequence. -/
def pathsOf (mode : Mode) (decorations : List (Mode × List (List CodePoint))) :
    Option (List (List CodePoint)) :=
  let own := decorations.filter (·.1 = mode)
  if own.isEmpty then none else some (own.flatMap (·.2))

theorem pathsOf_append (decorations : List (Mode × List (List CodePoint))) (mode other : Mode)
    (texts : List (List CodePoint)) :
    pathsOf other (decorations ++ [(mode, texts)]) =
      if mode = other then some ((pathsOf other decorations).getD [] ++ texts)
      else pathsOf other decorations := by
  unfold pathsOf
  rw [List.filter_append]
  by_cases hmode : mode = other
  · by_cases hnone : decorations.filter (·.1 = other) = []
    · simp [hmode, hnone]
    · simp [hmode, hnone]
  · have hother : [(mode, texts)].filter (·.1 = other) = [] := by simp [hmode]
    rw [hother, List.append_nil, if_neg hmode]

/-- A record that is made of decorations: there is one if there are any, its modes come in the order they
were first used in, and each has all the paths of its mode. -/
structure MadeOf (decorations : List (Mode × List (List CodePoint))) (record : Option TargetRecord) :
    Prop where
  exists_iff : record.isSome = true ↔ decorations ≠ []
  modes : OrderedMap.keys (record.getD .empty) = (decorations.map (·.1)).eraseDups
  paths : ∀ mode, OrderedMap.get? (record.getD .empty) mode = pathsOf mode decorations

theorem get?_declare (r : TargetRecord) (mode other : Mode) (texts : List (List CodePoint)) :
    OrderedMap.get? (r.declare mode texts) other =
      if mode = other then some ((OrderedMap.get? r other).getD [] ++ texts)
      else OrderedMap.get? r other := by
  rw [TargetRecord.declare, OrderedMap.get?_insert]
  by_cases hmode : mode = other
  · rw [if_pos hmode, if_pos hmode, hmode]
  · rw [if_neg hmode, if_neg hmode]

theorem madeOf_nil : MadeOf [] none := ⟨by simp, rfl, fun _ => rfl⟩

/-- One decoration more. -/
theorem madeOf_declare (decorations : List (Mode × List (List CodePoint)))
    (record : Option TargetRecord) (hrecord : MadeOf decorations record) (mode : Mode)
    (texts : List (List CodePoint)) :
    MadeOf (decorations ++ [(mode, texts)]) (some ((record.getD .empty).declare mode texts)) where
  exists_iff := by simp
  modes := by
    rw [Option.getD_some, TargetRecord.declare, OrderedMap.keys_insert, hrecord.modes,
      List.map_append, List.eraseDups_append]
    by_cases hmode : mode ∈ decorations.map (·.1)
    · simp [List.removeAll, hmode]
    · simp [List.removeAll, hmode, List.eraseDups_cons]
  paths other := by
    rw [Option.getD_some, get?_declare, hrecord.paths, pathsOf_append]

/-- The record that a class shows: the first in its order, or an empty one. -/
inductive Shows (h : Hierarchy) (c : ClassId) : TargetRecord → Prop
  | first (front : List ClassId) (a : ClassId) (back : List ClassId) (r : TargetRecord)
      (horder : h.orderOf c = front ++ a :: back) (hfront : ∀ b ∈ front, h.ownRecord? b = none)
      (hown : h.ownRecord? a = some r) : Shows h c r
  | nothing (hnone : ∀ a ∈ h.orderOf c, h.ownRecord? a = none) : Shows h c .empty

section

variable (h : Hierarchy) (c d : ClassId)

theorem targets_of_first (front : List ClassId) (a : ClassId) (back : List ClassId)
    (horder : h.orderOf d = front ++ a :: back) (hfront : ∀ b ∈ front, h.ownRecord? b = none)
    (r : TargetRecord) (hown : h.ownRecord? a = some r) : h.targets d = r := by
  unfold targets
  rw [horder, List.findSome?_append, List.findSome?_eq_none_iff.mpr hfront, List.findSome?_cons, hown]
  rfl

theorem shows_targets : Shows h d (h.targets d) := by
  cases hfound : (h.orderOf d).findSome? h.ownRecord? with
  | none =>
    have hnone := List.findSome?_eq_none_iff.mp hfound
    rw [targets, hfound]
    exact .nothing hnone
  | some r =>
    obtain ⟨front, a, back, horder, hown, hfront⟩ := List.findSome?_eq_some_iff.mp hfound
    rw [targets, hfound]
    exact .first front a back r horder hfront hown

variable (mode : Mode) (texts : List (List CodePoint))

/-- No record changes but that of the decorated class. -/
theorem findSome?_decorated (l : List ClassId) (hl : c ∉ l) :
    l.findSome? (h.decorated c mode texts).ownRecord? = l.findSome? h.ownRecord? := by
  induction l with
  | nil => rfl
  | cons a rest ih =>
    rw [List.mem_cons, not_or] at hl
    rw [List.findSome?_cons, List.findSome?_cons, ih hl.2,
      ownRecord?_decorated_of_ne h c mode texts a (Ne.symm hl.1)]

/-- A class that does not inherit from the decorated one shows what it has shown. -/
theorem targets_decorated_of_not_mem (hd : c ∉ h.orderOf d) :
    (h.decorated c mode texts).targets d = h.targets d := by
  unfold targets
  rw [orderOf_decorated, findSome?_decorated h c mode texts _ hd]

variable (front back : List ClassId) (horder : h.orderOf d = front ++ c :: back)

include horder

/-- A class that has a record before the decorated one shows what it has shown. -/
theorem targets_decorated_of_earlier (hnodup : (h.orderOf d).Nodup)
    (hearlier : ∃ a ∈ front, h.ownRecord? a ≠ none) :
    (h.decorated c mode texts).targets d = h.targets d := by
  have hfresh : c ∉ front := by
    intro hmem
    rw [horder] at hnodup
    exact (List.nodup_append.mp hnodup).2.2 c hmem c List.mem_cons_self rfl
  obtain ⟨a, ha, hown⟩ := hearlier
  unfold targets
  rw [orderOf_decorated, horder, List.findSome?_append, List.findSome?_append,
    findSome?_decorated h c mode texts front hfresh]
  cases hfound : front.findSome? h.ownRecord? with
  | none => exact absurd (List.findSome?_eq_none_iff.mp hfound a ha) hown
  | some r => rfl

/-- A class with no record before that of the decorated one shows that one. -/
theorem targets_decorated_of_first (hc : c < h.classes.length) (hnodup : (h.orderOf d).Nodup)
    (hfront : ∀ a ∈ front, h.ownRecord? a = none) :
    (h.decorated c mode texts).targets d = ((h.ownRecord? c).getD .empty).declare mode texts := by
  refine targets_of_first _ d front c back ?_ ?_ _ (ownRecord?_decorated_self h c mode texts hc)
  · rw [orderOf_decorated, horder]
  · intro a ha
    rw [ownRecord?_decorated_of_ne h c mode texts a, hfront a ha]
    rintro rfl
    rw [horder] at hnodup
    exact (List.nodup_append.mp hnodup).2.2 a ha a List.mem_cons_self rfl

end

/-! Histories -/

inductive Event
  | define (name : String) (bases : List ClassId)
  | decorate (c : ClassId) (mode : Mode) (argument : Argument)

/-- What is refused changes nothing. -/
def Event.apply (h : Hierarchy) : Event → Hierarchy
  | .define name bases =>
    match h.define name bases with
    | .ok h' => h'
    | .error _ => h
  | .decorate c mode argument =>
    match h.decorate c mode argument with
    | .ok h' => h'
    | .error _ => h

/-- Whether an event is about classes that are there. -/
def Event.Known (h : Hierarchy) : Event → Prop
  | .define _ bases => ∀ b ∈ bases, b < h.classes.length
  | .decorate c _ _ => c < h.classes.length

instance (h : Hierarchy) : (e : Event) → Decidable (e.Known h)
  | .define _ bases => inferInstanceAs (Decidable (∀ b ∈ bases, b < h.classes.length))
  | .decorate c _ _ => inferInstanceAs (Decidable (c < h.classes.length))

/-- What a program comes to: every event is about classes that were made before. -/
inductive Reached : List Event → Hierarchy → Prop
  | start : Reached [] {}
  | next (events : List Event) (h : Hierarchy) (e : Event) (before : Reached events h)
      (known : e.Known h) : Reached (events ++ [e]) (e.apply h)

/-- The paths that an event puts on a class, with their mode. -/
def Event.decoration? (c : ClassId) : Event → Option (Mode × List (List CodePoint))
  | .define .. => none
  | .decorate d mode argument =>
    match argument.paths mode with
    | .ok texts => if d = c then some (mode, texts) else none
    | .error _ => none

/-- The accepted decorations of a class. -/
def decorations (c : ClassId) (events : List Event) : List (Mode × List (List CodePoint)) :=
  events.filterMap (Event.decoration? c)

/-- Orders are orders, and every class has the record of its decorations. -/
structure Faithful (events : List Event) (h : Hierarchy) : Prop where
  linear : Linear h
  records : ∀ c < h.classes.length, MadeOf (decorations c events) (h.ownRecord? c)
  unmade : ∀ c, h.classes.length ≤ c → decorations c events = []

theorem decorations_append (c : ClassId) (events : List Event) (e : Event) :
    decorations c (events ++ [e]) = decorations c events ++ (e.decoration? c).toList := by
  unfold decorations
  rw [List.filterMap_append, List.filterMap_cons]
  cases e.decoration? c <;> rfl

theorem faithful_define (events : List Event) (h : Hierarchy) (hfaithful : Faithful events h)
    (name : String) (bases : List ClassId) (hbases : ∀ b ∈ bases, b < h.classes.length)
    (h' : Hierarchy) (hdefine : h.define name bases = .ok h') :
    Faithful (events ++ [.define name bases]) h' := by
  have hsame : ∀ c, decorations c (events ++ [.define name bases]) = decorations c events := by
    intro c
    rw [decorations_append]
    exact List.append_nil _
  obtain ⟨hlength, hold, rest, -, hnew⟩ := get?_of_define h name bases h' hdefine
  refine ⟨linear_define h hfaithful.linear name bases hbases h' hdefine, ?_, ?_⟩
  · intro c hc
    rw [hsame]
    rcases Nat.lt_succ_iff_lt_or_eq.mp (hlength ▸ hc) with hc | rfl
    · rw [ownRecord?, hold c hc]
      exact hfaithful.records c hc
    · rw [ownRecord?, hnew, hfaithful.unmade _ (Nat.le_refl _)]
      exact madeOf_nil
  · intro c hc
    rw [hsame]
    rw [hlength] at hc
    exact hfaithful.unmade c (Nat.le_of_succ_le hc)

theorem faithful_decorated (events : List Event) (h : Hierarchy) (hfaithful : Faithful events h)
    (c : ClassId) (hc : c < h.classes.length) (mode : Mode) (argument : Argument)
    (texts : List (List CodePoint)) (hpaths : argument.paths mode = .ok texts) :
    Faithful (events ++ [.decorate c mode argument]) (h.decorated c mode texts) := by
  have hdecoration : ∀ d, (Event.decorate c mode argument).decoration? d =
      if c = d then some (mode, texts) else none := by
    intro d
    rw [Event.decoration?, hpaths]
  refine ⟨linear_decorated h hfaithful.linear c mode texts, ?_, ?_⟩
  · intro d hd
    rw [length_decorated] at hd
    rw [decorations_append, hdecoration]
    by_cases hcd : c = d
    · subst hcd
      rw [if_pos rfl, ownRecord?_decorated_self h c mode texts hc]
      exact madeOf_declare _ _ (hfaithful.records c hc) mode texts
    · rw [if_neg hcd, ownRecord?_decorated_of_ne h c mode texts d (Ne.symm hcd)]
      simpa using hfaithful.records d hd
  · intro d hd
    rw [length_decorated] at hd
    have hcd : c ≠ d := by
      rintro rfl
      exact absurd hc (Nat.not_lt.mpr hd)
    rw [decorations_append, hdecoration, if_neg hcd, hfaithful.unmade d hd]
    rfl

/-- What is refused is no decoration. -/
theorem faithful_refused (events : List Event) (h : Hierarchy) (hfaithful : Faithful events h)
    (e : Event) (hnone : ∀ c, e.decoration? c = none) : Faithful (events ++ [e]) h := by
  have hsame : ∀ c, decorations c (events ++ [e]) = decorations c events := by
    intro c
    rw [decorations_append, hnone]
    exact List.append_nil _
  refine ⟨hfaithful.linear, ?_, ?_⟩
  · intro c hc
    rw [hsame]
    exact hfaithful.records c hc
  · intro c hc
    rw [hsame]
    exact hfaithful.unmade c hc

/-- By induction on the history. -/
theorem faithful_of_reached (events : List Event) (h : Hierarchy) (hreached : Reached events h) :
    Faithful events h := by
  induction hreached with
  | start =>
    refine ⟨⟨nofun, ?_⟩, nofun, fun _ _ => rfl⟩
    intro c a ha
    cases ha
  | next events h e _ hknown ih =>
    cases e with
    | define name bases =>
      rw [Event.apply]
      cases hdefine : h.define name bases with
      | ok h' => exact faithful_define events h ih name bases hknown h' hdefine
      | error reason => exact faithful_refused events h ih (.define name bases) fun _ => rfl
    | decorate c mode argument =>
      rw [Event.apply]
      cases hpaths : argument.paths mode with
      | ok texts =>
        rw [(decorate_eq_ok_iff h c mode argument _).mpr ⟨texts, hpaths, rfl⟩]
        exact faithful_decorated events h ih c hknown mode argument texts hpaths
      | error reason =>
        have hrefused : h.decorate c mode argument = .error reason := by
          rw [decorate, hpaths]
          rfl
        rw [hrefused]
        refine faithful_refused events h ih _ fun d => ?_
        rw [Event.decoration?, hpaths]

/-- At every point of a program: the order of a class begins with the class, has no class twice and keeps the
orders of the others. The record of each class is made of the accepted decorations of that very class. A class
shows the first record in its order. A decoration is accepted if it is given a path or a sequence of paths,
and shows in those classes alone that inherit from the decorated one and have no record before it; one that is
refused changes nothing. -/
theorem records_of_history (events : List Event) (h : Hierarchy) (hreached : Reached events h) :
    (∀ c < h.classes.length, ∃ rest, h.orderOf c = c :: rest ∧ (h.orderOf c).Nodup ∧
      ∀ a ∈ h.orderOf c, (h.orderOf a).Sublist (h.orderOf c)) ∧
    (∀ c < h.classes.length, MadeOf (decorations c events) (h.ownRecord? c)) ∧
    (∀ c < h.classes.length, Shows h c (h.targets c)) ∧
    ∀ c < h.classes.length, ∀ (mode : Mode) (argument : Argument),
      ((∃ h', h.decorate c mode argument = .ok h') ↔ ∃ texts,
        ((∃ t, argument = .text t ∧ texts = [t]) ∨ argument = .sequence (texts.map .text)) ∧
          ∀ t ∈ texts, ∃ p, TargetPath.parse t = .ok p) ∧
      (∀ reason, h.decorate c mode argument = .error reason →
        (Event.decorate c mode argument).apply h = h) ∧
      ∀ h', h.decorate c mode argument = .ok h' →
        (∀ d, c ∉ h.orderOf d → h'.targets d = h.targets d) ∧
        ∀ d front back, h.orderOf d = front ++ c :: back →
          ((∃ a ∈ front, h.ownRecord? a ≠ none) → h'.targets d = h.targets d) ∧
          ((∀ a ∈ front, h.ownRecord? a = none) → h'.ownRecord? c = some (h'.targets d)) := by
  obtain ⟨hlinear, hrecords, -⟩ := faithful_of_reached events h hreached
  refine ⟨?_, hrecords, fun c _ => shows_targets h c, ?_⟩
  · intro c hc
    obtain ⟨rest, hrest, -⟩ := hlinear.first c hc
    exact ⟨rest, hrest, nodup_orderOf h hlinear c, hlinear.keeps c⟩
  · intro c hc mode argument
    refine ⟨?_, ?_, ?_⟩
    · constructor
      · rintro ⟨h', hdecorate⟩
        obtain ⟨texts, hpaths, -⟩ := (decorate_eq_ok_iff h c mode argument h').mp hdecorate
        exact ⟨texts, (paths_eq_ok_iff mode argument texts).mp hpaths⟩
      · rintro ⟨texts, haccepted⟩
        have hpaths := (paths_eq_ok_iff mode argument texts).mpr haccepted
        exact ⟨_, (decorate_eq_ok_iff h c mode argument _).mpr ⟨texts, hpaths, rfl⟩⟩
    · intro reason hrefused
      rw [Event.apply, hrefused]
    · intro h' hdecorate
      obtain ⟨texts, -, rfl⟩ := (decorate_eq_ok_iff h c mode argument h').mp hdecorate
      refine ⟨fun d hd => targets_decorated_of_not_mem h c d mode texts hd, ?_⟩
      intro d front back horder
      have hnodup := nodup_orderOf h hlinear d
      refine ⟨targets_decorated_of_earlier h c d mode texts front back horder hnodup, ?_⟩
      intro hfront
      rw [targets_decorated_of_first h c d mode texts front back horder hc hnodup hfront,
        ownRecord?_decorated_self h c mode texts hc]

/-! A parent and a child -/

def onParent : Event := .decorate 0 .into (.text (Text.codePoints "crate.a.One"))

def onChild : Event := .decorate 1 .merge (.sequence [.text (Text.codePoints "crate.a.Two")])

def refusedOnChild : Event :=
  .decorate 1 .into (.sequence [.text (Text.codePoints "crate.a.Three"), .other "int"])

def family : List Event :=
  [.define "Parent" [], onParent, .define "Child" [0], onChild, refusedOnChild, onParent]

def familyHierarchy : Hierarchy := family.foldl Event.apply {}

theorem reached_family : Reached family familyHierarchy := by
  have h₁ : Reached _ _ := .next [] {} (.define "Parent" []) .start nofun
  have h₂ : Reached _ _ := .next _ _ onParent h₁ (by decide +kernel)
  have h₃ : Reached _ _ := .next _ _ (.define "Child" [0]) h₂ (by decide +kernel)
  have h₄ : Reached _ _ := .next _ _ onChild h₃ (by decide +kernel)
  have h₅ : Reached _ _ := .next _ _ refusedOnChild h₄ (by decide +kernel)
  exact .next _ _ onParent h₅ (by decide +kernel)

theorem records_of_history_family :
    Reached family familyHierarchy ∧
      MadeOf [(.merge, [Text.codePoints "crate.a.Two"])] (familyHierarchy.ownRecord? 1) ∧
      Shows familyHierarchy 1 (familyHierarchy.targets 1) ∧
      pathsOf .into (decorations 0 family) =
        some [Text.codePoints "crate.a.One", Text.codePoints "crate.a.One"] ∧
      ∀ h', familyHierarchy.decorate 0 .into (.text (Text.codePoints "crate.a.One")) = .ok h' →
        h'.targets 1 = familyHierarchy.targets 1 := by
  obtain ⟨-, hrecords, hshows, hdecorate⟩ := records_of_history family familyHierarchy reached_family
  have hdecorations : decorations 1 family = [(.merge, [Text.codePoints "crate.a.Two"])] := by
    decide +kernel
  refine ⟨reached_family, ?_, hshows 1 (by decide +kernel), by decide +kernel, ?_⟩
  · rw [← hdecorations]
    exact hrecords 1 (by decide +kernel)
  · intro h' hok
    obtain ⟨-, -, hbeside⟩ := hdecorate 0 (by decide +kernel) .into _
    obtain ⟨-, hshown⟩ := hbeside h' hok
    exact (hshown 1 [1] [] (by decide +kernel)).1 ⟨1, List.mem_cons_self, by decide +kernel⟩

end Crosswalk.Hierarchy

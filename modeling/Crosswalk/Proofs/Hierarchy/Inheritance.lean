import Crosswalk.Proofs.Hierarchy

/-! What a decoration does to the targets that its class shows. A class with a record of its own shows the new
paths behind the old ones. The first decoration of a class starts a record of its own, which hides the one
that was inherited. -/

namespace Crosswalk.Hierarchy

open Text (CodePoint)

/-- A record after paths were appended under a mode. The modes keep their order, and a new one comes last. -/
structure Gains (before : TargetRecord) (mode : Mode) (texts : List (List CodePoint))
    (after : TargetRecord) : Prop where
  paths : ∀ other, OrderedMap.get? after other =
    if mode = other then some ((OrderedMap.get? before other).getD [] ++ texts)
    else OrderedMap.get? before other
  modes : OrderedMap.keys after =
    if mode ∈ OrderedMap.keys before then OrderedMap.keys before
    else OrderedMap.keys before ++ [mode]

/-- A target that a record lists under a mode. -/
def Lists (r : TargetRecord) (mode : Mode) (target : List CodePoint) : Prop :=
  ∃ texts, OrderedMap.get? r mode = some texts ∧ target ∈ texts

section

variable (r : TargetRecord) (mode : Mode) (texts : List (List CodePoint))

theorem gains_declare : Gains r mode texts (r.declare mode texts) where
  paths other := get?_declare r mode other texts
  modes := OrderedMap.keys_insert ..

variable (after : TargetRecord) (hgains : Gains r mode texts after) (other : Mode)
  (target : List CodePoint)

include hgains

/-- What is listed afterwards was listed before or is new. -/
theorem lists_of_gains :
    Lists after other target ↔ Lists r other target ∨ other = mode ∧ target ∈ texts := by
  unfold Lists
  rw [hgains.paths other]
  by_cases hmode : mode = other
  · subst hmode
    cases OrderedMap.get? r mode <;> simp
  · simp [hmode, Ne.symm hmode]

end

theorem not_lists_empty (mode : Mode) (target : List CodePoint) : ¬ Lists .empty mode target := by
  rintro ⟨texts, hget, -⟩
  cases hget

section

variable (h : Hierarchy) (c : ClassId) (rest : List ClassId) (horder : h.orderOf c = c :: rest)

include horder

theorem targets_of_own (r : TargetRecord) (hown : h.ownRecord? c = some r) : h.targets c = r :=
  targets_of_first h c [] c rest horder nofun r hown

/-- A decoration leaves the class with its own record, which is the one it shows. -/
theorem targets_decorated_self (hc : c < h.classes.length) (hnodup : (h.orderOf c).Nodup)
    (mode : Mode) (texts : List (List CodePoint)) :
    (h.decorated c mode texts).targets c = ((h.ownRecord? c).getD .empty).declare mode texts :=
  targets_decorated_of_first h c c mode texts [] rest horder hc hnodup nofun

end

/-- A decoration appends its paths to the targets that the class shows if the class has a record of its own,
or if no class in its order has one. Otherwise the inherited record gives way to one with the new paths alone.
So every target that was shown is shown afterwards just if the class has a record of its own, or if all it
shows is among the new paths. -/
theorem targets_of_decoration (events : List Event) (h : Hierarchy) (hreached : Reached events h)
    (c : ClassId) (hc : c < h.classes.length) (mode : Mode) (argument : Argument) (h' : Hierarchy)
    (hdecorate : h.decorate c mode argument = .ok h') :
    ∃ texts : List (List CodePoint),
      ((∃ t, argument = .text t ∧ texts = [t]) ∨ argument = .sequence (texts.map .text)) ∧
      (h.ownRecord? c ≠ none ∨ (∀ a ∈ h.orderOf c, h.ownRecord? a = none) →
        Gains (h.targets c) mode texts (h'.targets c)) ∧
      (h.ownRecord? c = none → Gains .empty mode texts (h'.targets c)) ∧
      ((∀ other target, Lists (h.targets c) other target → Lists (h'.targets c) other target) ↔
        h.ownRecord? c ≠ none ∨
          ∀ other target, Lists (h.targets c) other target → other = mode ∧ target ∈ texts) := by
  obtain ⟨hlinear, -, -⟩ := faithful_of_reached events h hreached
  obtain ⟨rest, horder, -⟩ := hlinear.first c hc
  obtain ⟨texts, hpaths, rfl⟩ := (decorate_eq_ok_iff h c mode argument h').mp hdecorate
  have hafter := targets_decorated_self h c rest horder hc (nodup_orderOf h hlinear c) mode texts
  refine ⟨texts, ((paths_eq_ok_iff mode argument texts).mp hpaths).1, ?_⟩
  rw [hafter]
  have hadded := gains_declare ((h.ownRecord? c).getD .empty) mode texts
  cases hown : h.ownRecord? c with
  | some r =>
    rw [hown, Option.getD_some] at hadded
    rw [targets_of_own h c rest horder r hown, Option.getD_some]
    refine ⟨fun _ => hadded, nofun, iff_of_true ?_ (.inl nofun)⟩
    intro other target hlists
    exact (lists_of_gains r mode texts _ hadded other target).mpr (.inl hlists)
  | none =>
    rw [hown, Option.getD_none] at hadded
    rw [Option.getD_none]
    refine ⟨?_, fun _ => hadded, ?_⟩
    · rintro (hsome | hnone)
      · exact absurd rfl hsome
      · have hshown : h.targets c = .empty := by
          rw [targets, List.findSome?_eq_none_iff.mpr hnone]
          rfl
        rwa [hshown]
    · have hnew : ∀ other target,
          Lists (TargetRecord.declare .empty mode texts) other target ↔
            other = mode ∧ target ∈ texts := by
        intro other target
        rw [lists_of_gains _ mode texts _ hadded other target]
        exact or_iff_right (not_lists_empty other target)
      simp only [hnew]
      exact ⟨.inr, fun hsame => hsame.resolve_left fun hsome => hsome rfl⟩

/-! A child whose parent has a record -/

def heirs : List Event := [.define "Parent" [], onParent, .define "Child" [0]]

def heirHierarchy : Hierarchy := heirs.foldl Event.apply {}

theorem reached_heirs : Reached heirs heirHierarchy := by
  have h₁ : Reached _ _ := .next [] {} (.define "Parent" []) .start nofun
  have h₂ : Reached _ _ := .next _ _ onParent h₁ (by decide +kernel)
  exact .next _ _ (.define "Child" [0]) h₂ (by decide +kernel)

def childTarget : Argument := .sequence [.text (Text.codePoints "crate.a.Two")]

theorem targets_of_decoration_heir :
    Reached heirs heirHierarchy ∧
      ∃ h' texts, heirHierarchy.decorate 1 .merge childTarget = .ok h' ∧
        heirHierarchy.ownRecord? 1 = none ∧ Gains .empty .merge texts (h'.targets 1) := by
  obtain ⟨h', hdecorate⟩ : ∃ h', heirHierarchy.decorate 1 .merge childTarget = .ok h' :=
    ⟨_, (decorate_eq_ok_iff _ 1 .merge childTarget _).mpr
      ⟨[Text.codePoints "crate.a.Two"], by rfl, rfl⟩⟩
  have hnone : heirHierarchy.ownRecord? 1 = none := by decide +kernel
  obtain ⟨texts, -, -, hstarts, -⟩ := targets_of_decoration heirs heirHierarchy reached_heirs 1
    (by decide +kernel) .merge childTarget h' hdecorate
  exact ⟨reached_heirs, h', texts, hdecorate, hnone, hstarts hnone⟩

/-- The child shows what its parent is decorated with until it is decorated itself. -/
theorem inherited_targets_hidden :
    Reached heirs heirHierarchy ∧
      ∃ h', heirHierarchy.decorate 1 .merge childTarget = .ok h' ∧
        Lists (heirHierarchy.targets 1) .into (Text.codePoints "crate.a.One") ∧
        ¬ Lists (h'.targets 1) .into (Text.codePoints "crate.a.One") ∧
        ¬ Gains (heirHierarchy.targets 1) .merge [Text.codePoints "crate.a.Two"] (h'.targets 1) := by
  have hpaths : childTarget.paths .merge = .ok [Text.codePoints "crate.a.Two"] := by rfl
  have hbefore : Lists (heirHierarchy.targets 1) .into (Text.codePoints "crate.a.One") :=
    ⟨[Text.codePoints "crate.a.One"], by decide +kernel, List.mem_singleton_self _⟩
  have hafter : ¬ Lists ((heirHierarchy.decorated 1 .merge [Text.codePoints "crate.a.Two"]).targets 1)
      .into (Text.codePoints "crate.a.One") := by
    have hget : OrderedMap.get? ((heirHierarchy.decorated 1 .merge
        [Text.codePoints "crate.a.Two"]).targets 1) .into = none := by decide +kernel
    rintro ⟨texts, hsome, -⟩
    rw [hget] at hsome
    cases hsome
  refine ⟨reached_heirs, _, (decorate_eq_ok_iff _ 1 .merge childTarget _).mpr ⟨_, hpaths, rfl⟩,
    hbefore, hafter, fun hgains => hafter ?_⟩
  exact (lists_of_gains _ .merge _ _ hgains .into _).mpr (.inl hbefore)

end Crosswalk.Hierarchy

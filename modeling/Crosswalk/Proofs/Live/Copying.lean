import Mathlib.Data.List.Nodup
import Mathlib.Data.List.Perm.Subperm
import Crosswalk.Proofs.Live.Graph
import Crosswalk.Proofs.Live.Steps

/-! What a deep copy makes. It succeeds for the values in which it comes to no fragile cell, and for these
alone. The copy has the structure of what was copied. It leads to new cells, and to others only where cells
share with their copies. But for counts nothing else changes. -/

namespace Crosswalk.Live

/-- The copies of cells, as a relation. -/
def CopyState.To (h : Heap) (c : CopyState) (a b : Address) : Prop :=
  (a, b) ∈ c.copied ∨ a = b ∧ ∃ k, h.get? a = some k ∧ k.make = .atomic

/-- What the parts of a cell are to those of its copy. -/
def CopyState.PartsTo (h : Heap) (c : CopyState) (m : Make) (vs ws : List Value) : Prop :=
  if m.opens then List.Forall₂ (Value.Related (c.To h)) vs ws else ws = vs

def CopyState.reserved (c : CopyState) (a : Address) (blank : Cell) : CopyState where
  heap := ⟨c.heap.cells ++ [blank]⟩
  copied := (a, c.heap.size) :: c.copied

def CopyState.filled (c : CopyState) (b : Address) (cell : Cell) : CopyState :=
  { c with heap := c.heap.set b cell }

/-! One shape for all cells -/

/-- A cell of the make of another, with parts of its own and not counted yet. -/
def Cell.withParts (c : Cell) (parts : List Value) : Cell :=
  match c with
  | .list _ => .list parts
  | .record r => .record { r with fields := ⟨r.fields.keys.zip parts⟩ }
  | .tracked .. => .tracked 0 (parts.headD .none)
  | .shallow .. => .shallow 0 parts
  | .atomic _ => .atomic parts
  | .fragile => .fragile

/-- What stands for a copy until it is filled. -/
def Cell.blank : Cell → Cell
  | .list _ => .list []
  | .record r => .record { r with fields := .empty }
  | .tracked .. => .tracked 0 .none
  | .shallow .. => .shallow 0 []
  | .atomic items => .atomic items
  | .fragile => .fragile

def countCopy (a : Address) : Cell → Copying Unit
  | .tracked copies payload => fill a (.tracked (copies + 1) payload)
  | .shallow copies items => fill a (.shallow (copies + 1) items)
  | .list _ | .record _ | .atomic _ | .fragile => return

def copyParts (copy : Value → Copying Value) (c : Cell) : Copying (List Value) :=
  if c.make.opens then copyItems copy c.parts else return c.parts

theorem Cell.withParts_spec (c : Cell) (parts : List Value) (h : parts.length = c.parts.length) :
    (c.withParts parts).make = c.make ∧ (c.withParts parts).parts = parts := by
  cases c with
  | list | shallow | atomic => exact ⟨rfl, rfl⟩
  | record r =>
    have hlength : r.fields.keys.length = parts.length := by simp [h, Cell.parts, OrderedMap.keys]
    constructor
    · have hkeys : (r.fields.keys.zip parts).map (·.1) = r.fields.keys :=
        List.map_fst_zip (Nat.le_of_eq hlength)
      exact congrArg (Make.record r.kind r.refusals) hkeys
    · simp only [withParts, Cell.parts]
      rw [List.map_snd_zip (Nat.le_of_eq hlength.symm)]
  | tracked copies payload =>
    obtain ⟨v, rfl⟩ := List.length_eq_one_iff.mp h
    exact ⟨rfl, rfl⟩
  | fragile =>
    rw [List.eq_nil_of_length_eq_zero h]
    exact ⟨rfl, rfl⟩

theorem copyEntries_eq (copy : Value → Copying Value) (entries : List (String × Value)) :
    copyEntries copy entries = do
      let ws ← copyItems copy (entries.map (·.2))
      return (entries.map (·.1)).zip ws := by
  induction entries with
  | nil => simp [copyEntries, copyItems]
  | cons e rest ih =>
    obtain ⟨k, v⟩ := e
    simp [copyEntries, copyItems, ih]

/-- Every cell that is not its own copy is copied in the same way. -/
theorem copyCell_eq (copy : Value → Copying Value) (a : Address) (c : Cell)
    (h : c.make ≠ .fragile) (h' : c.make ≠ .atomic) :
    copyCell copy a c = do
      countCopy a c
      let b ← reserve a c.blank
      let ws ← copyParts copy c
      fill b (c.withParts ws)
      return b := by
  cases c with
  | list items =>
    simp [copyCell, countCopy, Cell.blank, copyParts, Cell.make, Make.opens, Cell.parts, Cell.withParts]
  | record r =>
    simp [copyCell, countCopy, Cell.blank, copyParts, Cell.make, Make.opens, Cell.parts,
      Cell.withParts, copyEntries_eq, OrderedMap.keys]
  | tracked copies payload =>
    simp [copyCell, countCopy, Cell.blank, copyParts, Cell.make, Make.opens, Cell.parts,
      Cell.withParts, copyItems]
  | shallow copies items =>
    simp [copyCell, countCopy, Cell.blank, copyParts, Cell.make, Make.opens, Cell.parts, Cell.withParts]
  | atomic items => exact absurd rfl h'
  | fragile => exact absurd rfl h

/-! How far a copy has come -/

/-- A copy on its way, in a heap that was `h` at first. Cells of `h` that what is copied leads to have new cells as
their copies, one to one; the copies of the open ones are not filled yet, and all others match what they were made
from. -/
structure Progress (h : Heap) (root : Value) (opened : List Address) (c : CopyState) : Prop where
  kept : h.Kept c.heap
  keys : (c.copied.map (·.1)).Nodup
  images : (c.copied.map (·.2)).Nodup
  bounds : ∀ a b : Nat, (a, b) ∈ c.copied → a < h.size ∧ h.size ≤ b ∧ b < c.heap.size
  reached : ∀ a b, (a, b) ∈ c.copied → h.Reaches root a
  covered : ∀ b : Nat, h.size ≤ b → b < c.heap.size → ∃ a, (a, b) ∈ c.copied
  done : ∀ a b, (a, b) ∈ c.copied → a ∉ opened →
    ∃ k l, h.get? a = some k ∧ k.make ≠ .fragile ∧ c.heap.get? b = some l ∧ k.make = l.make ∧
      c.PartsTo h k.make k.parts l.parts

theorem progress_start (h : Heap) (root : Value) : Progress h root [] { heap := h } where
  kept := h.kept_refl
  keys := List.nodup_nil
  images := List.nodup_nil
  bounds := nofun
  reached := nofun
  covered _ hlo hhi := absurd hhi (Nat.not_lt.mpr hlo)
  done := nofun

section

variable (h : Heap) (root : Value) (opened : List Address) (c : CopyState)

theorem Progress.key_unique (hc : Progress h root opened c) (a b b' : Address) (hb : (a, b) ∈ c.copied)
    (hb' : (a, b') ∈ c.copied) : b = b' := by
  have hpair := List.inj_on_of_nodup_map hc.keys hb hb' rfl
  cases hpair
  rfl

theorem Progress.image_unique (hc : Progress h root opened c) (a a' b : Address) (ha : (a, b) ∈ c.copied)
    (ha' : (a', b) ∈ c.copied) : a = a' := by
  have hpair := List.inj_on_of_nodup_map hc.images ha ha' rfl
  cases hpair
  rfl

theorem Progress.length_le (hc : Progress h root opened c) : c.copied.length ≤ h.size := by
  have hsub : c.copied.map (·.1) ⊆ List.range h.size := by
    intro a ha
    obtain ⟨⟨a, b⟩, hab, rfl⟩ := List.mem_map.mp ha
    exact List.mem_range.mpr (hc.bounds a b hab).1
  simpa using (hc.keys.subperm hsub).length_le

/-- A change of a cell's count is no matter. -/
theorem progress_counted (hc : Progress h root opened c) (a : Nat) (ha : a < h.size) (k l : Cell)
    (hk : c.heap.get? a = some k) (hmake : k.make = l.make) (hparts : k.parts = l.parts) :
    Progress h root opened (c.filled a l) where
  kept := h.kept_set_of_same c.heap hc.kept a k l hk hmake hparts
  keys := hc.keys
  images := hc.images
  reached := hc.reached
  bounds x y hxy := by
    rw [CopyState.filled, Heap.size_set]
    exact hc.bounds x y hxy
  covered y hlo hhi := by
    rw [CopyState.filled, Heap.size_set] at hhi
    exact hc.covered y hlo hhi
  done x y hxy hx := by
    obtain ⟨k', l', hk', hfragile, hl', hmake', hparts'⟩ := hc.done x y hxy hx
    have hbounds := hc.bounds x y hxy
    have hne : a ≠ y := by omega
    exact ⟨k', l', hk', hfragile, (c.heap.get?_set_of_ne a y l hne).trans hl', hmake', hparts'⟩

theorem partsTo_of_suffix (c' : CopyState) (hsuffix : c.copied <:+ c'.copied) (m : Make)
    (vs ws : List Value) (hparts : c.PartsTo h m vs ws) : c'.PartsTo h m vs ws := by
  unfold CopyState.PartsTo at hparts ⊢
  split
  · rw [if_pos (by assumption)] at hparts
    exact relatedParts_mono _ _ (fun x y hxy => hxy.imp_left fun h => hsuffix.subset h) _ _ hparts
  · rw [if_neg (by assumption)] at hparts
    exact hparts

/-- A copy that is not filled yet is open. -/
theorem progress_reserved (hc : Progress h root opened c) (a : Nat) (ha : a < h.size)
    (hreached : h.Reaches root a) (blank : Cell) (hnew : ∀ b, (a, b) ∉ c.copied) : Progress h root (a :: opened) (c.reserved a blank) := by
  have hsize : (c.reserved a blank).heap.size = c.heap.size + 1 := by
    simp [CopyState.reserved, Heap.size]
  have hle := Heap.size_le_of_kept h c.heap hc.kept
  have hget : ∀ x l, c.heap.get? x = some l → (c.reserved a blank).heap.get? x = some l := by
    intro x l hl
    have hlt := (c.heap.get?_eq_some_iff_lt x).mp ⟨l, hl⟩
    exact (c.heap.get?_alloc_of_lt blank x hlt).trans hl
  refine ⟨h.kept_alloc c.heap hc.kept blank, ?_, ?_, ?_, ?_, ?_, ?_⟩
  · refine List.nodup_cons.mpr ⟨?_, hc.keys⟩
    intro hmem
    obtain ⟨⟨x, b⟩, hxb, rfl⟩ := List.mem_map.mp hmem
    exact hnew b hxb
  · refine List.nodup_cons.mpr ⟨?_, hc.images⟩
    intro hmem
    obtain ⟨⟨x, b⟩, hxb, heq⟩ := List.mem_map.mp hmem
    exact absurd heq (Nat.ne_of_lt (hc.bounds x b hxb).2.2)
  · intro x y hxy
    rcases List.mem_cons.mp hxy with heq | hxy
    · cases heq
      omega
    · have hbounds := hc.bounds x y hxy
      omega
  · intro x y hxy
    rcases List.mem_cons.mp hxy with heq | hxy
    · cases heq
      exact hreached
    · exact hc.reached x y hxy
  · intro y hlo hhi
    by_cases hy : y < c.heap.size
    · obtain ⟨x, hxy⟩ := hc.covered y hlo hy
      exact ⟨x, List.mem_cons_of_mem _ hxy⟩
    · have heq : y = c.heap.size := by omega
      exact ⟨a, heq ▸ List.mem_cons_self⟩
  · intro x y hxy hx
    rw [List.mem_cons, not_or] at hx
    rcases List.mem_cons.mp hxy with heq | hxy
    · cases heq
      exact absurd rfl hx.1
    · obtain ⟨k, l, hk, hfragile, hl, hmake, hparts⟩ := hc.done x y hxy hx.2
      exact ⟨k, l, hk, hfragile, hget y l hl, hmake,
        partsTo_of_suffix h c _ (List.suffix_cons _ _) _ _ _ hparts⟩

/-- A copy that is filled with what matches its origin is done. -/
theorem progress_filled (a : Address) (hc : Progress h root (a :: opened) c) (b : Nat)
    (hab : (a, b) ∈ c.copied) (k l : Cell) (hk : h.get? a = some k) (hfragile : k.make ≠ .fragile)
    (hmake : k.make = l.make) (hparts : c.PartsTo h k.make k.parts l.parts) :
    Progress h root opened (c.filled b l) where
  kept := h.kept_set_of_le c.heap hc.kept b (hc.bounds a b hab).2.1 l
  keys := hc.keys
  images := hc.images
  reached := hc.reached
  bounds x y hxy := by
    rw [CopyState.filled, Heap.size_set]
    exact hc.bounds x y hxy
  covered y hlo hhi := by
    rw [CopyState.filled, Heap.size_set] at hhi
    exact hc.covered y hlo hhi
  done x y hxy hx := by
    by_cases hxa : x = a
    · subst hxa
      have heq : y = b := hc.key_unique h root _ c x y b hxy hab
      subst heq
      exact ⟨k, l, hk, hfragile, c.heap.get?_set_self y l (hc.bounds x y hxy).2.2, hmake, hparts⟩
    · have hopened : x ∉ a :: opened := by simp [hxa, hx]
      obtain ⟨k', l', hk', hfragile', hl', hmake', hparts'⟩ := hc.done x y hxy hopened
      have hne : b ≠ y := by
        rintro rfl
        exact hxa (hc.image_unique h root _ c x a b hxy hab)
      exact ⟨k', l', hk', hfragile', (c.heap.get?_set_of_ne b y l hne).trans hl', hmake', hparts'⟩

end

/-! Steps of a copy -/

/-- What a piece of copying comes to in one state: a result, or a refusal for a reason. -/
def Copying.Meets {α : Type} (x : Copying α) (c : CopyState) (Q : α → CopyState → Prop)
    (refused : Prop) : Prop :=
  match x.run.run c with
  | (.ok r, c') => Q r c'
  | (.error _, _) => refused

section

variable {α β : Type} (c : CopyState) (Q : α → CopyState → Prop) (R : β → CopyState → Prop)
  (refused : Prop)

theorem meets_bind (x : Copying α) (f : α → Copying β) (hx : Copying.Meets x c Q refused)
    (hf : ∀ r c', Q r c' → Copying.Meets (f r) c' R refused) :
    Copying.Meets (x >>= f) c R refused := by
  unfold Copying.Meets at hx ⊢
  rw [run_bind]
  generalize x.run.run c = result at hx
  obtain ⟨r, c'⟩ := result
  cases r with
  | error e => exact hx
  | ok r => exact hf r c' hx

theorem meets_imp (S : α → CopyState → Prop) (reason : Prop) (x : Copying α)
    (hx : Copying.Meets x c Q reason) (hQ : ∀ r c', Q r c' → S r c') (hreason : reason → refused) :
    Copying.Meets x c S refused := by
  unfold Copying.Meets at hx ⊢
  generalize x.run.run c = result at hx
  obtain ⟨r, c'⟩ := result
  cases r with
  | error e => exact hreason hx
  | ok r => exact hQ r c' hx

end

section

variable (h : Heap)

/-- A value that leads, if anywhere, to a cell that another one leads to. -/
def Heap.Under (h : Heap) (root v : Value) : Prop := ∀ a, v = .ref a → a < h.size ∧ h.Reaches root a

theorem under_part (hclosed : h.Closed) (root : Value) (a : Address) (ha : h.Reaches root a) (k : Cell)
    (hk : h.get? a = some k) : ∀ v ∈ k.parts, h.Under root v := by
  rintro v hv b rfl
  exact ⟨hclosed a k hk _ hv, h.leads_part _ root a b ha k hk rfl _ hv (.here b)⟩

/-- A copying of values as it should be, while less fuel has been used than there are cells. -/
def Copies (root : Value) (fuel : Nat) (copy : Value → Copying Value) : Prop :=
  ∀ (v : Value) (opened : List Address) (c : CopyState), h.Under root v → Progress h root opened c →
    h.size < fuel + c.copied.length →
    Copying.Meets (copy v) c
      (fun w c' => Progress h root opened c' ∧ c.copied <:+ c'.copied ∧ v.Related (c'.To h) w)
      (¬ h.Sturdy v)

theorem related_of_suffix (c c' : CopyState) (hsuffix : c.copied <:+ c'.copied) (v w : Value)
    (hv : v.Related (c.To h) w) : v.Related (c'.To h) w :=
  related_mono _ _ (fun _ _ hab => hab.imp_left fun h => hsuffix.subset h) v w hv

/-- The parts of a cell are copied one after the other. -/
theorem meets_copyItems (root : Value) (fuel : Nat) (copy : Value → Copying Value)
    (hcopy : Copies h root fuel copy) (opened : List Address) (items : List Value) (c : CopyState)
    (hitems : ∀ v ∈ items, h.Under root v) (hc : Progress h root opened c)
    (hfuel : h.size < fuel + c.copied.length) :
    Copying.Meets (copyItems copy items) c
      (fun ws c' => Progress h root opened c' ∧ c.copied <:+ c'.copied ∧
        List.Forall₂ (Value.Related (c'.To h)) items ws)
      (∃ v ∈ items, ¬ h.Sturdy v) := by
  induction items generalizing c with
  | nil => exact ⟨hc, List.suffix_rfl, .nil⟩
  | cons v rest ih =>
    unfold copyItems
    have hfirst := hcopy v opened c (hitems v List.mem_cons_self) hc hfuel
    refine meets_bind _ _ _ _ _ _ (meets_imp _ _ _ _ _ _ hfirst (fun _ _ h => h) fun hv =>
      ⟨v, List.mem_cons_self, hv⟩) ?_
    rintro w c' ⟨hc', hsuffix, hw⟩
    have hfuel' : h.size < fuel + c'.copied.length := by
      have := hsuffix.length_le
      omega
    have hrest := ih c' (fun u hu => hitems u (List.mem_cons_of_mem v hu)) hc' hfuel'
    refine meets_bind _ _ _ _ _ _ (meets_imp _ _ _ _ _ _ hrest (fun _ _ h => h) ?_) ?_
    · rintro ⟨u, hu, hfragile⟩
      exact ⟨u, List.mem_cons_of_mem v hu, hfragile⟩
    · rintro ws c'' ⟨hc'', hsuffix', hws⟩
      exact ⟨hc'', hsuffix.trans hsuffix', .cons (related_of_suffix h c' c'' hsuffix' v w hw) hws⟩

/-- Only the parts of cells that open are copied. -/
theorem meets_copyParts (root : Value) (fuel : Nat) (copy : Value → Copying Value)
    (hcopy : Copies h root fuel copy) (opened : List Address) (cell : Cell) (c : CopyState)
    (hparts : ∀ v ∈ cell.parts, h.Under root v) (hc : Progress h root opened c)
    (hfuel : h.size < fuel + c.copied.length) :
    Copying.Meets (copyParts copy cell) c
      (fun ws c' => Progress h root opened c' ∧ c.copied <:+ c'.copied ∧ ws.length = cell.parts.length ∧
        c'.PartsTo h cell.make cell.parts ws)
      (cell.make.opens = true ∧ ∃ v ∈ cell.parts, ¬ h.Sturdy v) := by
  unfold copyParts CopyState.PartsTo
  cases hopens : cell.make.opens with
  | true =>
    simp only [if_true]
    refine meets_imp _ _ _ _ _ _
      (meets_copyItems h root fuel copy hcopy opened cell.parts c hparts hc hfuel) ?_ fun h => ⟨trivial, h⟩
    rintro ws c' ⟨hc', hsuffix, hws⟩
    exact ⟨hc', hsuffix, hws.length_eq.symm, hws⟩
  | false => exact ⟨hc, List.suffix_rfl, rfl, rfl⟩

/-- Counting a copy changes no more than a count. -/
theorem meets_countCopy (root : Value) (opened : List Address) (a : Nat) (ha : a < h.size) (cell : Cell)
    (c : CopyState) (hc : Progress h root opened c) (hcell : c.heap.get? a = some cell) :
    Copying.Meets (countCopy a cell) c (fun _ c' => Progress h root opened c' ∧ c'.copied = c.copied)
      False := by
  cases cell with
  | tracked | shallow => exact ⟨progress_counted h root opened c hc a ha _ _ hcell rfl rfl, rfl⟩
  | list | record | atomic | fragile => exact ⟨hc, rfl⟩

theorem meets_copyCell (hclosed : h.Closed) (root : Value) (fuel : Nat) (copy : Value → Copying Value)
    (hcopy : Copies h root fuel copy) (opened : List Address) (c : CopyState) (hc : Progress h root opened c)
    (hfuel : h.size < fuel + 1 + c.copied.length) (a : Nat) (k cell : Cell)
    (hk : h.get? a = some k) (hcell : c.heap.get? a = some cell) (hmake : k.make = cell.make)
    (hparts : k.parts = cell.parts) (hreached : h.Reaches root a) (hnew : ∀ b, (a, b) ∉ c.copied) :
    Copying.Meets (copyCell copy a cell) c
      (fun b c' => Progress h root opened c' ∧ c.copied <:+ c'.copied ∧ c'.To h a b)
      (¬ h.Sturdy (.ref a)) := by
  have ha := (h.get?_eq_some_iff_lt a).mp ⟨k, hk⟩
  by_cases hfragile : k.make = .fragile
  · have hrefused : cell = .fragile := by
      cases cell <;> simp_all [Cell.make]
    subst hrefused
    intro hsturdy
    obtain ⟨k', hk', hmake'⟩ := hsturdy a (.here a)
    rw [hk] at hk'
    cases hk'
    exact hmake' hfragile
  by_cases hatomic : k.make = .atomic
  · obtain ⟨items, rfl⟩ : ∃ items, cell = .atomic items := by
      cases cell <;> simp_all [Cell.make]
    exact ⟨hc, List.suffix_rfl, .inr ⟨rfl, k, hk, hatomic⟩⟩
  rw [copyCell_eq copy a cell (hmake ▸ hfragile) (hmake ▸ hatomic)]
  refine meets_bind _ _ _ _ _ _ (meets_imp _ _ _ _ _ _
    (meets_countCopy h root opened a ha cell c hc hcell) (fun _ _ h => h) False.elim) ?_
  rintro - c₁ ⟨hc₁, hcopied₁⟩
  -- The copy has its place before the parts are copied: they may lead back to the cell.
  have hopen := progress_reserved h root opened c₁ hc₁ a ha hreached cell.blank (hcopied₁ ▸ hnew)
  refine meets_bind _ (fun b c₂ => b = c₁.heap.size ∧ c₂ = c₁.reserved a cell.blank) _ _ _ _
    ⟨rfl, rfl⟩ ?_
  rintro b c₂ ⟨rfl, rfl⟩
  have hfuel₂ : h.size < fuel + (c₁.reserved a cell.blank).copied.length := by
    simp only [CopyState.reserved, List.length_cons, hcopied₁]
    omega
  have hunder : ∀ v ∈ cell.parts, h.Under root v := hparts ▸ under_part h hclosed root a hreached k hk
  refine meets_bind _ _ _ _ _ _ (meets_imp _ _ _ _ _ _
    (meets_copyParts h root fuel copy hcopy (a :: opened) cell _ hunder hopen hfuel₂)
    (fun _ _ h => h) ?_) ?_
  · rintro ⟨hopens, v, hv, hunsturdy⟩ hsturdy
    exact hunsturdy (h.sturdy_part a k hk (hmake ▸ hopens) hsturdy v (hparts ▸ hv))
  rintro ws c₃ ⟨hc₃, hsuffix, hlength, hws⟩
  obtain ⟨hmake', hparts'⟩ := cell.withParts_spec ws hlength
  have hab : (a, c₁.heap.size) ∈ c₃.copied := hsuffix.subset List.mem_cons_self
  refine ⟨?_, ?_, .inl hab⟩
  · refine progress_filled h root opened c₃ a hc₃ _ hab k _ hk hfragile (by rw [hmake', hmake]) ?_
    rw [hparts', hparts, hmake]
    exact hws
  · rw [← hcopied₁]
    exact (List.suffix_cons _ _).trans hsuffix

/-- Copying a value does as it should: the fuel is enough, since every cell is opened once. -/
theorem copies_copyValue (hclosed : h.Closed) (root : Value) (fuel : Nat) :
    Copies h root fuel (copyValue fuel) := by
  induction fuel with
  | zero =>
    intro v opened c hv hc hfuel
    cases v with
    | scalar s => exact ⟨hc, List.suffix_rfl, .scalar s⟩
    | ref a =>
      have := hc.length_le
      omega
  | succ fuel ih =>
    intro v opened c hv hc hfuel
    cases v with
    | scalar s => exact ⟨hc, List.suffix_rfl, .scalar s⟩
    | ref a =>
      obtain ⟨hlt, hreached⟩ := hv a rfl
      obtain ⟨k, hk⟩ := (h.get?_eq_some_iff_lt a).mpr hlt
      obtain ⟨cell, hcell, hmake, hparts⟩ := hc.kept a k hk
      unfold copyValue
      refine meets_bind _ (fun s c' => s = c ∧ c' = c) _ _ _ _ ⟨rfl, rfl⟩ ?_
      rintro s c' ⟨rfl, rfl⟩
      cases hlookup : c'.copied.lookup a with
      | some b =>
        obtain ⟨before, after, hcopied, -⟩ := List.lookup_eq_some_iff.mp hlookup
        exact ⟨hc, List.suffix_rfl, .ref a b (.inl (by simp [hcopied]))⟩
      | none =>
        simp only [hcell]
        have hnew : ∀ b, (a, b) ∉ c'.copied := by
          intro b hab
          simpa using List.lookup_eq_none_iff.mp hlookup (a, b) hab
        refine meets_bind _ _ _ _ _ _ (meets_copyCell h hclosed root fuel _ ih opened c' hc hfuel a k cell
          hk hcell hmake hparts hreached hnew) ?_
        rintro b c'' ⟨hc'', hsuffix, hab⟩
        exact ⟨hc'', hsuffix, .ref a b hab⟩

end

/-! The copy -/

/-- What a copy may have in common with what was copied: an atomic cell, or what a cell that shares has. -/
def Heap.Spares (h : Heap) (x : Address) : Prop :=
  (∃ k, h.get? x = some k ∧ k.make = .atomic) ∨
    ∃ y k, h.get? y = some k ∧ k.make.shares = true ∧ .ref x ∈ k.parts

/-- What a heap and a copy in it are to the heap before and the value that was copied. -/
structure Copied (h : Heap) (v : Value) (g : Heap) (w : Value) : Prop where
  kept : h.Kept g
  sturdy : h.Sturdy v
  alike : h.Alike v g w
  fresh : ∀ b : Nat, g.Reaches w b → h.size ≤ b ∨ h.Reaches v b ∧ ¬ h.Plain v
  value : ∀ x : Nat, w = .ref x → h.size ≤ x ∧ x < g.size ∨ h.Spares x
  parts : ∀ (b : Nat) l, h.size ≤ b → g.get? b = some l → ∀ x : Nat, .ref x ∈ l.parts →
    h.size ≤ x ∧ x < g.size ∨ h.Spares x
  insulated : h.Plain v → ∀ (b : Nat) l, h.size ≤ b → g.get? b = some l → l.make.shares = false ∧
    ∀ x : Nat, .ref x ∈ l.parts → h.size ≤ x ∧ x < g.size

section

variable (h : Heap) (root : Value) (c : CopyState) (hc : Progress h root [] c)

include hc

theorem new_or_spared_of_to (a b : Address) (hab : c.To h a b) :
    h.size ≤ b ∧ b < c.heap.size ∨ h.Spares b := by
  rcases hab with hab | ⟨rfl, hatomic⟩
  · exact .inl (hc.bounds a b hab).2
  · exact .inr (.inl hatomic)

theorem sturdy_of_to (v w : Value) (hvw : v.Related (c.To h) w) : h.Sturdy v := by
  intro a ha
  induction ha generalizing w with
  | here a =>
    cases hvw with
    | ref _ b hab =>
      rcases hab with hab | ⟨-, k, hk, hatomic⟩
      · obtain ⟨k, l, hk, hfragile, -⟩ := hc.done a b hab nofun
        exact ⟨k, hk, hfragile⟩
      · exact ⟨k, hk, by simp [hatomic]⟩
  | step a x k u hk hopens hu _ ih =>
    cases hvw with
    | ref _ b hab =>
      rcases hab with hab | ⟨-, k', hk', hatomic⟩
      · obtain ⟨k', l, hk', -, -, -, hparts⟩ := hc.done a b hab nofun
        rw [hk] at hk'
        cases hk'
        rw [CopyState.PartsTo, if_pos hopens] at hparts
        obtain ⟨u', -, hu'⟩ := exists_of_forall₂ _ _ _ hparts.flip u hu
        exact ih u' hu'
      · rw [hk] at hk'
        cases hk'
        rw [hatomic] at hopens
        cases hopens

end

/-- How cells correspond to what copies of them lead to: as they were copied, or if the value shares with its
copy, also each cell to itself. -/
def CopyState.Answers (h : Heap) (c : CopyState) (v : Value) (a b : Address) : Prop :=
  ((a, b) ∈ c.copied ∨ a = b ∧ a < h.size ∧ ¬ h.Plain v) ∧ h.Reaches v a

section

variable (h : Heap) (c : CopyState) (v : Value)

theorem answers_of_to (a b : Address) (ha : h.Reaches v a) (hab : c.To h a b) :
    c.Answers h v a b := by
  refine ⟨hab.imp_right ?_, ha⟩
  rintro ⟨rfl, k, hk, hatomic⟩
  refine ⟨rfl, (h.get?_eq_some_iff_lt a).mp ⟨k, hk⟩, fun hplain => ?_⟩
  have hshares := hplain a k ha hk
  rw [hatomic] at hshares
  cases hshares

theorem answers_self (u : Value) (hshares : ¬ h.Plain v) (hu : u.Below h.size)
    (hreach : ∀ x, u = .ref x → h.Reaches v x) : u.Related (c.Answers h v) u := by
  cases u with
  | scalar s => exact .scalar s
  | ref x => exact .ref x x ⟨.inr ⟨rfl, hu, hshares⟩, hreach x rfl⟩

theorem matches_answers (hclosed : h.Closed) (root : Value) (hc : Progress h root [] c) :
    h.Matches c.heap (c.Answers h v) := by
  have hpart : ∀ a k, h.Reaches v a → h.get? a = some k → ∀ x, .ref x ∈ k.parts → h.Reaches v x :=
    fun a k ha hk x hx => h.leads_part _ v a x ha k hk rfl (.ref x) hx (.here x)
  have hsame : ∀ a k, h.Reaches v a → h.get? a = some k → ¬ h.Plain v →
      List.Forall₂ (Value.Related (c.Answers h v)) k.parts k.parts := by
    intro a k ha hk hshares
    refine List.forall₂_same.mpr fun u hu => ?_
    exact answers_self h c v u hshares (hclosed a k hk u hu) fun x hx => hpart a k ha hk x (hx ▸ hu)
  rintro a b ⟨hab | ⟨rfl, hlt, hshares⟩, ha⟩
  · obtain ⟨k, l, hk, hfragile, hl, hmake, hparts⟩ := hc.done a b hab nofun
    refine ⟨k, l, hk, hl, hmake, ?_⟩
    unfold CopyState.PartsTo at hparts
    split at hparts
    · exact relatedParts_mono _ _ (fun x y hxy => answers_of_to h c v x y hxy.2 hxy.1) _ _
        (relatedParts_and _ (h.Reaches v) _ _ (hpart a k ha hk) hparts)
    · -- A copy that has the same parts is one of a cell that shares.
      rw [hparts]
      refine hsame a k ha hk fun hplain => ?_
      have hshares := (k.make.opens_or_shares hfragile).resolve_left (by assumption)
      rw [hplain a k ha hk] at hshares
      cases hshares
  · obtain ⟨k, hk⟩ := (h.get?_eq_some_iff_lt a).mpr hlt
    obtain ⟨l, hl, hmake, hparts⟩ := hc.kept a k hk
    exact ⟨k, l, hk, hl, hmake, hparts ▸ hsame a k ha hk hshares⟩

theorem biUnique_answers (root : Value) (hc : Progress h root [] c) (hplain : h.Plain v) :
    Relator.BiUnique (c.Answers h v) := by
  have hcopied : ∀ a b, c.Answers h v a b → (a, b) ∈ c.copied := fun a b hab =>
    hab.1.resolve_right fun hself => hself.2.2 hplain
  constructor
  · intro a a' b hab hab'
    exact hc.image_unique h root _ c a a' b (hcopied a b hab) (hcopied a' b hab')
  · intro a b b' hab hab'
    exact hc.key_unique h root _ c a b b' (hcopied a b hab) (hcopied a b' hab')

end

/-- The copy of a cell that nothing shares with leads to copies only. -/
theorem insulated_of_progress (h : Heap) (v : Value) (c : CopyState) (hc : Progress h v [] c)
    (hplain : h.Plain v) (b : Nat) (l : Cell) (hlo : h.size ≤ b) (hl : c.heap.get? b = some l) :
    l.make.shares = false ∧ ∀ x : Nat, .ref x ∈ l.parts → h.size ≤ x ∧ x < c.heap.size := by
  obtain ⟨a, hab⟩ := hc.covered b hlo ((c.heap.get?_eq_some_iff_lt b).mp ⟨l, hl⟩)
  obtain ⟨k, l', hk, hfragile, hl', hmake, hparts⟩ := hc.done a b hab nofun
  rw [hl] at hl'
  cases hl'
  have hreached := hc.reached a b hab
  have hshares := hplain a k hreached hk
  refine ⟨hmake ▸ hshares, fun x hx => ?_⟩
  have hopens := (k.make.opens_or_shares hfragile).resolve_right (by simp [hshares])
  rw [CopyState.PartsTo, if_pos hopens] at hparts
  obtain ⟨u, hu, hux⟩ := exists_of_forall₂ _ _ _ hparts _ hx
  cases hux with
  | ref a' _ hax =>
    rcases hax with hax | ⟨-, k', hk', hatomic⟩
    · exact (hc.bounds a' x hax).2
    · have hpart := h.leads_part _ v a a' hreached k hk rfl _ hu (.here a')
      have hshared := hplain a' k' hpart hk'
      rw [hatomic] at hshared
      cases hshared

theorem copied_of_progress (h : Heap) (hclosed : h.Closed) (v w : Value) (c : CopyState)
    (hc : Progress h v [] c) (hw : v.Related (c.To h) w) : Copied h v c.heap w := by
  have hmatches := matches_answers h c v hclosed v hc
  have hanswers : v.Related (c.Answers h v) w := by
    cases hw with
    | scalar s => exact .scalar s
    | ref a b hab => exact .ref a b (answers_of_to h c _ a b (.here a) hab)
  refine ⟨hc.kept, sturdy_of_to h v c hc v w hw, ⟨_, biUnique_answers h c v v hc, hmatches, hanswers⟩,
    ?_, ?_, ?_, insulated_of_progress h v c hc⟩
  · intro b hb
    obtain ⟨a, ⟨hab | ⟨rfl, -, hshares⟩, ha⟩, -⟩ := h.leads_of_matches _ c.heap _ hmatches v w hanswers b hb
    · exact .inl (hc.bounds a b hab).2.1
    · exact .inr ⟨ha, hshares⟩
  · rintro x rfl
    cases hw with
    | ref a _ hab => exact new_or_spared_of_to h _ c hc a x hab
  · intro b l hlo hl x hx
    obtain ⟨a, hab⟩ := hc.covered b hlo ((c.heap.get?_eq_some_iff_lt b).mp ⟨l, hl⟩)
    obtain ⟨k, l', hk, hfragile, hl', -, hparts⟩ := hc.done a b hab nofun
    rw [hl] at hl'
    cases hl'
    unfold CopyState.PartsTo at hparts
    split at hparts
    · obtain ⟨u, -, hu⟩ := exists_of_forall₂ _ _ _ hparts _ hx
      cases hu with
      | ref a' _ hax => exact new_or_spared_of_to h _ c hc a' x hax
    · exact .inr (.inr ⟨a, k, hk, (k.make.opens_or_shares hfragile).resolve_left (by assumption),
        hparts ▸ hx⟩)

theorem meets_deepCopy (h : Heap) (hclosed : h.Closed) (v : Value) (hv : v.Below h.size) :
    Copying.Meets (copyValue (h.size + 1) v) { heap := h } (fun w c => Copied h v c.heap w)
      (¬ h.Sturdy v) := by
  have hunder : h.Under v v := by
    rintro a rfl
    exact ⟨hv, .here a⟩
  refine meets_imp _ _ _ _ _ _
    (copies_copyValue h hclosed v (h.size + 1) v [] _ hunder (progress_start h v) (by simp)) ?_ id
  rintro w c ⟨hc, -, hw⟩
  exact copied_of_progress h hclosed v w c hc hw

/-- A deep copy that succeeds is one. -/
theorem copied_of_deepCopy (h : Heap) (hclosed : h.Closed) (v : Value) (hv : v.Below h.size)
    (w : Value) (hcopy : (h.deepCopy v).1 = .ok w) : Copied h v (h.deepCopy v).2 w := by
  have hmeets := meets_deepCopy h hclosed v hv
  unfold Copying.Meets at hmeets
  unfold Heap.deepCopy at hcopy ⊢
  generalize (copyValue (h.size + 1) v).run.run { heap := h } = result at hmeets hcopy ⊢
  obtain ⟨r, c⟩ := result
  cases hcopy
  exact hmeets

/-- Nothing but a fragile cell keeps a value from being copied. -/
theorem deepCopy_of_sturdy (h : Heap) (hclosed : h.Closed) (v : Value) (hv : v.Below h.size)
    (hsturdy : h.Sturdy v) : ∃ w, (h.deepCopy v).1 = .ok w := by
  have hmeets := meets_deepCopy h hclosed v hv
  unfold Copying.Meets at hmeets
  unfold Heap.deepCopy
  generalize (copyValue (h.size + 1) v).run.run { heap := h } = result at hmeets ⊢
  obtain ⟨r, c⟩ := result
  cases r with
  | error e => exact absurd hsturdy hmeets
  | ok w => exact ⟨w, rfl⟩

theorem spared_lt (h : Heap) (hclosed : h.Closed) (x : Address) (hx : h.Spares x) : x < h.size := by
  rcases hx with ⟨k, hk, -⟩ | ⟨y, k, hk, -, hpart⟩
  · exact (h.get?_eq_some_iff_lt x).mp ⟨k, hk⟩
  · exact hclosed y k hk _ hpart

section

variable {h g : Heap} {v w : Value} (hcopied : Copied h v g w)

include hcopied

theorem Copied.size_le : h.size ≤ g.size := h.size_le_of_kept g hcopied.kept

theorem Copied.below (hclosed : h.Closed) : w.Below g.size := by
  cases w with
  | scalar s => trivial
  | ref x =>
    rcases hcopied.value x rfl with ⟨-, hlt⟩ | hspared
    · exact hlt
    · exact Nat.lt_of_lt_of_le (spared_lt h hclosed x hspared) hcopied.size_le

theorem Copied.closed (hclosed : h.Closed) : g.Closed := by
  intro a d hd u hu
  by_cases ha : a < h.size
  · obtain ⟨c, hc⟩ := (h.get?_eq_some_iff_lt a).mpr ha
    obtain ⟨d', hd', -, hparts⟩ := hcopied.kept a c hc
    rw [hd] at hd'
    cases hd'
    exact u.below_mono _ _ hcopied.size_le (hclosed a c hc u (hparts ▸ hu))
  · cases u with
    | scalar s => trivial
    | ref x =>
      rcases hcopied.parts a d (Nat.le_of_not_lt ha) hd x hu with ⟨-, hlt⟩ | hspared
      · exact hlt
      · exact Nat.lt_of_lt_of_le (spared_lt h hclosed x hspared) hcopied.size_le

/-- A copy does not lead to what was there before and the copied value does not lead to. -/
theorem Copied.not_reaches (b : Address) (hb : b < h.size) (hv : ¬ h.Reaches v b) :
    ¬ g.Reaches w b := by
  intro hreach
  rcases hcopied.fresh b hreach with hle | ⟨hold, -⟩
  · exact absurd hb (Nat.not_lt.mpr hle)
  · exact hv hold

theorem Copied.sturdy_copy : g.Sturdy w := h.sturdy_of_alike g v w hcopied.alike hcopied.sturdy

end

/-! Copies that may be refused -/

/-- A piece of copying keeps the cells of `h`, also where it is refused, and what it returns is as it should
be. -/
def Copying.Retains {α : Type} (h : Heap) (x : Copying α) (c : CopyState) (Q : α → Prop) : Prop :=
  h.Kept (x.run.run c).2.heap ∧ ∀ r, (x.run.run c).1 = .ok r → Q r

section

variable {α β : Type} (h : Heap) (c : CopyState)

theorem retains_bind (Q : α → Prop) (R : β → Prop) (x : Copying α) (f : α → Copying β)
    (hx : Copying.Retains h x c Q)
    (hf : ∀ r c', h.Kept c'.heap → Q r → Copying.Retains h (f r) c' R) :
    Copying.Retains h (x >>= f) c R := by
  unfold Copying.Retains at hx ⊢
  rw [run_bind]
  generalize x.run.run c = result at hx
  obtain ⟨r, c'⟩ := result
  obtain ⟨hkept, hresult⟩ := hx
  cases r with
  | error e => exact ⟨hkept, nofun⟩
  | ok r => exact hf r c' hkept (hresult r rfl)

theorem retains_pure (hc : h.Kept c.heap) (a : α) : Copying.Retains h (pure a) c fun _ => True :=
  ⟨hc, fun _ _ => trivial⟩

theorem retains_get (R : β → Prop) (f : CopyState → Copying β) (hf : Copying.Retains h (f c) c R) :
    Copying.Retains h (get >>= f) c R := by
  unfold Copying.Retains at hf ⊢
  rw [run_bind]
  exact hf

theorem retains_reserve (hc : h.Kept c.heap) (a : Address) (blank : Cell) :
    Copying.Retains h (reserve a blank) c fun b => h.size ≤ b := by
  refine ⟨h.kept_alloc c.heap hc blank, fun b hb => ?_⟩
  cases hb
  exact h.size_le_of_kept c.heap hc

theorem retains_fill (hc : h.Kept c.heap) (b : Nat) (hb : h.size ≤ b) (l : Cell) :
    Copying.Retains h (fill b l) c fun _ => True :=
  ⟨h.kept_set_of_le c.heap hc b hb l, fun _ _ => trivial⟩

theorem retains_countCopy (hc : h.Kept c.heap) (a : Address) (cell : Cell)
    (hcell : c.heap.get? a = some cell) : Copying.Retains h (countCopy a cell) c fun _ => True := by
  cases cell with
  | tracked | shallow =>
    exact ⟨h.kept_set_of_same c.heap hc a _ _ hcell rfl rfl, fun _ _ => trivial⟩
  | list | record | atomic | fragile => exact ⟨hc, fun _ _ => trivial⟩

/-- A copying of values that keeps the cells of `h` from wherever it starts. -/
def Retentive (copy : Value → Copying Value) : Prop :=
  ∀ v c, h.Kept c.heap → Copying.Retains h (copy v) c fun _ => True

theorem retains_copyItems (copy : Value → Copying Value) (hcopy : Retentive h copy)
    (items : List Value) (hc : h.Kept c.heap) :
    Copying.Retains h (copyItems copy items) c fun _ => True := by
  induction items generalizing c with
  | nil => exact retains_pure h c hc _
  | cons v rest ih =>
    unfold copyItems
    refine retains_bind h c _ _ _ _ (hcopy v c hc) fun w c' hc' _ => ?_
    refine retains_bind h c' _ _ _ _ (ih c' hc') fun ws c'' hc'' _ => ?_
    exact retains_pure h c'' hc'' _

theorem retains_copyParts (copy : Value → Copying Value) (hcopy : Retentive h copy) (cell : Cell)
    (hc : h.Kept c.heap) : Copying.Retains h (copyParts copy cell) c fun _ => True := by
  unfold copyParts
  split
  · exact retains_copyItems h c copy hcopy _ hc
  · exact retains_pure h c hc _

theorem retains_copyCell (copy : Value → Copying Value) (hcopy : Retentive h copy)
    (hc : h.Kept c.heap) (a : Address) (cell : Cell) (hcell : c.heap.get? a = some cell) :
    Copying.Retains h (copyCell copy a cell) c fun _ => True := by
  by_cases hfragile : cell.make = .fragile
  · cases cell with
    | fragile => exact ⟨hc, nofun⟩
    | list | record | tracked | shallow | atomic => cases hfragile
  by_cases hatomic : cell.make = .atomic
  · cases cell with
    | atomic => exact retains_pure h c hc _
    | list | record | tracked | shallow | fragile => cases hatomic
  rw [copyCell_eq copy a cell hfragile hatomic]
  refine retains_bind h c _ _ _ _ (retains_countCopy h c hc a cell hcell) fun _ c₁ hc₁ _ => ?_
  refine retains_bind h c₁ _ _ _ _ (retains_reserve h c₁ hc₁ a _) fun b c₂ hc₂ hb => ?_
  refine retains_bind h c₂ _ _ _ _ (retains_copyParts h c₂ copy hcopy cell hc₂) fun ws c₃ hc₃ _ => ?_
  refine retains_bind h c₃ _ _ _ _ (retains_fill h c₃ hc₃ b hb _) fun _ c₄ hc₄ _ => ?_
  exact retains_pure h c₄ hc₄ _

theorem retentive_copyValue (fuel : Nat) : Retentive h (copyValue fuel) := by
  induction fuel with
  | zero =>
    intro v c hc
    cases v with
    | scalar s => exact retains_pure h c hc _
    | ref a => exact ⟨hc, nofun⟩
  | succ fuel ih =>
    intro v c hc
    cases v with
    | scalar s => exact retains_pure h c hc _
    | ref a =>
      unfold copyValue
      refine retains_get h c _ _ ?_
      cases c.copied.lookup a with
      | some b => exact retains_pure h c hc _
      | none =>
        cases hcell : c.heap.get? a with
        | none => exact ⟨hc, nofun⟩
        | some cell =>
          refine retains_bind h c _ _ _ _ (retains_copyCell h c _ ih hc a cell hcell) ?_
          exact fun b c' hc' _ => retains_pure h c' hc' _

end

/-- All cells are kept, but for counts, whether the copy is made or refused. -/
theorem kept_deepCopy (h : Heap) (v : Value) : h.Kept (h.deepCopy v).2 :=
  (retentive_copyValue h (h.size + 1) v { heap := h } h.kept_refl).1

end Crosswalk.Live

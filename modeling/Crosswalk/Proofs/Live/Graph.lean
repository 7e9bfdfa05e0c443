import Mathlib.Data.List.Forall2
import Mathlib.Logic.Relation
import Mathlib.Logic.Relator
import Crosswalk.Live.Heap

/-! Values as graphs of cells. What a value leads to, what a copy of it comes to, values of one structure, and
heaps that keep the cells of another. A value of the structure of a sturdy one is sturdy. Writing to an object
leaves a value that does not lead there as it was, and leads no other value there. -/

namespace Crosswalk.Live

/-! Cells -/

/-- What a cell is, but for its parts and its count of copies. -/
inductive Make
  | list
  | record (kind : RecordKind) (refusals : List (String × AccessError)) (keys : List String)
  | tracked
  | shallow
  | atomic
  | fragile
  deriving DecidableEq

def Cell.make : Cell → Make
  | .list _ => .list
  | .record r => .record r.kind r.refusals r.fields.keys
  | .tracked .. => .tracked
  | .shallow .. => .shallow
  | .atomic _ => .atomic
  | .fragile => .fragile

def Cell.parts : Cell → List Value
  | .list items => items
  | .record r => r.fields.toList.map (·.2)
  | .tracked _ payload => [payload]
  | .shallow _ items => items
  | .atomic items => items
  | .fragile => []

/-- Whether a copy of such a cell has copies of its parts. -/
def Make.opens : Make → Bool
  | .list | .record .. | .tracked => true
  | .shallow | .atomic | .fragile => false

/-- Whether a copy of such a cell has what the cell has. -/
def Make.shares : Make → Bool
  | .shallow | .atomic => true
  | .list | .record .. | .tracked | .fragile => false

theorem Make.opens_or_shares (m : Make) (h : m ≠ .fragile) : m.opens = true ∨ m.shares = true := by
  cases m with
  | list | record | tracked => exact .inl rfl
  | shallow | atomic => exact .inr rfl
  | fragile => exact absurd rfl h

theorem record_of_same (r : Record) (d : Cell) (hmake : (Cell.record r).make = d.make)
    (hparts : (Cell.record r).parts = d.parts) : d = .record r := by
  cases d with
  | record r' =>
    obtain ⟨kind, fields, refusals⟩ := r
    obtain ⟨kind', fields', refusals'⟩ := r'
    obtain ⟨entries⟩ := fields
    obtain ⟨entries'⟩ := fields'
    simp only [Cell.make, Make.record.injEq] at hmake
    obtain ⟨rfl, rfl, hkeys⟩ := hmake
    have hentries : entries = entries' := by
      rw [← List.zip_unzip entries, ← List.zip_unzip entries', List.unzip_eq_map, List.unzip_eq_map]
      exact congrArg₂ List.zip hkeys hparts
    rw [hentries]
  | list | tracked | shallow | atomic | fragile => cases hmake

/-- Equal scalars, or references to related cells. -/
inductive Value.Related (R : Address → Address → Prop) : Value → Value → Prop
  | scalar (s : Scalar) : Related R (.scalar s) (.scalar s)
  | ref (a b : Address) (h : R a b) : Related R (.ref a) (.ref b)

/-- A value that leads to no cell, or to one below an address. -/
def Value.Below (n : Nat) : Value → Prop
  | .scalar _ => True
  | .ref a => a < n

instance (n : Nat) : (v : Value) → Decidable (v.Below n)
  | .scalar _ => isTrue trivial
  | .ref a => inferInstanceAs (Decidable (a < n))

theorem Value.below_mono (m n : Nat) (hle : m ≤ n) (v : Value) (h : v.Below m) : v.Below n := by
  cases v with
  | scalar s => trivial
  | ref a => exact Nat.lt_of_lt_of_le h hle

section

variable (R S : Address → Address → Prop)

theorem related_mono (h : ∀ a b, R a b → S a b) (v w : Value) (hv : v.Related R w) :
    v.Related S w := by
  cases hv with
  | scalar s => exact .scalar s
  | ref a b hab => exact .ref a b (h a b hab)

theorem related_flip (v w : Value) (h : v.Related R w) : w.Related (fun b a => R a b) v := by
  cases h with
  | scalar s => exact .scalar s
  | ref a b hab => exact .ref b a hab

theorem related_comp (v w u : Value) (h : v.Related R w) (h' : w.Related S u) :
    v.Related (Relation.Comp R S) u := by
  cases h with
  | scalar s =>
    cases h'
    exact .scalar s
  | ref a b hab =>
    cases h' with
    | ref _ c hbc => exact .ref a c ⟨b, hab, hbc⟩

theorem relatedParts_comp (vs ws us : List Value) (h : List.Forall₂ (Value.Related R) vs ws)
    (h' : List.Forall₂ (Value.Related S) ws us) :
    List.Forall₂ (Value.Related (Relation.Comp R S)) vs us := by
  induction h generalizing us with
  | nil =>
    cases h'
    exact .nil
  | cons hfirst _ ih =>
    cases h' with
    | cons hfirst' hrest' => exact .cons (related_comp R S _ _ _ hfirst hfirst') (ih _ hrest')

theorem exists_of_forall₂ {α β : Type} (T : α → β → Prop) (vs : List α) (ws : List β)
    (h : List.Forall₂ T vs ws) (w : β) (hw : w ∈ ws) : ∃ v ∈ vs, T v w := by
  induction h with
  | nil => cases hw
  | cons hfirst _ ih =>
    rcases List.mem_cons.mp hw with rfl | hw
    · exact ⟨_, List.mem_cons_self, hfirst⟩
    · obtain ⟨v, hv, hvw⟩ := ih hw
      exact ⟨v, List.mem_cons_of_mem _ hv, hvw⟩

theorem relatedParts_mono (h : ∀ a b, R a b → S a b) (vs ws : List Value)
    (hvs : List.Forall₂ (Value.Related R) vs ws) : List.Forall₂ (Value.Related S) vs ws :=
  hvs.imp (related_mono R S h)

/-- What is known of the cells that parts lead to may be added to how they are related. -/
theorem relatedParts_and (P : Address → Prop) (vs ws : List Value)
    (hP : ∀ a, .ref a ∈ vs → P a) (hvs : List.Forall₂ (Value.Related R) vs ws) :
    List.Forall₂ (Value.Related fun a b => R a b ∧ P a) vs ws := by
  have hboth := List.forall₂_and_left (p := (· ∈ vs)) vs ws |>.mpr ⟨fun _ h => h, hvs⟩
  refine hboth.imp fun v w ⟨hv, hvw⟩ => ?_
  cases hvw with
  | scalar s => exact .scalar s
  | ref a b hab => exact .ref a b ⟨hab, hP a hv⟩

end

namespace Heap

/-! What a value leads to -/

/-- Whether a value leads to a cell by way of cells of certain makes. -/
inductive Leads (through : Make → Bool) (h : Heap) : Value → Address → Prop
  | here (a : Address) : Leads through h (.ref a) a
  | step (a b : Address) (c : Cell) (v : Value) (hc : h.get? a = some c)
      (hthrough : through c.make = true) (hv : v ∈ c.parts) (hb : Leads through h v b) :
      Leads through h (.ref a) b

abbrev Reaches (h : Heap) : Value → Address → Prop := h.Leads fun _ => true

/-- What a deep copy of a value comes to. -/
abbrev Enters (h : Heap) : Value → Address → Prop := h.Leads Make.opens

/-- No cell leads to where none is. -/
def Closed (h : Heap) : Prop := ∀ a c, h.get? a = some c → ∀ v ∈ c.parts, v.Below h.size

theorem reaches_of_leads (through : Make → Bool) (h : Heap) (v : Value) (a : Address)
    (ha : h.Leads through v a) : h.Reaches v a := by
  induction ha with
  | here a => exact .here a
  | step a b c v hc _ hv _ ih => exact .step a b c v hc rfl hv ih

/-- What a part of something leads to, that leads to as well. -/
theorem leads_part (through : Make → Bool) (h : Heap) (v : Value) (a b : Address)
    (ha : h.Leads through v a) (c : Cell) (hc : h.get? a = some c) (hthrough : through c.make = true)
    (u : Value) (hu : u ∈ c.parts) (hb : h.Leads through u b) : h.Leads through v b := by
  induction ha with
  | here a => exact .step a b c u hc hthrough hu hb
  | step a _ d v hd hthrough' hv _ ih => exact .step a b d v hd hthrough' hv (ih hc)

theorem get?_eq_some_iff_lt (h : Heap) (a : Nat) : (∃ c, h.get? a = some c) ↔ a < h.size := by
  simp [get?, size, ← Option.isSome_iff_exists]

theorem get?_eq_none_of_le (h : Heap) (a : Nat) (ha : h.size ≤ a) : h.get? a = none := by
  cases hget : h.get? a with
  | none => rfl
  | some c =>
    have hlt := (h.get?_eq_some_iff_lt a).mp ⟨c, hget⟩
    omega

theorem below_of_leads (through : Make → Bool) (h : Heap) (hclosed : h.Closed) (v : Value)
    (hv : v.Below h.size) (a : Address) (ha : h.Leads through v a) : a < h.size := by
  induction ha with
  | here a => exact hv
  | step a b c v hc _ hpart _ ih => exact ih (hclosed a c hc v hpart)

/-- A value whose deep copy comes to no fragile cell, and to none that is missing. -/
def Sturdy (h : Heap) (v : Value) : Prop :=
  ∀ a, h.Enters v a → ∃ c, h.get? a = some c ∧ c.make ≠ .fragile

/-- A value that leads to no cell that shares with its copies. -/
def Plain (h : Heap) (v : Value) : Prop :=
  ∀ a c, h.Reaches v a → h.get? a = some c → c.make.shares = false

theorem sturdy_part (h : Heap) (a : Address) (c : Cell) (hc : h.get? a = some c)
    (hopens : c.make.opens = true) (hsturdy : h.Sturdy (.ref a)) (v : Value) (hv : v ∈ c.parts) :
    h.Sturdy v :=
  fun b hb => hsturdy b (.step a b c v hc hopens hv hb)

theorem plain_part (h : Heap) (v : Value) (hplain : h.Plain v) (a : Address) (ha : h.Reaches v a)
    (c : Cell) (hc : h.get? a = some c) (u : Value) (hu : u ∈ c.parts) : h.Plain u :=
  fun b d hb => hplain b d (h.leads_part _ v a b ha c hc rfl u hu hb)

/-! Heaps that keep another -/

/-- A cell of the same make with the same parts; its count may be another. -/
def KeepsCell (g : Heap) (a : Address) (c : Cell) : Prop :=
  ∃ d, g.get? a = some d ∧ c.make = d.make ∧ c.parts = d.parts

/-- Every cell is still there. -/
def Kept (h g : Heap) : Prop := ∀ a c, h.get? a = some c → g.KeepsCell a c

/-- Every cell but one is still there. -/
structure KeptBut (b : Address) (h g : Heap) : Prop where
  size : h.size ≤ g.size
  cells : ∀ a c, a ≠ b → h.get? a = some c → g.KeepsCell a c

/-- Every cell that a value leads to is still there. -/
def KeptAlong (h g : Heap) (v : Value) : Prop :=
  ∀ a c, h.Reaches v a → h.get? a = some c → g.KeepsCell a c

theorem keepsCell_trans (g k : Heap) (a : Address) (c : Cell) (hg : g.KeepsCell a c)
    (hk : ∀ d, g.get? a = some d → k.KeepsCell a d) : k.KeepsCell a c := by
  obtain ⟨d, hd, hmake, hparts⟩ := hg
  obtain ⟨e, he, hmake', hparts'⟩ := hk d hd
  exact ⟨e, he, hmake.trans hmake', hparts.trans hparts'⟩

theorem kept_refl (h : Heap) : h.Kept h := fun _ c hc => ⟨c, hc, rfl, rfl⟩

theorem kept_trans (h g k : Heap) (hg : h.Kept g) (gk : g.Kept k) : h.Kept k :=
  fun a c hc => g.keepsCell_trans k a c (hg a c hc) (gk a)

theorem size_le_of_kept (h g : Heap) (hkept : h.Kept g) : h.size ≤ g.size := by
  by_contra hlt
  obtain ⟨c, hc⟩ := (h.get?_eq_some_iff_lt g.size).mpr (by omega)
  obtain ⟨d, hd, -⟩ := hkept _ c hc
  have := (g.get?_eq_some_iff_lt g.size).mp ⟨d, hd⟩
  omega

theorem record_of_kept (h g : Heap) (hkept : h.Kept g) (a : Address) (r : Record)
    (hr : h.get? a = some (.record r)) : g.get? a = some (.record r) := by
  obtain ⟨d, hd, hmake, hparts⟩ := hkept a _ hr
  rw [hd, record_of_same r d hmake hparts]

theorem keptBut_of_kept (b : Address) (h g : Heap) (hkept : h.Kept g) : h.KeptBut b g where
  size := h.size_le_of_kept g hkept
  cells a c _ hc := hkept a c hc

theorem keptBut_refl (b : Address) (h : Heap) : h.KeptBut b h := h.keptBut_of_kept b h h.kept_refl

theorem keptBut_trans (b : Address) (h g k : Heap) (hg : h.KeptBut b g) (gk : g.KeptBut b k) :
    h.KeptBut b k where
  size := Nat.le_trans hg.size gk.size
  cells a c ha hc := g.keepsCell_trans k a c (hg.cells a c ha hc) fun d => gk.cells a d ha

theorem keptAlong_of_kept (h g : Heap) (hkept : h.Kept g) (v : Value) : h.KeptAlong g v :=
  fun a c _ hc => hkept a c hc

theorem keptAlong_of_keptBut (b : Address) (h g : Heap) (hkept : h.KeptBut b g) (v : Value)
    (hv : ¬ h.Reaches v b) : h.KeptAlong g v := by
  intro a c ha hc
  refine hkept.cells a c ?_ hc
  rintro rfl
  exact hv ha

/-! Changes that keep cells -/

theorem kept_set_of_same (h g : Heap) (hkept : h.Kept g) (a : Nat) (k l : Cell)
    (hk : g.get? a = some k) (hmake : k.make = l.make) (hparts : k.parts = l.parts) :
    h.Kept (g.set a l) := by
  intro x d hd
  obtain ⟨e, he, hmake', hparts'⟩ := hkept x d hd
  by_cases hx : a = x
  · subst hx
    rw [hk] at he
    cases he
    have hlt := (g.get?_eq_some_iff_lt a).mp ⟨k, hk⟩
    exact ⟨l, g.get?_set_self a l hlt, hmake'.trans hmake, hparts'.trans hparts⟩
  · exact ⟨e, (g.get?_set_of_ne a x l hx).trans he, hmake', hparts'⟩

theorem kept_set_of_le (h g : Heap) (hkept : h.Kept g) (b : Nat) (hb : h.size ≤ b) (l : Cell) :
    h.Kept (g.set b l) := by
  intro x d hd
  obtain ⟨e, he, hsame⟩ := hkept x d hd
  have hlt := (h.get?_eq_some_iff_lt x).mp ⟨d, hd⟩
  have hne : b ≠ x := by omega
  exact ⟨e, (g.get?_set_of_ne b x l hne).trans he, hsame⟩

theorem kept_alloc (h g : Heap) (hkept : h.Kept g) (l : Cell) : h.Kept (g.alloc l).1 := by
  intro x d hd
  obtain ⟨e, he, hsame⟩ := hkept x d hd
  have hlt := (g.get?_eq_some_iff_lt x).mp ⟨e, he⟩
  exact ⟨e, (g.get?_alloc_of_lt l x hlt).trans he, hsame⟩

theorem keptBut_set (h : Heap) (b : Address) (l : Cell) : h.KeptBut b (h.set b l) where
  size := Nat.le_of_eq (h.size_set b l).symm
  cells a c ha hc := ⟨c, (h.get?_set_of_ne b a l ha.symm).trans hc, rfl, rfl⟩

/-! What is kept of a value -/

section

variable (through : Make → Bool) (h g : Heap) (v : Value)

theorem keptAlong_part (hkept : h.KeptAlong g v) (a : Address) (ha : h.Reaches v a) (c : Cell)
    (hc : h.get? a = some c) (u : Value) (hu : u ∈ c.parts) : h.KeptAlong g u :=
  fun b d hb => hkept b d (h.leads_part _ v a b ha c hc rfl u hu hb)

theorem leads_of_keptAlong (hkept : h.KeptAlong g v) (a : Address) (ha : h.Leads through v a) :
    g.Leads through v a := by
  induction ha with
  | here a => exact .here a
  | step a b c v hc hthrough hv _ ih =>
    obtain ⟨d, hd, hmake, hparts⟩ := hkept a c (.here a) hc
    exact .step a b d v hd (hmake ▸ hthrough) (hparts ▸ hv)
      (ih (h.keptAlong_part g _ hkept a (.here a) c hc v hv))

variable (hclosed : h.Closed) (hv : v.Below h.size)

include hclosed hv

theorem leads_iff_of_keptAlong (hkept : h.KeptAlong g v) (a : Address) :
    g.Leads through v a ↔ h.Leads through v a := by
  refine ⟨fun ha => ?_, h.leads_of_keptAlong through g v hkept a⟩
  induction ha with
  | here a => exact .here a
  | step a b d u hd hthrough hu _ ih =>
    obtain ⟨c, hc⟩ := (h.get?_eq_some_iff_lt a).mpr hv
    obtain ⟨d', hd', hmake, hparts⟩ := hkept a c (.here a) hc
    rw [hd] at hd'
    cases hd'
    have hpart : u ∈ c.parts := hparts ▸ hu
    exact .step a b c u hc (hmake ▸ hthrough) hpart
      (ih (hclosed a c hc u hpart) (h.keptAlong_part g _ hkept a (.here a) c hc u hpart))

theorem sturdy_iff_of_keptAlong (hkept : h.KeptAlong g v) : g.Sturdy v ↔ h.Sturdy v := by
  refine forall_congr' fun a => ?_
  refine imp_congr_ctx (h.leads_iff_of_keptAlong Make.opens g v hclosed hv hkept a) fun ha => ?_
  have hreach := h.reaches_of_leads Make.opens v a ha
  obtain ⟨c, hc⟩ := (h.get?_eq_some_iff_lt a).mpr (h.below_of_leads _ hclosed v hv a ha)
  obtain ⟨d, hd, hmake, -⟩ := hkept a c hreach hc
  simp only [hc, hd, Option.some.injEq, exists_eq_left', hmake]

theorem plain_iff_of_keptAlong (hkept : h.KeptAlong g v) : g.Plain v ↔ h.Plain v := by
  constructor
  · intro hplain a c ha hc
    obtain ⟨d, hd, hmake, -⟩ := hkept a c ha hc
    exact hmake ▸ hplain a d (h.leads_of_keptAlong _ g v hkept a ha) hd
  · intro hplain a d ha hd
    have hreach := (h.leads_iff_of_keptAlong _ g v hclosed hv hkept a).mp ha
    obtain ⟨c, hc⟩ := (h.get?_eq_some_iff_lt a).mpr (h.below_of_leads _ hclosed v hv a hreach)
    obtain ⟨d', hd', hmake, -⟩ := hkept a c hreach hc
    rw [hd] at hd'
    cases hd'
    exact hmake ▸ hplain a c hreach hc

/-- Whatever is written to an object, it leads no other value there. -/
theorem reaches_iff_of_keptBut (b : Address) (hkept : h.KeptBut b g) :
    g.Reaches v b ↔ h.Reaches v b := by
  constructor
  · intro hb
    generalize heq : b = b' at hb
    induction hb with
    | here a => exact .here a
    | step a _ d u hd hthrough hu _ ih =>
      by_cases hab : a = b
      · rw [hab, ← heq]
        exact .here b
      · obtain ⟨c, hc⟩ := (h.get?_eq_some_iff_lt a).mpr hv
        obtain ⟨d', hd', -, hparts⟩ := hkept.cells a c hab hc
        rw [hd] at hd'
        cases hd'
        have hpart : u ∈ c.parts := hparts ▸ hu
        exact .step a _ c u hc rfl hpart (ih (hclosed a c hc u hpart) heq)
  · intro hb
    generalize heq : b = b' at hb
    induction hb with
    | here a => exact .here a
    | step a _ c u hc hthrough hu _ ih =>
      by_cases hab : a = b
      · rw [hab, ← heq]
        exact .here b
      · obtain ⟨d, hd, -, hparts⟩ := hkept.cells a c hab hc
        exact .step a _ d u hd rfl (hparts ▸ hu) (ih (hclosed a c hc u hu) heq)

end

/-! Values of one structure -/

/-- Related cells are of one make, and their parts are related. -/
def Matches (h g : Heap) (R : Address → Address → Prop) : Prop :=
  ∀ a b, R a b → ∃ c d, h.get? a = some c ∧ g.get? b = some d ∧ c.make = d.make ∧
    List.Forall₂ (Value.Related R) c.parts d.parts

/-- Two values, each in a heap, of the same structure: their cells correspond, and but for the counts of
copies they hold the same. Cells correspond one to one unless the first value leads to one that shares. -/
def Alike (h : Heap) (v : Value) (g : Heap) (w : Value) : Prop :=
  ∃ R, (h.Plain v → Relator.BiUnique R) ∧ h.Matches g R ∧ v.Related R w

theorem matches_flip (h g : Heap) (R : Address → Address → Prop) (hmatches : h.Matches g R) :
    g.Matches h (fun b a => R a b) := by
  intro b a hab
  obtain ⟨c, d, hc, hd, hmake, hparts⟩ := hmatches a b hab
  exact ⟨d, c, hd, hc, hmake.symm, (List.Forall₂.flip hparts).imp fun u u' => related_flip R u' u⟩

/-- What a value leads to corresponds to what the other leads to. -/
theorem leads_of_matches (through : Make → Bool) (h g : Heap) (R : Address → Address → Prop)
    (hmatches : h.Matches g R) (v w : Value) (hv : v.Related R w) (b : Address)
    (hb : g.Leads through w b) : ∃ a, R a b ∧ h.Leads through v a := by
  induction hb generalizing v with
  | here b =>
    cases hv with
    | ref a _ hab => exact ⟨a, hab, .here a⟩
  | step b b' d w' hd hthrough hw' _ ih =>
    cases hv with
    | ref a _ hab =>
      obtain ⟨c, d', hc, hd', hmake, hparts⟩ := hmatches a b hab
      rw [hd] at hd'
      cases hd'
      obtain ⟨v', hv', hrelated⟩ := exists_of_forall₂ _ c.parts d.parts hparts w' hw'
      obtain ⟨a', hab', hreach⟩ := ih v' hrelated
      exact ⟨a', hab', .step a a' c v' hc (hmake ▸ hthrough) hv' hreach⟩

theorem plain_of_matches (h g : Heap) (R : Address → Address → Prop) (hmatches : h.Matches g R)
    (v w : Value) (hv : v.Related R w) (hplain : h.Plain v) : g.Plain w := by
  intro b d hb hd
  obtain ⟨a, hab, ha⟩ := h.leads_of_matches _ g R hmatches v w hv b hb
  obtain ⟨c, d', hc, hd', hmake, -⟩ := hmatches a b hab
  rw [hd] at hd'
  cases hd'
  exact hmake ▸ hplain a c ha hc

theorem alike_refl (h : Heap) (hclosed : h.Closed) (v : Value) (hv : v.Below h.size) :
    h.Alike v h v := by
  have hself : ∀ u : Value, u.Below h.size → u.Related (fun a b => a = b ∧ a < h.size) u := by
    intro u hu
    cases u with
    | scalar s => exact .scalar s
    | ref a => exact .ref a a ⟨rfl, hu⟩
  refine ⟨fun a b => a = b ∧ a < h.size, fun _ => ⟨?_, ?_⟩, ?_, hself v hv⟩
  · rintro a b c ⟨rfl, -⟩ ⟨rfl, -⟩
    rfl
  · rintro a b c ⟨rfl, -⟩ ⟨rfl, -⟩
    rfl
  · rintro a b ⟨rfl, ha⟩
    obtain ⟨c, hc⟩ := (h.get?_eq_some_iff_lt a).mpr ha
    exact ⟨c, c, hc, hc, rfl, List.forall₂_same.mpr fun u hu => hself u (hclosed a c hc u hu)⟩

theorem alike_symm (h g : Heap) (v w : Value) (halike : h.Alike v g w) : g.Alike w h v := by
  obtain ⟨R, hunique, hmatches, hv⟩ := halike
  have hflipped := h.matches_flip g R hmatches
  refine ⟨fun b a => R a b, fun hplain => ?_, hflipped, related_flip R v w hv⟩
  obtain ⟨hleft, hright⟩ := hunique
    (g.plain_of_matches h _ hflipped w v (related_flip R v w hv) hplain)
  exact ⟨fun _ _ _ ha hb => hright ha hb, fun _ _ _ ha hb => hleft ha hb⟩

theorem alike_trans (h g k : Heap) (v w u : Value) (hvw : h.Alike v g w) (hwu : g.Alike w k u) :
    h.Alike v k u := by
  obtain ⟨R, hunique, hmatches, hv⟩ := hvw
  obtain ⟨S, hunique', hmatches', hw⟩ := hwu
  refine ⟨Relation.Comp R S, fun hplain => ⟨?_, ?_⟩, ?_, related_comp R S v w u hv hw⟩
  · obtain ⟨hleft, -⟩ := hunique hplain
    obtain ⟨hleft', -⟩ := hunique' (h.plain_of_matches g R hmatches v w hv hplain)
    rintro a b c ⟨x, hax, hxc⟩ ⟨y, hby, hyc⟩
    rw [hleft' hxc hyc] at hax
    exact hleft hax hby
  · obtain ⟨-, hright⟩ := hunique hplain
    obtain ⟨-, hright'⟩ := hunique' (h.plain_of_matches g R hmatches v w hv hplain)
    rintro a b c ⟨x, hax, hxb⟩ ⟨y, hay, hyc⟩
    rw [hright hax hay] at hxb
    exact hright' hxb hyc
  · rintro a c ⟨b, hab, hbc⟩
    obtain ⟨x, y, hx, hy, hmake, hparts⟩ := hmatches a b hab
    obtain ⟨y', z, hy', hz, hmake', hparts'⟩ := hmatches' b c hbc
    rw [hy] at hy'
    cases hy'
    exact ⟨x, z, hx, hz, hmake.trans hmake',
      relatedParts_comp R S x.parts y.parts z.parts hparts hparts'⟩

/-- A value goes on to have its structure while the cells it leads to are kept. -/
theorem alike_of_keptAlong (h h' g : Heap) (v w : Value) (hkept : h.KeptAlong h' v)
    (halike : h.Alike v g w) : h'.Alike v g w := by
  obtain ⟨R, hunique, hmatches, hv⟩ := halike
  refine ⟨fun a b => R a b ∧ h.Reaches v a, fun hplain => ?_, ?_, ?_⟩
  · have hplain' : h.Plain v := by
      intro a c ha hc
      obtain ⟨d, hd, hmake, -⟩ := hkept a c ha hc
      exact hmake ▸ hplain a d (h.leads_of_keptAlong _ h' v hkept a ha) hd
    obtain ⟨hleft, hright⟩ := hunique hplain'
    exact ⟨fun _ _ _ ha hb => hleft ha.1 hb.1, fun _ _ _ ha hb => hright ha.1 hb.1⟩
  · rintro a b ⟨hab, ha⟩
    obtain ⟨c, d, hc, hd, hmake, hparts⟩ := hmatches a b hab
    obtain ⟨c', hc', hmake', hparts'⟩ := hkept a c ha hc
    refine ⟨c', d, hc', hd, hmake'.symm.trans hmake, ?_⟩
    rw [← hparts']
    exact relatedParts_and R (h.Reaches v) _ _
      (fun x hx => h.leads_part _ v a x ha c hc rfl (.ref x) hx (.here x)) hparts
  · cases hv with
    | scalar s => exact .scalar s
    | ref a b hab => exact .ref a b ⟨hab, .here a⟩

theorem alike_of_kept (h g h' g' : Heap) (v w : Value) (hh : h.KeptAlong h' v)
    (hg : g.KeptAlong g' w) (halike : h.Alike v g w) : h'.Alike v g' w := by
  have hleft := h.alike_of_keptAlong h' g v w hh halike
  exact g'.alike_symm h' w v (g.alike_of_keptAlong g' h' w v hg (h'.alike_symm g v w hleft))

theorem alike_self_of_keptAlong (h g : Heap) (hclosed : h.Closed) (v : Value) (hv : v.Below h.size)
    (hkept : h.KeptAlong g v) : h.Alike v g v :=
  h.alike_of_kept h h g v v (h.keptAlong_of_kept h h.kept_refl v) hkept (h.alike_refl hclosed v hv)

theorem sturdy_of_alike (h g : Heap) (v w : Value) (halike : h.Alike v g w) (hsturdy : h.Sturdy v) :
    g.Sturdy w := by
  obtain ⟨R, -, hmatches, hv⟩ := halike
  intro b hb
  obtain ⟨a, hab, ha⟩ := h.leads_of_matches Make.opens g R hmatches v w hv b hb
  obtain ⟨c, d, hc, hd, hmake, -⟩ := hmatches a b hab
  obtain ⟨c', hc', hfragile⟩ := hsturdy a ha
  rw [hc] at hc'
  cases hc'
  exact ⟨d, hd, hmake ▸ hfragile⟩

theorem plain_of_alike (h g : Heap) (v w : Value) (halike : h.Alike v g w) (hplain : h.Plain v) :
    g.Plain w := by
  obtain ⟨R, -, hmatches, hv⟩ := halike
  exact h.plain_of_matches g R hmatches v w hv hplain

/-- Only the absent value has the structure of the absent value. -/
theorem none_of_alike (h g : Heap) (w : Value) (halike : h.Alike .none g w) : w = .none := by
  obtain ⟨R, -, -, hv⟩ := halike
  cases hv
  rfl

/-! Writing to objects -/

/-- The values of an object after writing are those before, and the one that was written. -/
theorem mem_parts_put (r : Record) (name : String) (w u : Value)
    (hu : u ∈ (Cell.record (r.put name w)).parts) : u = w ∨ u ∈ (Cell.record r).parts := by
  simp only [Cell.parts, Record.put, OrderedMap.insert] at hu ⊢
  generalize r.fields.toList = entries at hu ⊢
  induction entries with
  | nil => simpa [OrderedMap.put] using hu
  | cons e rest ih =>
    obtain ⟨key, v⟩ := e
    unfold OrderedMap.put at hu
    split at hu
    · rw [List.map_cons, List.mem_cons] at hu
      exact hu.imp_right fun h => List.mem_cons_of_mem v h
    · rw [List.map_cons, List.mem_cons] at hu
      rcases hu with rfl | hu
      · exact .inr List.mem_cons_self
      · exact (ih hu).imp_right fun h => List.mem_cons_of_mem v h

section

variable (h : Heap) (b : Address) (r : Record) (hr : h.get? b = some (.record r)) (name : String)
  (w : Value)

include hr

theorem get?_put (a : Address) :
    (h.set b (.record (r.put name w))).get? a =
      if b = a then some (.record (r.put name w)) else h.get? a := by
  have hlt := (h.get?_eq_some_iff_lt b).mp ⟨_, hr⟩
  by_cases hab : b = a
  · rw [if_pos hab, ← hab, h.get?_set_self b _ hlt]
  · rw [if_neg hab, h.get?_set_of_ne b a _ hab]

/-- What a cell has after writing, it had before, unless it was written. -/
theorem mem_parts_of_put (a : Address) (d : Cell)
    (hd : (h.set b (.record (r.put name w))).get? a = some d) (u : Value) (hu : u ∈ d.parts) :
    b = a ∧ u = w ∨ ∃ c, h.get? a = some c ∧ c.make.opens = d.make.opens ∧ u ∈ c.parts := by
  rw [h.get?_put b r hr name w a] at hd
  split at hd
  · cases hd
    rcases mem_parts_put r name w u hu with rfl | hu
    · exact .inl ⟨by assumption, rfl⟩
    · exact .inr ⟨.record r, by rwa [← (by assumption : b = a)], rfl, hu⟩
  · exact .inr ⟨d, hd, rfl, hu⟩

theorem closed_put (hclosed : h.Closed) (hw : w.Below h.size) :
    (h.set b (.record (r.put name w))).Closed := by
  intro a d hd u hu
  rw [size_set]
  rcases h.mem_parts_of_put b r hr name w a d hd u hu with ⟨-, rfl⟩ | ⟨c, hc, -, hu⟩
  · exact hw
  · exact hclosed a c hc u hu

/-- Writing what is sturdy to an object leaves everything sturdy that was. -/
theorem sturdy_put (hw : h.Sturdy w) (v : Value) (hv : h.Sturdy v) :
    (h.set b (.record (r.put name w))).Sturdy v := by
  intro a ha
  induction ha with
  | here a =>
    obtain ⟨c, hc, hfragile⟩ := hv a (.here a)
    rw [h.get?_put b r hr name w a]
    split
    · exact ⟨_, rfl, nofun⟩
    · exact ⟨c, hc, hfragile⟩
  | step a _ d u hd hopens hu _ ih =>
    rcases h.mem_parts_of_put b r hr name w a d hd u hu with ⟨-, rfl⟩ | ⟨c, hc, hsame, hu⟩
    · exact ih hw
    · exact ih (h.sturdy_part a c hc (hsame.trans hopens) hv u hu)

theorem plain_put (hw : h.Plain w) (v : Value) (hv : h.Plain v) :
    (h.set b (.record (r.put name w))).Plain v := by
  intro a d ha hd
  induction ha with
  | here a =>
    rw [h.get?_put b r hr name w a] at hd
    split at hd
    · cases hd
      rfl
    · exact hv a d (.here a) hd
  | step a _ e u he _ hu _ ih =>
    rcases h.mem_parts_of_put b r hr name w a e he u hu with ⟨-, rfl⟩ | ⟨c, hc, -, hu⟩
    · exact ih hw hd
    · exact ih (h.plain_part _ hv a (.here a) c hc u hu) hd

end

end Heap
end Crosswalk.Live

import Crosswalk.Proofs.Live.Copying

/-! Cells that are led to by way of one field only. The new cells of a copy of what nothing shares are such, once
it is stored: whatever else leads to them leads to the object that it is stored in. Later copies do not get at
them, and neither does writing their results. -/

namespace Crosswalk.Live
namespace Heap

/-- A stretch of cells that lead to each other alone and share nothing with their copies. Nothing else leads to
them but one field of an object outside. -/
structure Fenced (h : Heap) (lo hi : Nat) (b : Address) (name : String) : Prop where
  bound : hi ≤ h.size
  outer : b < lo
  inside : ∀ (k : Nat) c, lo ≤ k → k < hi → h.get? k = some c →
    c.make.shares = false ∧ ∀ x : Nat, .ref x ∈ c.parts → lo ≤ x ∧ x < hi
  outside : ∀ (k : Nat) c, k < lo ∨ hi ≤ k → k ≠ b → h.get? k = some c →
    ∀ x : Nat, .ref x ∈ c.parts → x < lo ∨ hi ≤ x
  fields : ∀ r, h.get? b = some (.record r) → ∀ other (x : Nat), other ≠ name →
    r.fields.get? other = some (.ref x) → x < lo ∨ hi ≤ x

section

variable (h g : Heap) (lo hi : Nat) (b : Address) (name : String)

/-- What leads in from outside leads to the object by whose field it does. -/
theorem reaches_of_fenced (hfenced : h.Fenced lo hi b name) (v : Value)
    (hv : ∀ x : Nat, v = .ref x → x < lo ∨ hi ≤ x) (c : Nat) (hlo : lo ≤ c) (hhi : c < hi)
    (hc : h.Reaches v c) : h.Reaches v b := by
  induction hc with
  | here c => have := hv c rfl; omega
  | step k c d u hd _ hu hc ih =>
    by_cases hkb : k = b
    · rw [hkb]
      exact .here b
    · refine .step k b d u hd rfl hu (ih ?_ hlo hhi)
      rintro x rfl
      exact hfenced.outside k d (hv k rfl) hkb hd x hu

theorem inside_of_fenced (hfenced : h.Fenced lo hi b name) (v : Value)
    (hv : ∀ x : Nat, v = .ref x → lo ≤ x ∧ x < hi) (c : Nat) (hc : h.Reaches v c) :
    lo ≤ c ∧ c < hi := by
  induction hc with
  | here c => exact hv c rfl
  | step k c d u hd _ hu _ ih =>
    obtain ⟨hlo, hhi⟩ := hv k rfl
    refine ih ?_
    rintro x rfl
    exact (hfenced.inside k d hlo hhi hd).2 x hu

/-- No copy gets at what is fenced off. -/
theorem outside_of_spared (hfenced : h.Fenced lo hi b name) (r : Record)
    (hr : h.get? b = some (.record r)) (x : Nat) (hx : h.Spares x) : x < lo ∨ hi ≤ x := by
  rcases hx with ⟨k, hk, hatomic⟩ | ⟨y, k, hk, hshares, hpart⟩
  · by_contra hin
    have hinside := (hfenced.inside x k (by omega) (by omega) hk).1
    rw [hatomic] at hinside
    cases hinside
  · refine hfenced.outside y k ?_ ?_ hk x hpart
    · by_contra hin
      have hinside := (hfenced.inside y k (by omega) (by omega) hk).1
      rw [hshares] at hinside
      cases hinside
    · rintro rfl
      rw [hr] at hk
      cases hk
      cases hshares

/-- The new cells of a copy, before it is stored. -/
theorem fenced_of_copied (hclosed : h.Closed) (v w : Value) (hcopied : Copied h v g w)
    (hplain : h.Plain v) (hb : b < h.size) : g.Fenced h.size g.size b name where
  bound := Nat.le_refl _
  outer := hb
  inside k c hlo _ hc := hcopied.insulated hplain k c hlo hc
  outside k d hk _ hd x hx := by
    have hlt := (g.get?_eq_some_iff_lt k).mp ⟨d, hd⟩
    obtain ⟨c, hc⟩ := (h.get?_eq_some_iff_lt k).mpr (by omega)
    obtain ⟨d', hd', -, hparts⟩ := hcopied.kept k c hc
    rw [hd] at hd'
    cases hd'
    exact .inl (hclosed k c hc (.ref x) (hparts ▸ hx))
  fields r hr other x _ hx := by
    obtain ⟨c, hc⟩ := (h.get?_eq_some_iff_lt b).mpr hb
    obtain ⟨d, hd, -, hparts⟩ := hcopied.kept b c hc
    rw [hr] at hd
    cases hd
    have hmem : Value.ref x ∈ (Cell.record r).parts :=
      List.mem_map_of_mem (OrderedMap.mem_of_find r.fields.toList other _ hx)
    exact .inl (hclosed b c hc (.ref x) (hparts ▸ hmem))

/-- A later copy is beyond the fence, or is no new cell. -/
theorem outside_of_copied (hfenced : h.Fenced lo hi b name) (r : Record)
    (hr : h.get? b = some (.record r)) (v w : Value) (hcopied : Copied h v g w) :
    ∀ x : Nat, w = .ref x → x < lo ∨ hi ≤ x := by
  intro x hx
  have hbound := hfenced.bound
  rcases hcopied.value x hx with hnew | hspared
  · omega
  · exact h.outside_of_spared lo hi b name hfenced r hr x hspared

theorem fenced_copied (hfenced : h.Fenced lo hi b name) (r : Record)
    (hr : h.get? b = some (.record r)) (v w : Value) (hcopied : Copied h v g w) :
    g.Fenced lo hi b name := by
  have hbound := hfenced.bound
  have hsize := hcopied.size_le
  have hold : ∀ (k : Nat) d, k < h.size → g.get? k = some d →
      ∃ c, h.get? k = some c ∧ c.make = d.make ∧ c.parts = d.parts := by
    intro k d hk hd
    obtain ⟨c, hc⟩ := (h.get?_eq_some_iff_lt k).mpr hk
    obtain ⟨d', hd', hsame⟩ := hcopied.kept k c hc
    rw [hd] at hd'
    cases hd'
    exact ⟨c, hc, hsame⟩
  refine ⟨by omega, hfenced.outer, fun k d hlo hhi hd => ?_, fun k d hk hkb hd x hx => ?_, ?_⟩
  · obtain ⟨c, hc, hmake, hparts⟩ := hold k d (by omega) hd
    exact hmake ▸ hparts ▸ hfenced.inside k c hlo hhi hc
  · by_cases hlt : k < h.size
    · obtain ⟨c, hc, -, hparts⟩ := hold k d hlt hd
      exact hfenced.outside k c hk hkb hc x (hparts ▸ hx)
    · rcases hcopied.parts k d (Nat.le_of_not_lt hlt) hd x hx with hnew | hspared
      · omega
      · exact h.outside_of_spared lo hi b name hfenced r hr x hspared
  · intro r' hr'
    rw [h.record_of_kept g hcopied.kept b r hr] at hr'
    cases hr'
    exact hfenced.fields r hr

/-- Writing what is outside to the object, or writing over the field that leads inside. -/
theorem fenced_put (hfenced : h.Fenced lo hi b name) (r : Record)
    (hr : h.get? b = some (.record r)) (written : String) (w : Value)
    (hw : written ≠ name → ∀ x : Nat, w = .ref x → x < lo ∨ hi ≤ x) :
    (h.set b (.record (r.put written w))).Fenced lo hi b name := by
  have hget := h.get?_put b r hr written w
  refine ⟨?_, hfenced.outer, fun k c hlo hhi hc => ?_, fun k c hk hkb hc => ?_, ?_⟩
  · rw [size_set]
    exact hfenced.bound
  · have hne : b ≠ k := Nat.ne_of_lt (Nat.lt_of_lt_of_le hfenced.outer hlo)
    rw [hget k, if_neg hne] at hc
    exact hfenced.inside k c hlo hhi hc
  · rw [hget k, if_neg (Ne.symm hkb)] at hc
    exact hfenced.outside k c hk hkb hc
  · intro r' hr' other x hother hx
    rw [hget b, if_pos rfl] at hr'
    cases hr'
    rw [Record.put, OrderedMap.get?_insert] at hx
    split at hx
    · cases hx
      exact hw (by rwa [(by assumption : written = other)]) x rfl
    · exact hfenced.fields r hr other x hother hx

end

end Heap
end Crosswalk.Live

import Crosswalk.Proofs.Live.Copying

/-! What becomes of objects. A deep copy leaves every object as it was, and writing leaves every other one so.
No step of an update loses an object, or a field of one. -/

namespace Crosswalk.Live

def Store.IsObject (s : Store) (o : ObjectId) : Prop := ∃ r, s.object? o = some r

theorem object?_of_kept (s t : Store) (hkept : s.heap.Kept t.heap) (o : ObjectId) (r : Record)
    (hr : s.object? o = some r) : t.object? o = some r :=
  (object?_eq_some_iff t o r).mpr
    (s.heap.record_of_kept t.heap hkept o r ((object?_eq_some_iff s o r).mp hr))

theorem field_of_kept (s t : Store) (hkept : s.heap.Kept t.heap) (o : ObjectId) (ho : s.IsObject o)
    (name : String) : t.field o name = s.field o name := by
  obtain ⟨r, hr⟩ := ho
  unfold Store.field
  rw [hr, object?_of_kept s t hkept o r hr]

theorem kept_afterCopy (s : Store) (v : Value) : s.heap.Kept (s.afterCopy v).heap :=
  kept_deepCopy s.heap v

theorem lt_of_isObject (s : Store) (o : ObjectId) (ho : s.IsObject o) : o < s.heap.size := by
  obtain ⟨r, hr⟩ := ho
  exact (s.heap.get?_eq_some_iff_lt o).mp ⟨_, (object?_eq_some_iff s o r).mp hr⟩

theorem isObject_of_field (s : Store) (o : ObjectId) (name : String) (v : Value)
    (hv : s.field o name = .ok v) : s.IsObject o := by
  obtain ⟨r, hr, -⟩ := (field_eq_ok_iff s o name v).mp hv
  exact ⟨r, hr⟩

/-! No object is lost -/

/-- Every object is still there, of its kind and with all its fields. -/
def Store.Extends (s s' : Store) : Prop :=
  ∀ (o : ObjectId) (r : Record), s.object? o = some r →
    ∃ r' : Record, s'.object? o = some r' ∧ r'.kind = r.kind ∧
      ∀ name, r.fields.contains name = true → r'.fields.contains name = true

theorem extends_refl (s : Store) : s.Extends s := fun _ r h => ⟨r, h, rfl, fun _ h => h⟩

theorem extends_trans (s t u : Store) (hst : s.Extends t) (htu : t.Extends u) : s.Extends u := by
  intro o r hr
  obtain ⟨r', hr', hkind, hfields⟩ := hst o r hr
  obtain ⟨r'', hr'', hkind', hfields'⟩ := htu o r' hr'
  exact ⟨r'', hr'', hkind'.trans hkind, fun name h => hfields' name (hfields name h)⟩

theorem extends_of_kept (s t : Store) (hkept : s.heap.Kept t.heap) : s.Extends t :=
  fun o r hr => ⟨r, object?_of_kept s t hkept o r hr, rfl, fun _ h => h⟩

theorem extends_afterWrite (s : Store) (o : ObjectId) (r : Record) (hr : s.object? o = some r)
    (name : String) (v : Value) : s.Extends (s.afterWrite o r name v) := by
  intro o' q hq
  rw [object?_afterWrite s o r hr name v o']
  by_cases ho : o = o'
  · subst ho
    rw [hr] at hq
    cases hq
    refine ⟨r.put name v, if_pos rfl, rfl, fun other hother => ?_⟩
    exact (r.contains_put name other v).mpr (.inr hother)
  · exact ⟨q, (if_neg ho).trans hq, rfl, fun _ h => h⟩

theorem isObject_of_extends (s s' : Store) (h : s.Extends s') (o : ObjectId) (ho : s.IsObject o) :
    s'.IsObject o := by
  obtain ⟨r, hr⟩ := ho
  obtain ⟨r', hr', -⟩ := h o r hr
  exact ⟨r', hr'⟩

/-- A field that can be read stays one. -/
theorem field_of_extends (s s' : Store) (h : s.Extends s') (o : ObjectId) (name : String)
    (v : Value) (hv : s.field o name = .ok v) : ∃ w, s'.field o name = .ok w := by
  obtain ⟨r, hr, hget⟩ := (field_eq_ok_iff s o name v).mp hv
  obtain ⟨r', hr', -, hfields⟩ := h o r hr
  have hcontains := hfields name (by simp [OrderedMap.contains, hget])
  obtain ⟨w, hw⟩ := Option.isSome_iff_exists.mp hcontains
  exact ⟨w, (field_eq_ok_iff s' o name w).mpr ⟨r', hr', hw⟩⟩

/-! Steps -/

theorem extends_write (o : ObjectId) (name : String) (v : Value) :
    (write o name v).Keeps Store.Extends := by
  intro s
  rw [run_write]
  cases hr : s.object? o with
  | none => exact extends_refl s
  | some r =>
    cases hcheck : r.checkWrite name with
    | error e => simpa only [hcheck] using extends_refl s
    | ok u => simpa only [hcheck] using extends_afterWrite s o r hr name v

theorem extends_applyAction (a : FieldAction) (source target : ObjectId) :
    (applyAction a source target).Keeps Store.Extends :=
  keeps_applyAction Store.Extends extends_refl extends_trans
    (fun s v => extends_of_kept s _ (kept_afterCopy s v)) source target (extends_write target) a

theorem extends_applyActions (actions : List FieldAction) (a b : ObjectId) :
    (applyActions a b actions).Keeps Store.Extends := by
  induction actions with
  | nil => exact keeps_pure _ extends_refl _
  | cons x rest ih => exact keeps_bind _ extends_trans _ _ (extends_applyAction x a b) fun _ => ih

end Crosswalk.Live

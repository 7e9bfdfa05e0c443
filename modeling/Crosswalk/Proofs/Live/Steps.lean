import Crosswalk.Live.Execution

/-! How steps on live objects run. Reading changes nothing, and writing changes one field of one object. What
every part of a step keeps of the store, the whole step keeps. -/

namespace Crosswalk.Live

/-- What reading a field of an object gives. -/
def Store.field (s : Store) (o : ObjectId) (name : String) : Except LiveError Value :=
  match s.object? o with
  | some r => (r.get name).mapError .access
  | none => .error .unknownObject

/-- The store after a deep copy, whether it succeeds or not. -/
def Store.afterCopy (s : Store) (v : Value) : Store :=
  { s with heap := (s.heap.deepCopy v).2, copied := v :: s.copied }

/-- The store after a field of an object was written. -/
def Store.afterWrite (s : Store) (o : ObjectId) (r : Record) (name : String) (v : Value) : Store :=
  { s with heap := s.heap.set o (.record (r.put name v)) }

theorem object?_eq_some_iff (s : Store) (o : ObjectId) (r : Record) :
    s.object? o = some r ↔ s.heap.get? o = some (.record r) := by
  unfold Store.object?
  cases s.heap.get? o with
  | none => simp
  | some c => cases c <;> simp

theorem object?_afterWrite (s : Store) (o : ObjectId) (r : Record) (hr : s.object? o = some r)
    (name : String) (v : Value) (o' : ObjectId) :
    (s.afterWrite o r name v).object? o' = if o = o' then some (r.put name v) else s.object? o' := by
  have hlt : o < s.heap.size :=
    (List.getElem?_eq_some_iff.mp ((object?_eq_some_iff s o r).mp hr)).1
  unfold Store.afterWrite Store.object?
  by_cases ho : o = o'
  · rw [if_pos ho, ← ho]
    simp only [s.heap.get?_set_self o _ hlt]
  · rw [if_neg ho]
    simp only [s.heap.get?_set_of_ne o o' _ ho]

section

variable {ε σ α β : Type}

theorem run_bind (x : ExceptT ε (StateM σ) α) (f : α → ExceptT ε (StateM σ) β) (s : σ) :
    (x >>= f).run.run s =
      match x.run.run s with
      | (.ok a, s') => (f a).run.run s'
      | (.error e, s') => (.error e, s') := by
  simp only [ExceptT.run_bind, StateT.run_bind]
  cases x.run.run s with
  | mk r s' => cases r <;> rfl

theorem run_pure (a : α) (s : σ) :
    (pure a : ExceptT ε (StateM σ) α).run.run s = (.ok a, s) := rfl

theorem run_get (s : σ) : (get : ExceptT ε (StateM σ) σ).run.run s = (.ok s, s) := rfl

theorem run_set (s t : σ) : (set t : ExceptT ε (StateM σ) Unit).run.run s = (.ok (), t) := rfl

end

/-! Single steps -/

theorem run_read (o : ObjectId) (name : String) (s : Store) :
    (read o name).run.run s = (s.field o name, s) := by
  unfold read record Store.field
  simp only [run_bind, run_get]
  cases s.object? o with
  | none => rfl
  | some r =>
    simp only [run_pure]
    cases r.get name <;> rfl

theorem run_write (o : ObjectId) (name : String) (v : Value) (s : Store) :
    (write o name v).run.run s =
      match s.object? o with
      | none => (.error .unknownObject, s)
      | some r =>
        match r.checkWrite name with
        | .ok () => (.ok (), s.afterWrite o r name v)
        | .error e => (.error (.access e), s) := by
  unfold write record
  simp only [run_bind, run_get]
  cases s.object? o with
  | none => rfl
  | some r =>
    simp only [run_pure, Record.set]
    cases r.checkWrite name <;> rfl

theorem run_deepCopy (v : Value) (s : Store) :
    (deepCopy v).run.run s = ((s.heap.deepCopy v).1.mapError .copy, s.afterCopy v) := by
  unfold deepCopy Store.afterCopy
  simp only [run_bind, run_get, run_set]
  cases (s.heap.deepCopy v).1 <;> rfl

theorem run_strict (d : Declarations) (arguments : OrderedMap String Value) (s : Store) :
    ((RecordClass.strict d).build arguments).run.run s =
      match if arguments.keys.all d.has then d.fill arguments else none with
      | some fields =>
        (.ok s.heap.size, { s with heap := (s.heap.alloc (.record (.plain .extensible fields))).1 })
      | none => (.error (.build .badArguments), s) := by
  unfold RecordClass.build RecordClass.strict
  by_cases hall : arguments.keys.all d.has = true
  · simp only [hall, if_true]
    cases d.fill arguments <;> rfl
  · simp only [hall, Bool.false_eq_true, if_false]
    rfl

/-! What steps keep -/

/-- A step leaves every store related to the one it started from, whether it fails or not. -/
def Step.Keeps {α : Type} (R : Store → Store → Prop) (x : Step α) : Prop :=
  ∀ s, R s (x.run.run s).2

section

variable {α β : Type} (R : Store → Store → Prop)

theorem keeps_bind (trans : ∀ s t u, R s t → R t u → R s u) (x : Step α) (f : α → Step β)
    (hx : x.Keeps R) (hf : ∀ a, (f a).Keeps R) : (x >>= f).Keeps R := by
  intro s
  have hs := hx s
  rw [run_bind]
  generalize x.run.run s = result at hs
  obtain ⟨r, s'⟩ := result
  cases r with
  | error e => exact hs
  | ok a => exact trans _ _ _ hs (hf a s')

theorem keeps_pure (refl : ∀ s, R s s) (a : α) : (pure a : Step α).Keeps R := refl

theorem keeps_read (refl : ∀ s, R s s) (o : ObjectId) (name : String) : (read o name).Keeps R := by
  intro s
  rw [run_read]
  exact refl s

theorem keeps_deepCopy (copy : ∀ s v, R s (s.afterCopy v)) (v : Value) : (deepCopy v).Keeps R := by
  intro s
  rw [run_deepCopy]
  exact copy s v

variable (refl : ∀ s, R s s) (trans : ∀ s t u, R s t → R t u → R s u)
  (copy : ∀ s v, R s (s.afterCopy v)) (source target : ObjectId)
  (write_ : ∀ name v, (write target name v).Keeps R)

include refl copy in
theorem keeps_copyIf (needed : Bool) (v : Value) : (copyIf needed v).Keeps R := by
  unfold copyIf
  split
  · exact keeps_deepCopy R copy v
  · exact keeps_pure R refl v

include refl trans in
theorem keeps_isKept (a : FieldAction) : (isKept a target).Keeps R := by
  unfold isKept
  split
  · exact keeps_bind R trans _ _ (keeps_read R refl _ _) fun _ => keeps_pure R refl _
  · exact keeps_pure R refl _

include refl trans copy write_ in
/-- An action keeps what reading, copying and writing to the target keep. -/
theorem keeps_applyAction (a : FieldAction) : (applyAction a source target).Keeps R := by
  unfold applyAction
  refine keeps_bind R trans _ _ (keeps_read R refl _ _) fun value => ?_
  refine keeps_bind R trans _ _ (keeps_copyIf R refl copy _ _) fun value => ?_
  refine keeps_bind R trans _ _ (keeps_isKept R refl trans target a) fun kept => ?_
  split
  · exact keeps_pure R refl _
  split
  · exact keeps_pure R refl _
  refine keeps_bind R trans _ _ (keeps_copyIf R refl copy _ _) fun value => ?_
  exact write_ _ _

end

/-! What steps deliver -/

/-- From a store of one kind a step ends with a result in a store of another kind, unless a copy is
refused. -/
def Step.Delivers {α : Type} (P : Store → Prop) (x : Step α) (Q : α → Store → Prop) : Prop :=
  ∀ s, P s →
    match x.run.run s with
    | (.ok r, s') => Q r s'
    | (.error e, _) => ∃ reason, e = .copy reason

section

variable {α β : Type} (P : Store → Prop) (Q : α → Store → Prop)

theorem delivers_bind (R : β → Store → Prop) (x : Step α) (f : α → Step β)
    (hx : x.Delivers P Q) (hf : ∀ a, (f a).Delivers (Q a) R) : (x >>= f).Delivers P R := by
  intro s hs
  have hresult := hx s hs
  rw [run_bind]
  generalize x.run.run s = result at hresult
  obtain ⟨r, s'⟩ := result
  cases r with
  | error e => exact hresult
  | ok a => exact hf a s' hresult

theorem delivers_pure (a : α) (h : ∀ s, P s → Q a s) : (pure a : Step α).Delivers P Q := h

end

section

variable (P : Store → Prop) (Q : Value → Store → Prop)

theorem delivers_read (o : ObjectId) (name : String)
    (h : ∀ s, P s → ∃ v, s.field o name = .ok v ∧ Q v s) : (read o name).Delivers P Q := by
  intro s hs
  obtain ⟨v, hv, hq⟩ := h s hs
  rw [run_read, hv]
  exact hq

theorem delivers_copyIf (needed : Bool) (v : Value)
    (kept : ∀ s, P s → Q v s)
    (copied : ∀ s w, P s → (s.heap.deepCopy v).1 = .ok w → Q w (s.afterCopy v)) :
    (copyIf needed v).Delivers P Q := by
  intro s hs
  unfold copyIf
  cases needed with
  | false => exact kept s hs
  | true =>
    simp only [if_true]
    rw [run_deepCopy]
    cases hcopy : (s.heap.deepCopy v).1 with
    | error e => exact ⟨e, rfl⟩
    | ok w => exact copied s w hs hcopy

end

/-- Where no copy is refused, a step that delivers ends well. -/
theorem ok_of_delivers {α : Type} (P : Store → Prop) (Q : α → Store → Prop) (x : Step α)
    (h : x.Delivers P Q) (s : Store) (hs : P s)
    (hcopies : ∀ reason, (x.run.run s).1 ≠ .error (.copy reason)) :
    ∃ r s', x.run.run s = (.ok r, s') ∧ Q r s' := by
  have hresult := h s hs
  generalize x.run.run s = result at hresult hcopies
  obtain ⟨r, s'⟩ := result
  cases r with
  | ok a => exact ⟨a, s', rfl, hresult⟩
  | error e =>
    obtain ⟨reason, rfl⟩ := hresult
    exact absurd rfl (hcopies reason)

theorem delivers_write (P : Store → Prop) (Q : Unit → Store → Prop) (o : ObjectId) (name : String)
    (v : Value)
    (h : ∀ s, P s → ∃ r, s.object? o = some r ∧ r.checkWrite name = .ok () ∧
      Q () (s.afterWrite o r name v)) :
    (write o name v).Delivers P Q := by
  intro s hs
  obtain ⟨r, hr, hcheck, hq⟩ := h s hs
  rw [run_write, hr]
  simp only [hcheck]
  exact hq

theorem applyActions_append (source target : ObjectId) (first second : List FieldAction) :
    applyActions source target (first ++ second) =
      (do applyActions source target first; applyActions source target second) := by
  induction first with
  | nil => simp [applyActions]
  | cons a rest ih => simp [applyActions, ih]

theorem run_applyActions_append (a b : ObjectId) (first second : List FieldAction) (s : Store) :
    (applyActions a b (first ++ second)).run.run s =
      match (applyActions a b first).run.run s with
      | (.ok _, t) => (applyActions a b second).run.run t
      | (.error e, t) => (.error e, t) := by
  rw [applyActions_append, run_bind]
  obtain ⟨r, t⟩ := (applyActions a b first).run.run s
  cases r <;> rfl

/-! Fields -/

theorem field_eq_ok_iff (s : Store) (o : ObjectId) (name : String) (v : Value) :
    s.field o name = .ok v ↔ ∃ r, s.object? o = some r ∧ r.fields.get? name = some v := by
  unfold Store.field
  cases s.object? o with
  | none => simp
  | some r =>
    unfold Record.get
    cases hf : r.fields.get? name <;> simp [hf]

theorem field_afterWrite (s : Store) (o : ObjectId) (r : Record) (name : String) (v : Value)
    (hr : s.object? o = some r) (o' : ObjectId) (name' : String) :
    (s.afterWrite o r name v).field o' name' =
      if o = o' ∧ name = name' then .ok v else s.field o' name' := by
  unfold Store.field
  rw [object?_afterWrite s o r hr name v o']
  by_cases ho : o = o'
  · subst ho
    simp only [if_true, hr, true_and, Record.get_put]
    split <;> rfl
  · simp only [ho, if_false, false_and]

/-! Plans -/

theorem ensureValid_eq_ok_iff (p : Plan) : ensureValid p = .ok () ↔ p.problems = [] := by
  unfold ensureValid
  cases p.problems <;> simp

theorem run_mergeInto (p : Plan) (hmode : p.mode.isMerge = true) (hvalid : ensureValid p = .ok ())
    (a b : ObjectId) (s : Store) :
    mergeInto p a b s =
      ((((applyActions a b p.actions).run.run s).1.map fun _ => b).mapError .live,
        ((applyActions a b p.actions).run.run s).2) := by
  unfold mergeInto checkMerge
  simp only [hmode, if_true, hvalid, Step.after, run_bind]
  cases (applyActions a b p.actions).run.run s with
  | mk r s' => cases r <;> rfl

/-- A construction builds its class from what it gathers. -/
theorem run_convert (p : Plan) (hmode : p.mode.isMerge = false) (hvalid : ensureValid p = .ok ())
    (o : ObjectId) (c : RecordClass) (s : Store) (arguments : OrderedMap String Value)
    (hgather : (gather o .empty p.actions).run.run s = (.ok arguments, s)) :
    convert p o c s = Step.after (.ok ()) (c.build arguments) s := by
  unfold convert checkConstruction
  simp only [hmode, Bool.false_eq_true, if_false, hvalid, Step.after, run_bind, hgather]

/-- An article with a list of tags, and an empty draft. -/
def desk : Store where
  heap := ⟨[.record (.plain .extensible [("tags", .ref 2), ("size", .scalar (.integer 3))]),
    .record (.plain .validated [("tags", .none), ("size", .none)]), .list []]⟩

end Crosswalk.Live

import Crosswalk.Proofs.Live.Agreement
import Crosswalk.Proofs.Live.Copying

/-! What an update does, action by action. An action goes one of four ways: it stores nothing, or has made a
copy in vain, or stores the source's value, or a copy of it. The account of an update says what each action has
stored. Stores without loose ends stay so, and of their cells only the target changes, but for counts. -/

namespace Crosswalk.Live

open Emission (admits)

/-- An action of a variant: it reads and writes fields of one name, has the flags of the variant, and copies
early only what it wraps as a whole. -/
structure Orderly (v : Variant) (x : FieldAction) : Prop where
  name : x.source = x.target
  clone : x.clone = v.mode.clones
  onlyIfAbsent : x.onlyIfAbsent = v.soft
  eager : x.eagerClone = true → x.clone = true ∧ x.onlyIfAbsent = true ∧ x.kind = .wrap

/-- What copies nothing copies nothing early. -/
theorem lazy_of_orderly (v : Variant) (x : FieldAction) (hx : Orderly v x) (hclone : x.clone = false) :
    x.eagerClone = false := by
  by_contra heager
  obtain ⟨hcloned, -⟩ := hx.eager (by simpa using heager)
  rw [hclone] at hcloned
  cases hcloned

theorem orderly_of_synthesized (source target : Schema) (v : Variant) (path : Option TargetPath)
    (location : Option Location) (x : FieldAction)
    (hx : x ∈ (Plan.synthesize source target v path location).actions) : Orderly v x := by
  have hname := (Plan.action_fields source target v path location x hx).1
  have heager := Plan.action_eager source target v path location x hx
  obtain ⟨-, pair, -, hmap⟩ := (Plan.mem_actions source target v path location x).mp hx
  obtain ⟨kind, eager, -, rfl⟩ := FieldPair.allows_of_map pair v x hmap
  exact ⟨hname, rfl, rfl, heager⟩

/-- A plan of an update without errors can be carried out and has a function, and its actions are of its
variant. -/
theorem valid_of_errors_nil (source target : Schema) (v : Variant) (path : Option TargetPath)
    (location : Option Location) (p : Plan) (hp : p = Plan.synthesize source target v path location)
    (hmerge : v.mode.isMerge = true) (herrors : p.errors = []) :
    p.mode.isMerge = true ∧ ensureValid p = .ok () ∧ p.shapeValid = true ∧
      ∀ x ∈ p.actions, Orderly v x := by
  subst hp
  have hmode : (Plan.synthesize source target v path location).mode.isMerge = true := by
    rw [Plan.mode_synthesize]
    exact hmerge
  have hshape := Plan.shapeError_of_errors_nil source target v path location herrors
  refine ⟨hmode, ?_, Plan.shapeValid_synthesize source target v path location hshape,
    orderly_of_synthesized source target v path location⟩
  rw [ensureValid_eq_ok_iff, Plan.problems_of_merge _ hmode, herrors]

/-- How an action goes that does not fail: the store it leaves, and what it has stored. -/
inductive Acts (x : FieldAction) (a b : ObjectId) (s : Store) : Store → Option Value → Prop
  | skipped (v : Value) (hv : s.field a x.source = .ok v) (hlazy : x.eagerClone = false)
      (hno : admits x b v s = .ok false) : Acts x a b s s none
  | wasted (v w : Value) (hv : s.field a x.source = .ok v) (heager : x.eagerClone = true)
      (hcopy : (s.heap.deepCopy v).1 = .ok w) (hno : admits x b v s = .ok false) :
    Acts x a b s (s.afterCopy v) none
  | moved (v : Value) (r : Record) (hv : s.field a x.source = .ok v) (hclone : x.clone = false)
      (hyes : admits x b v s = .ok true) (hr : s.object? b = some r)
      (hwrite : r.checkWrite x.target = .ok ()) :
    Acts x a b s (s.afterWrite b r x.target v) (some v)
  | copied (v w : Value) (r : Record) (hv : s.field a x.source = .ok v) (hclone : x.clone = true)
      (hcopy : (s.heap.deepCopy v).1 = .ok w) (hyes : admits x b v s = .ok true)
      (hr : s.object? b = some r) (hwrite : r.checkWrite x.target = .ok ()) :
    Acts x a b s ((s.afterCopy v).afterWrite b r x.target w) (some w)

/-- The actions of an update one after the other, with the account of what they have stored. -/
inductive Runs (a b : ObjectId) :
    List FieldAction → Store → Store → List (FieldAction × Option Value) → Prop
  | nil (s : Store) : Runs a b [] s s []
  | cons (x : FieldAction) (rest : List FieldAction) (s t u : Store) (o : Option Value)
      (account : List (FieldAction × Option Value)) (hx : Acts x a b s t o)
      (hrest : Runs a b rest t u account) : Runs a b (x :: rest) s u ((x, o) :: account)

/-! Single actions -/

section

variable (variant : Variant) (x : FieldAction) (a b : ObjectId) (s t : Store)

theorem run_write_eq_ok_iff (o : ObjectId) (name : String) (v : Value) :
    (write o name v).run.run s = (.ok (), t) ↔
      ∃ r, s.object? o = some r ∧ r.checkWrite name = .ok () ∧ t = s.afterWrite o r name v := by
  rw [run_write]
  constructor
  · intro h
    cases hr : s.object? o with
    | none =>
      rw [hr] at h
      cases h
    | some r =>
      cases hcheck : r.checkWrite name with
      | error e =>
        simp only [hr, hcheck] at h
        cases h
      | ok u =>
        simp only [hr, hcheck] at h
        cases h
        exact ⟨r, rfl, hcheck, rfl⟩
  · rintro ⟨r, hr, hcheck, rfl⟩
    simp only [hr, hcheck]

/-- A write after a copy finds the target as it was before. -/
theorem run_write_afterCopy_eq_ok_iff (o : ObjectId) (ho : s.IsObject o) (v : Value) (name : String)
    (w : Value) :
    (write o name w).run.run (s.afterCopy v) = (.ok (), t) ↔
      ∃ r, s.object? o = some r ∧ r.checkWrite name = .ok () ∧
        t = (s.afterCopy v).afterWrite o r name w := by
  obtain ⟨r, hr⟩ := ho
  rw [run_write_eq_ok_iff, hr, object?_of_kept s _ (kept_afterCopy s v) o r hr]

theorem run_applyAction_of_error (e : LiveError) (hv : s.field a x.source = .error e) :
    (applyAction x a b).run.run s = (.error e, s) := by
  unfold applyAction
  simp only [run_bind, run_read, hv]

/-- An early copy does not change what its action looks at. -/
theorem admits_afterCopy (hb : s.IsObject b) (hkind : x.kind = .wrap) (v w : Value) :
    admits x b w (s.afterCopy v) = admits x b v s := by
  rw [Emission.admits_wrap x b w v _ hkind]
  unfold admits
  rw [field_of_kept s _ (kept_afterCopy s v) b hb]

/-- An action that copies early, once its copy is made. -/
theorem run_eager_applyAction (hb : s.IsObject b) (hx : Orderly variant x)
    (heager : x.eagerClone = true) (v w : Value) (hv : s.field a x.source = .ok v) (hcopy : (s.heap.deepCopy v).1 = .ok w) :
    (applyAction x a b).run.run s =
      match admits x b v s with
      | .error e => (.error e, s.afterCopy v)
      | .ok false => (.ok (), s.afterCopy v)
      | .ok true => (write b x.target w).run.run (s.afterCopy v) := by
  obtain ⟨-, -, hkind⟩ := hx.eager heager
  rw [Emission.run_applyAction x a b v s hv, heager, Bool.not_true, Bool.and_false]
  simp only [copyIf, if_true, run_deepCopy, hcopy, mapError_ok, admits_afterCopy x b s hb hkind v w]
  cases admits x b v s with
  | error e => rfl
  | ok stored => cases stored <;> rfl

/-- An action that does not copy early looks first whether it stores at all. -/
theorem run_lazy_applyAction (hlazy : x.eagerClone = false) (v : Value)
    (hv : s.field a x.source = .ok v) :
    (applyAction x a b).run.run s =
      match admits x b v s with
      | .error e => (.error e, s)
      | .ok false => (.ok (), s)
      | .ok true => (copyIf x.clone v >>= write b x.target).run.run s := by
  have hvalue : (copyIf false v).run.run s = (.ok v, s) := rfl
  have hrun := Emission.run_applyAction x a b v s hv
  rw [hlazy, Bool.not_false, Bool.and_true, hvalue] at hrun
  refine hrun.trans ?_
  cases hadmits : admits x b v s with
  | error e => simp only [hadmits]
  | ok stored => cases stored <;> simp only [hadmits]

theorem run_copy_write (v : Value) :
    (copyIf true v >>= write b x.target).run.run s =
      match (s.heap.deepCopy v).1 with
      | .error e => (.error (.copy e), s.afterCopy v)
      | .ok w => (write b x.target w).run.run (s.afterCopy v) := by
  simp only [copyIf, if_true, run_bind, run_deepCopy]
  cases (s.heap.deepCopy v).1 <;> rfl

theorem acts_of_run (hb : s.IsObject b) (hx : Orderly variant x)
    (h : (applyAction x a b).run.run s = (.ok (), t)) : ∃ o, Acts x a b s t o := by
  cases hv : s.field a x.source with
  | error e =>
    rw [run_applyAction_of_error x a b s e hv] at h
    cases h
  | ok v =>
    cases heager : x.eagerClone with
    | true =>
      obtain ⟨hclone, -, -⟩ := hx.eager heager
      cases hcopy : (s.heap.deepCopy v).1 with
      | error e =>
        rw [Emission.run_applyAction x a b v s hv, heager] at h
        simp only [copyIf, if_true, run_deepCopy, hcopy, mapError_error] at h
        cases h
      | ok w =>
        rw [run_eager_applyAction variant x a b s hb hx heager v w hv hcopy] at h
        cases hadmits : admits x b v s with
        | error e =>
          rw [hadmits] at h
          cases h
        | ok wanted =>
          rw [hadmits] at h
          cases wanted with
          | false =>
            cases h
            exact ⟨none, .wasted v w hv heager hcopy hadmits⟩
          | true =>
            obtain ⟨r, hr, hwrite, rfl⟩ := (run_write_afterCopy_eq_ok_iff s t b hb v x.target w).mp h
            exact ⟨some w, .copied v w r hv hclone hcopy hadmits hr hwrite⟩
    | false =>
      rw [run_lazy_applyAction x a b s heager v hv] at h
      cases hadmits : admits x b v s with
      | error e =>
        rw [hadmits] at h
        cases h
      | ok wanted =>
        rw [hadmits] at h
        cases wanted with
        | false =>
          cases h
          exact ⟨none, .skipped v hv heager hadmits⟩
        | true =>
          cases hclone : x.clone with
          | false =>
            rw [hclone] at h
            obtain ⟨r, hr, hwrite, rfl⟩ := (run_write_eq_ok_iff s t b x.target v).mp h
            exact ⟨some v, .moved v r hv hclone hadmits hr hwrite⟩
          | true =>
            simp only [hclone, run_copy_write] at h
            cases hcopy : (s.heap.deepCopy v).1 with
            | error e =>
              rw [hcopy] at h
              cases h
            | ok w =>
              rw [hcopy] at h
              obtain ⟨r, hr, hwrite, rfl⟩ := (run_write_afterCopy_eq_ok_iff s t b hb v x.target w).mp h
              exact ⟨some w, .copied v w r hv hclone hcopy hadmits hr hwrite⟩

theorem run_of_acts (hb : s.IsObject b) (hx : Orderly variant x) (o : Option Value) (h : Acts x a b s t o) :
    (applyAction x a b).run.run s = (.ok (), t) := by
  cases h with
  | skipped v hv hlazy hno => rw [run_lazy_applyAction x a b s hlazy v hv, hno]
  | wasted v w hv heager hcopy hno =>
    rw [run_eager_applyAction variant x a b s hb hx heager v w hv hcopy, hno]
  | moved v r hv hclone hyes hr hwrite =>
    rw [run_lazy_applyAction x a b s (lazy_of_orderly variant x hx hclone) v hv, hyes, hclone]
    exact (run_write_eq_ok_iff s _ b x.target v).mpr ⟨r, hr, hwrite, rfl⟩
  | copied v w r hv hclone hcopy hyes hr hwrite =>
    have hstored : (write b x.target w).run.run (s.afterCopy v) =
        (.ok (), (s.afterCopy v).afterWrite b r x.target w) :=
      (run_write_afterCopy_eq_ok_iff s _ b hb v x.target w).mpr ⟨r, hr, hwrite, rfl⟩
    cases heager : x.eagerClone with
    | true => rw [run_eager_applyAction variant x a b s hb hx heager v w hv hcopy, hyes, hstored]
    | false =>
      rw [run_lazy_applyAction x a b s heager v hv, hyes, hclone]
      simp only [run_copy_write, hcopy, hstored]

end

/-! Updates -/

section

variable (variant : Variant) (a b : ObjectId)

theorem extends_of_acts (x : FieldAction) (s t : Store) (o : Option Value) (h : Acts x a b s t o) :
    s.Extends t := by
  cases h with
  | skipped => exact extends_refl s
  | wasted v => exact extends_of_kept s _ (kept_afterCopy s v)
  | moved v r _ _ _ hr => exact extends_afterWrite s b r hr x.target v
  | copied v w r _ _ _ _ hr =>
    have hkept := kept_afterCopy s v
    exact extends_trans s _ _ (extends_of_kept s _ hkept)
      (extends_afterWrite _ b r (object?_of_kept s _ hkept b r hr) x.target w)

theorem isObject_of_acts (x : FieldAction) (s t : Store) (stored : Option Value)
    (h : Acts x a b s t stored) (o : ObjectId) (ho : s.IsObject o) : t.IsObject o :=
  isObject_of_extends s t (extends_of_acts a b x s t stored h) o ho

theorem run_applyActions_eq_ok_iff (actions : List FieldAction) (s u : Store) (hb : s.IsObject b)
    (hactions : ∀ x ∈ actions, Orderly variant x) :
    (applyActions a b actions).run.run s = (.ok (), u) ↔ ∃ account, Runs a b actions s u account := by
  induction actions generalizing s with
  | nil =>
    constructor
    · intro h
      cases h
      exact ⟨[], .nil _⟩
    · rintro ⟨account, h⟩
      cases h
      rfl
  | cons x rest ih =>
    have hx := hactions x List.mem_cons_self
    have hrest := fun y hy => hactions y (List.mem_cons_of_mem x hy)
    unfold applyActions
    rw [run_bind]
    constructor
    · intro h
      generalize hresult : (applyAction x a b).run.run s = result at h
      obtain ⟨r, t⟩ := result
      cases r with
      | error e => cases h
      | ok _ =>
        obtain ⟨o, ho⟩ := acts_of_run variant x a b s t hb hx hresult
        obtain ⟨account, haccount⟩ := (ih t (isObject_of_acts a b x s t o ho b hb) hrest).mp h
        exact ⟨(x, o) :: account, .cons x rest s t u o account ho haccount⟩
    · rintro ⟨account, h⟩
      cases h with
      | cons _ _ _ t _ o account ho haccount =>
        rw [run_of_acts variant x a b s t hb hx o ho]
        exact (ih t (isObject_of_acts a b x s t o ho b hb) hrest).mpr ⟨account, haccount⟩

theorem valid_of_mergeInto (p : Plan) (s t : Store) (h : mergeInto p a b s = (.ok b, t)) :
    p.mode.isMerge = true ∧ ensureValid p = .ok () := by
  unfold mergeInto checkMerge at h
  cases hmode : p.mode.isMerge with
  | false =>
    rw [hmode] at h
    cases h
  | true =>
    rw [if_pos hmode] at h
    cases hvalid : ensureValid p with
    | error e =>
      rw [hvalid] at h
      cases h
    | ok _ => exact ⟨rfl, rfl⟩

/-- An update succeeds just where its actions have an account. -/
theorem mergeInto_eq_ok_iff (p : Plan) (hmode : p.mode.isMerge = true) (hvalid : ensureValid p = .ok ())
    (hactions : ∀ x ∈ p.actions, Orderly variant x) (s u : Store) (hb : s.IsObject b) :
    mergeInto p a b s = (.ok b, u) ↔ ∃ account, Runs a b p.actions s u account := by
  rw [run_mergeInto p hmode hvalid, ← run_applyActions_eq_ok_iff variant a b p.actions s u hb hactions]
  generalize (applyActions a b p.actions).run.run s = result
  obtain ⟨r, t⟩ := result
  cases r with
  | error e =>
    constructor
    · nofun
    · nofun
  | ok _ =>
    constructor
    · intro h
      cases h
      rfl
    · intro h
      cases h
      rfl

end

/-! Stores without loose ends -/

/-- No cell leads to where no cell is. -/
def Store.Closed (s : Store) : Prop := s.heap.Closed

theorem mem_parts_of_field (s : Store) (o : ObjectId) (name : String) (v : Value)
    (hv : s.field o name = .ok v) : ∃ r, s.heap.get? o = some (.record r) ∧ v ∈ (Cell.record r).parts := by
  obtain ⟨r, hr, hget⟩ := (field_eq_ok_iff s o name v).mp hv
  have hmem := OrderedMap.mem_of_find r.fields.toList name v hget
  exact ⟨r, (object?_eq_some_iff s o r).mp hr, List.mem_map_of_mem hmem⟩

theorem below_of_field (s : Store) (hs : s.Closed) (o : ObjectId) (name : String) (v : Value)
    (hv : s.field o name = .ok v) : v.Below s.heap.size := by
  obtain ⟨r, hr, hmem⟩ := mem_parts_of_field s o name v hv
  exact hs o _ hr v hmem

theorem copied_afterCopy (s : Store) (hs : s.Closed) (o : ObjectId) (name : String) (v w : Value)
    (hv : s.field o name = .ok v) (hcopy : (s.heap.deepCopy v).1 = .ok w) :
    Copied s.heap v (s.afterCopy v).heap w :=
  copied_of_deepCopy s.heap hs v (below_of_field s hs o name v hv) w hcopy

theorem closed_afterWrite (s : Store) (hs : s.Closed) (o : ObjectId) (r : Record)
    (hr : s.object? o = some r) (name : String) (v : Value) (hv : v.Below s.heap.size) :
    (s.afterWrite o r name v).Closed :=
  s.heap.closed_put o r ((object?_eq_some_iff s o r).mp hr) name v hs hv

theorem keptBut_afterWrite (s : Store) (o : ObjectId) (r : Record) (name : String) (v : Value) :
    s.heap.KeptBut o (s.afterWrite o r name v).heap := s.heap.keptBut_set o _

section

variable (x : FieldAction) (a b : ObjectId) (s t : Store)

/-- What an action keeps of the cells, in a store without loose ends. -/
theorem acts_keeps (hs : s.Closed) (o : Option Value) (h : Acts x a b s t o) :
    t.Closed ∧ s.heap.KeptBut b t.heap := by
  cases h with
  | skipped => exact ⟨hs, s.heap.keptBut_refl b⟩
  | wasted v w hv heager hcopy =>
    have hcopied := copied_afterCopy s hs a x.source v w hv hcopy
    exact ⟨hcopied.closed hs, s.heap.keptBut_of_kept b _ hcopied.kept⟩
  | moved v r hv hclone hyes hr =>
    exact ⟨closed_afterWrite s hs b r hr x.target v (below_of_field s hs a x.source v hv),
      keptBut_afterWrite s b r x.target v⟩
  | copied v w r hv hclone hcopy hyes hr =>
    have hcopied := copied_afterCopy s hs a x.source v w hv hcopy
    have hr' := object?_of_kept s _ hcopied.kept b r hr
    exact ⟨closed_afterWrite (s.afterCopy v) (hcopied.closed hs) b r hr' x.target w (hcopied.below hs),
      s.heap.keptBut_trans b _ _ (s.heap.keptBut_of_kept b _ hcopied.kept)
        (keptBut_afterWrite (s.afterCopy v) b r x.target w)⟩

theorem read_of_acts (o : Option Value) (h : Acts x a b s t o) : ∃ v, s.field a x.source = .ok v := by
  cases h with
  | skipped v hv => exact ⟨v, hv⟩
  | wasted v w hv => exact ⟨v, hv⟩
  | moved v r hv => exact ⟨v, hv⟩
  | copied v w r hv => exact ⟨v, hv⟩

theorem kept_of_acts_none (h : Acts x a b s t none) : s.heap.Kept t.heap := by
  cases h with
  | skipped => exact s.heap.kept_refl
  | wasted v => exact kept_afterCopy s v

/-- An action that stores writes the one field. -/
theorem field_of_acts_some (w : Value) (h : Acts x a b s t (some w)) (o : ObjectId)
    (ho : s.IsObject o) (name : String) :
    t.field o name = if b = o ∧ x.target = name then .ok w else s.field o name := by
  cases h with
  | moved v r hv hclone hyes hr => exact field_afterWrite s b r x.target _ hr o name
  | copied v w r hv hclone hcopy hyes hr =>
    have hkept := kept_afterCopy s v
    rw [field_afterWrite (s.afterCopy v) b r x.target _ (object?_of_kept s _ hkept b r hr) o name,
      field_of_kept s _ hkept o ho]

theorem field_of_acts_of_ne (o : Option Value) (h : Acts x a b s t o) (o' : ObjectId)
    (ho' : s.IsObject o') (name : String) (hne : ¬ (b = o' ∧ x.target = name)) :
    t.field o' name = s.field o' name := by
  cases o with
  | none => exact field_of_kept s t (kept_of_acts_none x a b s t h) o' ho' name
  | some w => rw [field_of_acts_some x a b s t w h o' ho', if_neg hne]

end

theorem object?_of_keptBut (b : ObjectId) (s t : Store) (hkept : s.heap.KeptBut b t.heap) (o : ObjectId)
    (hne : o ≠ b) (r : Record) (hr : s.object? o = some r) : t.object? o = some r := by
  obtain ⟨d, hd, hmake, hparts⟩ := hkept.cells o _ hne ((object?_eq_some_iff s o r).mp hr)
  rw [object?_eq_some_iff, hd, record_of_same r d hmake hparts]

section

variable (a b : ObjectId) (actions : List FieldAction) (s u : Store)
  (account : List (FieldAction × Option Value))

theorem runs_keeps (hs : s.Closed) (h : Runs a b actions s u account) :
    u.Closed ∧ s.heap.KeptBut b u.heap := by
  induction h with
  | nil s => exact ⟨hs, s.heap.keptBut_refl b⟩
  | cons x rest s t u o account hx _ ih =>
    obtain ⟨ht, hkept⟩ := acts_keeps x a b s t hs o hx
    obtain ⟨hu, hkept'⟩ := ih ht
    exact ⟨hu, s.heap.keptBut_trans b t.heap u.heap hkept hkept'⟩

theorem isObject_of_runs (h : Runs a b actions s u account) (o : ObjectId) (ho : s.IsObject o) :
    u.IsObject o := by
  induction h with
  | nil s => exact ho
  | cons x rest s t u stored account hx _ ih => exact ih (isObject_of_acts a b x s t stored hx o ho)

theorem field_of_runs_of_ne (h : Runs a b actions s u account) (o : ObjectId) (ho : s.IsObject o)
    (name : String) (hne : ∀ x ∈ actions, ¬ (b = o ∧ x.target = name)) :
    u.field o name = s.field o name := by
  induction h with
  | nil s => rfl
  | cons x rest s t u stored account hx _ ih =>
    have ho' := isObject_of_acts a b x s t stored hx o ho
    rw [ih ho' fun y hy => hne y (List.mem_cons_of_mem x hy),
      field_of_acts_of_ne x a b s t stored hx o ho name (hne x List.mem_cons_self)]

end

theorem closed_of_cells (s : Store) (h : ∀ c ∈ s.heap.cells, ∀ v ∈ c.parts, v.Below s.heap.size) :
    s.Closed :=
  fun _ c hc => h c (List.mem_of_getElem? hc)

theorem closed_desk : desk.Closed := closed_of_cells desk (by decide)

/-- A class with one field for a mapping. -/
def holder : Schema := Schema.ofTypes "Holder" [("a", TypeExpr.named "dict")]

/-- A mapping that holds another one, which holds an empty one. -/
def nest : Store where
  heap := ⟨[.record (.plain .dictionary [("a", .ref 1)]), .record (.plain .dictionary [("a", .ref 2)]),
    .record (.plain .dictionary [])]⟩

theorem closed_nest : nest.Closed := closed_of_cells nest (by decide)

end Crosswalk.Live

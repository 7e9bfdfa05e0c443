import Crosswalk.Proofs.Live.Separation
import Crosswalk.Proofs.Plan.Written

/-! What an update does to each field of its target. A field with an action is given the source's value, or a
copy of it, or is left alone, as the kind of the action and the values before the update tell; all other
fields are left alone. An update that fails has done just this for the actions before the one that failed. -/

namespace Crosswalk.Live

open Emission (admits)

/-! What a field is given -/

/-- What a deep copy of a value has returned, made at a time when of all cells only the target can have changed,
but for counts. If the value does not lead to the target, the copy has the structure that the value has and does
not lead there either; and if the value leads to nothing that shares with its copies, the copy is made of new
cells. -/
structure CopyOf (b : ObjectId) (s : Store) (v : Value) (t : Store) (w : Value) : Prop where
  made : ∃ h : Heap, h.Closed ∧ s.heap.KeptBut b h ∧ (h.deepCopy v).1 = .ok w ∧
    (h.deepCopy v).2.KeptBut b t.heap
  alike : ¬ s.heap.Reaches v b →
    s.heap.Sturdy v ∧ s.heap.Alike v t.heap w ∧ ¬ t.heap.Reaches w b
  fresh : ¬ s.heap.Reaches v b → s.heap.Plain v → ∀ c, t.heap.Reaches w c → s.heap.get? c = none

/-- What is stored for a value of the source: a copy in a mode that copies, else the value itself. -/
def Given (mode : Mode) (b : ObjectId) (s : Store) (v : Value) (t : Store) (w : Value) : Prop :=
  if mode.clones then CopyOf b s v t w else w = v

section

variable (b : ObjectId) (s : Store) (hs : s.Closed) (hb : s.IsObject b)

include hs hb

theorem copyOf_of_made (t : Store) (v w : Value) (hv : v.Below s.heap.size) (h : Heap)
    (hclosed : h.Closed) (hbefore : s.heap.KeptBut b h) (hcopy : (h.deepCopy v).1 = .ok w)
    (hafter : (h.deepCopy v).2.KeptBut b t.heap) : CopyOf b s v t w := by
  have hcopied := copied_of_deepCopy h hclosed v (v.below_mono _ _ hbefore.size hv) w hcopy
  have hlt : b < h.size := Nat.lt_of_lt_of_le (lt_of_isObject s b hb) hbefore.size
  have hapart : ¬ s.heap.Reaches v b → ¬ (h.deepCopy v).2.Reaches w b := fun hreach =>
    hcopied.not_reaches b hlt (mt (s.heap.reaches_iff_of_keptBut h v hs hv b hbefore).mp hreach)
  refine ⟨⟨h, hclosed, hbefore, hcopy, hafter⟩, fun hreach => ?_, fun hreach hplain c hc => ?_⟩
  · have hsame := s.heap.keptAlong_of_keptBut b h hbefore v hreach
    have hcopy' := s.heap.alike_trans h _ v v w (s.heap.alike_self_of_keptAlong h hs v hv hsame)
      hcopied.alike
    refine ⟨(s.heap.sturdy_iff_of_keptAlong h v hs hv hsame).mp hcopied.sturdy, ?_, ?_⟩
    · exact s.heap.alike_of_kept _ s.heap t.heap v w (s.heap.keptAlong_of_kept _ s.heap.kept_refl v)
        (Heap.keptAlong_of_keptBut b _ _ hafter w (hapart hreach)) hcopy'
    · exact mt (Heap.reaches_iff_of_keptBut _ t.heap w (hcopied.closed hclosed) (hcopied.below hclosed)
        b hafter).mp (hapart hreach)
  · have hsame := s.heap.keptAlong_of_keptBut b h hbefore v hreach
    have hplain' := (s.heap.plain_iff_of_keptAlong h v hs hv hsame).mpr hplain
    have hlater := Heap.keptAlong_of_keptBut b _ t.heap hafter w (hapart hreach)
    have hfirst := (Heap.leads_iff_of_keptAlong _ _ t.heap w (hcopied.closed hclosed)
      (hcopied.below hclosed) hlater c).mp hc
    have hnew := (hcopied.fresh c hfirst).resolve_right fun hold => hold.2 hplain'
    exact s.heap.get?_eq_none_of_le c (Nat.le_trans hbefore.size hnew)

theorem given_none (mode : Mode) (t : Store) (hkept : s.heap.Kept t.heap) :
    Given mode b s .none t .none := by
  unfold Given
  split
  · exact copyOf_of_made b s hs hb t .none .none trivial s.heap hs (s.heap.keptBut_refl b) rfl
      (s.heap.keptBut_of_kept b t.heap hkept)
  · rfl

variable (mode : Mode) (t u : Store) (v w : Value) (hv : v.Below s.heap.size)

include hv

/-- A copy of what a value has become is a copy of the value. -/
theorem given_before (hkept : s.heap.KeptBut b t.heap) (h : Given mode b t v u w) :
    Given mode b s v u w := by
  unfold Given at h ⊢
  split
  · rw [if_pos (by assumption)] at h
    obtain ⟨k, hclosed, hbefore, hcopy, hafter⟩ := h.made
    exact copyOf_of_made b s hs hb u v w hv k hclosed (s.heap.keptBut_trans b t.heap k hkept hbefore)
      hcopy hafter
  · rw [if_neg (by assumption)] at h
    exact h

/-- A copy stays one whatever is written to the target. -/
theorem given_after (hkept : t.heap.KeptBut b u.heap) (h : Given mode b s v t w) :
    Given mode b s v u w := by
  unfold Given at h ⊢
  split
  · rw [if_pos (by assumption)] at h
    obtain ⟨k, hclosed, hbefore, hcopy, hafter⟩ := h.made
    exact copyOf_of_made b s hs hb u v w hv k hclosed hbefore hcopy
      (Heap.keptBut_trans b _ t.heap u.heap hafter hkept)
  · rw [if_neg (by assumption)] at h
    exact h

end

/-! Effects -/

/-- What an action has done to its field from one store to another. A hard action gives the field the source's
value, but one that asks for a present value passes an absent one over; a soft action keeps what is there,
and fills the field where nothing is. -/
inductive Effect (variant : Variant) (a b : ObjectId) (s t : Store) (x : FieldAction) : Prop
  | given (hard : variant.soft = false) (v w : Value) (read : s.field a x.source = .ok v)
      (present : x.kind = .unwrapIfPresent → v ≠ .none) (there : t.field b x.target = .ok w)
      (origin : Given variant.mode b s v t w)
  | passed (hard : variant.soft = false) (kind : x.kind = .unwrapIfPresent)
      (read : s.field a x.source = .ok .none) (same : t.field b x.target = s.field b x.target)
  | kept (soft : variant.soft = true) (old : Value) (present : old ≠ .none)
      (before : s.field b x.target = .ok old) (after : t.field b x.target = .ok old)
  | filled (soft : variant.soft = true) (v w : Value) (read : s.field a x.source = .ok v)
      (absent : s.field b x.target = .ok .none) (there : t.field b x.target = .ok w)
      (origin : Given variant.mode b s v t w)

/-- What a list of actions has done: each to its own field, and nothing else. -/
structure Affected (variant : Variant) (actions : List FieldAction) (a b : ObjectId) (s t : Store) :
    Prop where
  effects : ∀ x ∈ actions, Effect variant a b s t x
  frame : ∀ name, (∀ x ∈ actions, x.target ≠ name) → t.field b name = s.field b name
  others : ∀ o r, o ≠ b → s.object? o = some r → t.object? o = some r
  cells : s.heap.KeptBut b t.heap

section

variable (variant : Variant) (x : FieldAction) (a b : ObjectId) (s t u : Store)

variable (hs : s.Closed) (hb : s.IsObject b)

include hs hb

/-- What is done to a field after it was left alone is done to it as it was. -/
theorem effect_before (hkept : s.heap.KeptBut b t.heap)
    (hsource : t.field a x.source = s.field a x.source)
    (htarget : t.field b x.target = s.field b x.target) (h : Effect variant a b t u x) :
    Effect variant a b s u x := by
  cases h with
  | given hard v w read present there origin =>
    rw [hsource] at read
    exact .given hard v w read present there
      (given_before b s hs hb variant.mode t u v w (below_of_field s hs a x.source v read) hkept origin)
  | passed hard kind read same => exact .passed hard kind (hsource ▸ read) (same.trans htarget)
  | kept soft old present before after => exact .kept soft old present (htarget ▸ before) after
  | filled soft v w read absent there origin =>
    rw [hsource] at read
    exact .filled soft v w read (htarget ▸ absent) there
      (given_before b s hs hb variant.mode t u v w (below_of_field s hs a x.source v read) hkept origin)

/-- What was done to a field is what has been done as long as the field is left alone. -/
theorem effect_after (hkept : t.heap.KeptBut b u.heap)
    (htarget : u.field b x.target = t.field b x.target) (h : Effect variant a b s t x) :
    Effect variant a b s u x := by
  cases h with
  | given hard v w read present there origin =>
    exact .given hard v w read present (htarget.trans there)
      (given_after b s hs hb variant.mode t u v w (below_of_field s hs a x.source v read) hkept origin)
  | passed hard kind read same => exact .passed hard kind read (htarget.trans same)
  | kept soft old present before after =>
    exact .kept soft old present before (htarget.trans after)
  | filled soft v w read absent there origin =>
    exact .filled soft v w read absent (htarget.trans there)
      (given_after b s hs hb variant.mode t u v w (below_of_field s hs a x.source v read) hkept origin)

end

/-! Single actions -/

section

variable (variant : Variant) (x : FieldAction) (a b : ObjectId) (s t : Store) (v : Value)

theorem admits_true (h : admits x b v s = .ok true) :
    (x.kind = .unwrapIfPresent → v ≠ .none) ∧
      (x.onlyIfAbsent = true → s.field b x.target = .ok .none) := by
  unfold admits at h
  cases honly : x.onlyIfAbsent with
  | false => simpa [honly, Value.isNone, ← Decidable.imp_iff_not_or] using h
  | true =>
    cases hold : s.field b x.target with
    | error e => simp [honly, hold, Except.map] at h
    | ok old =>
      obtain ⟨rfl, hwanted⟩ : old = .none ∧ (x.kind = .unwrapIfPresent → v ≠ .none) := by
        simpa [honly, hold, Except.map, Value.isNone, ← Decidable.imp_iff_not_or] using h
      exact ⟨hwanted, fun _ => rfl⟩

theorem admits_false (h : admits x b v s = .ok false) :
    (x.onlyIfAbsent = true ∧ ∃ old, s.field b x.target = .ok old ∧ old ≠ .none) ∨
      (x.kind = .unwrapIfPresent ∧ v = .none ∧
        (x.onlyIfAbsent = true → s.field b x.target = .ok .none)) := by
  unfold admits at h
  cases honly : x.onlyIfAbsent with
  | false =>
    obtain ⟨hkind, hnone⟩ : x.kind = .unwrapIfPresent ∧ v = .none := by
      simpa [honly, Value.isNone] using h
    exact .inr ⟨hkind, hnone, nofun⟩
  | true =>
    cases hold : s.field b x.target with
    | error e => simp [honly, hold, Except.map] at h
    | ok old =>
      by_cases hnone : old = .none
      · subst hnone
        obtain ⟨hkind, hnone⟩ : x.kind = .unwrapIfPresent ∧ v = .none := by
          simpa [honly, hold, Except.map, Value.isNone] using h
        exact .inr ⟨hkind, hnone, fun _ => rfl⟩
      · exact .inl ⟨rfl, old, rfl, hnone⟩

/-- An action that is given nothing to store. -/
theorem effect_of_refused (hs : s.Closed) (hb : s.IsObject b) (hx : Orderly variant x)
    (hv : s.field a x.source = .ok v) (hkept : s.heap.Kept t.heap) (hno : admits x b v s = .ok false) :
    Effect variant a b s t x := by
  have hsame := field_of_kept s t hkept b hb x.target
  have hsoft := hx.onlyIfAbsent
  rcases admits_false x b s v hno with ⟨honly, old, hold, hpresent⟩ | ⟨hkind, rfl, habsent⟩
  · exact .kept (hsoft ▸ honly) old hpresent hold (hsame.trans hold)
  · cases honly : x.onlyIfAbsent with
    | false => exact .passed (hsoft ▸ honly) hkind hv hsame
    | true =>
      have hnone := habsent honly
      exact .filled (hsoft ▸ honly) .none .none hv hnone (hsame.trans hnone) (given_none b s hs hb _ t hkept)

/-- An action that stores what it should. -/
theorem effect_of_stored (hx : Orderly variant x) (hv : s.field a x.source = .ok v)
    (hyes : admits x b v s = .ok true) (w : Value) (hthere : t.field b x.target = .ok w)
    (horigin : Given variant.mode b s v t w) : Effect variant a b s t x := by
  obtain ⟨hpresent, habsent⟩ := admits_true x b s v hyes
  have hsoft := hx.onlyIfAbsent
  cases honly : x.onlyIfAbsent with
  | false => exact .given (hsoft ▸ honly) v w hv hpresent hthere horigin
  | true => exact .filled (hsoft ▸ honly) v w hv (habsent honly) hthere horigin

/-- However an action goes that does not fail, it has its effect. -/
theorem effect_of_acts (hs : s.Closed) (hb : s.IsObject b) (hx : Orderly variant x) (o : Option Value)
    (h : Acts x a b s t o) : Effect variant a b s t x := by
  have hstored : ∀ w, o = some w → t.field b x.target = .ok w := by
    rintro w rfl
    rw [field_of_acts_some x a b s t w h b hb, if_pos ⟨rfl, rfl⟩]
  cases h with
  | skipped v hv hlazy hno =>
    exact effect_of_refused variant x a b s s v hs hb hx hv s.heap.kept_refl hno
  | wasted v w hv heager hcopy hno =>
    exact effect_of_refused variant x a b s _ v hs hb hx hv (kept_afterCopy s v) hno
  | moved v r hv hclone hyes hr hwrite =>
    refine effect_of_stored variant x a b s _ v hx hv hyes v (hstored v rfl) ?_
    rw [Given, ← hx.clone, hclone]
    rfl
  | copied v w r hv hclone hcopy hyes hr hwrite =>
    refine effect_of_stored variant x a b s _ v hx hv hyes w (hstored w rfl) ?_
    rw [Given, ← hx.clone, hclone, if_pos rfl]
    exact copyOf_of_made b s hs hb _ v w (below_of_field s hs a x.source v hv) s.heap hs
      (s.heap.keptBut_refl b) hcopy (keptBut_afterWrite (s.afterCopy v) b r x.target w)

end

/-! Lists of actions -/

section

variable (variant : Variant) (a b : ObjectId) (hab : a ≠ b)

theorem affected_nil (s : Store) : Affected variant [] a b s s where
  effects := nofun
  frame _ _ := rfl
  others _ _ _ hr := hr
  cells := s.heap.keptBut_refl b

include hab in
/-- One action more before others that write other fields. -/
theorem affected_cons (x : FieldAction) (rest : List FieldAction) (s t u : Store) (hs : s.Closed)
    (hb : s.IsObject b) (hx : Orderly variant x) (o : Option Value) (hacts : Acts x a b s t o)
    (hapart : ∀ y ∈ rest, y.target ≠ x.target) (h : Affected variant rest a b t u) :
    Affected variant (x :: rest) a b s u where
  effects := by
    obtain ⟨-, hkept⟩ := acts_keeps x a b s t hs o hacts
    obtain ⟨v, hv⟩ := read_of_acts x a b s t o hacts
    have ha := isObject_of_field s a x.source v hv
    intro y hy
    -- The first field is not written again, and the others have waited as they were.
    rcases List.mem_cons.mp hy with rfl | hy
    · exact effect_after variant y a b s t u hs hb h.cells (h.frame y.target hapart)
        (effect_of_acts variant y a b s t hs hb hx o hacts)
    · have hsource := field_of_acts_of_ne x a b s t o hacts a ha y.source fun hba => hab hba.1.symm
      have htarget := field_of_acts_of_ne x a b s t o hacts b hb y.target
        fun hname => hapart y hy hname.2.symm
      exact effect_before variant y a b s t u hs hb hkept hsource htarget (h.effects y hy)
  frame name hname := by
    have hrest := h.frame name fun y hy => hname y (List.mem_cons_of_mem x hy)
    exact hrest.trans (field_of_acts_of_ne x a b s t o hacts b hb name
      fun hwritten => hname x List.mem_cons_self hwritten.2)
  others p r hp hr :=
    h.others p r hp (object?_of_keptBut b s t (acts_keeps x a b s t hs o hacts).2 p hp r hr)
  cells := s.heap.keptBut_trans b t.heap u.heap (acts_keeps x a b s t hs o hacts).2 h.cells

include hab in
/-- By induction on the run: actions that write different fields do not undo each other. -/
theorem affected_of_runs (actions : List FieldAction) (s u : Store)
    (account : List (FieldAction × Option Value)) (hs : s.Closed) (hb : s.IsObject b)
    (hactions : ∀ x ∈ actions, Orderly variant x) (hnames : (actions.map (·.target)).Nodup)
    (h : Runs a b actions s u account) : Affected variant actions a b s u := by
  induction h with
  | nil s => exact affected_nil variant a b s
  | cons x rest s t u o account hx _ ih =>
    obtain ⟨hfirst, hrest⟩ := List.nodup_cons.mp hnames
    obtain ⟨ht, -⟩ := acts_keeps x a b s t hs o hx
    have haffected := ih ht (isObject_of_acts a b x s t o hx b hb)
      (fun y hy => hactions y (List.mem_cons_of_mem x hy)) hrest
    refine affected_cons variant a b hab x rest s t u hs hb (hactions x List.mem_cons_self) o hx ?_
      haffected
    exact fun y hy hname => hfirst (List.mem_map.mpr ⟨y, hy, hname⟩)

/-- What keeps the cells makes no difference. -/
theorem affected_after (actions : List FieldAction) (s t u : Store) (hs : s.Closed)
    (hb : s.IsObject b) (hb' : t.IsObject b) (h : Affected variant actions a b s t)
    (hkept : t.heap.Kept u.heap) : Affected variant actions a b s u where
  effects x hx :=
    effect_after variant x a b s t u hs hb (t.heap.keptBut_of_kept b u.heap hkept)
      (field_of_kept t u hkept b hb' x.target) (h.effects x hx)
  frame name hname := (field_of_kept t u hkept b hb' name).trans (h.frame name hname)
  others o r ho hr := object?_of_kept t u hkept o r (h.others o r ho hr)
  cells := s.heap.keptBut_trans b t.heap u.heap h.cells (t.heap.keptBut_of_kept b u.heap hkept)

end

/-! Actions that fail -/

def Store.Kept (s t : Store) : Prop := s.heap.Kept t.heap

theorem kept_refl (s : Store) : s.Kept s := s.heap.kept_refl

theorem kept_trans (s t u : Store) (hst : s.Kept t) (htu : t.Kept u) : s.Kept u :=
  s.heap.kept_trans t.heap u.heap hst htu

/-- A step that fails has left all cells alone, but for counts. -/
def Step.Spares {α : Type} (x : Step α) : Prop :=
  ∀ s e t, x.run.run s = (.error e, t) → s.Kept t

section

variable {α β : Type}

/-- What changes no cell may stand before a step that spares them. -/
theorem spares_bind (x : Step α) (f : α → Step β) (hx : x.Keeps Store.Kept)
    (hf : ∀ a, (f a).Spares) : (x >>= f).Spares := by
  intro s e t h
  have hsame := hx s
  rw [run_bind] at h
  generalize x.run.run s = result at h hsame
  obtain ⟨r, s'⟩ := result
  cases r with
  | error _ =>
    cases h
    exact hsame
  | ok a => exact kept_trans s s' t hsame (hf a s' e t h)

theorem spares_pure (a : α) : (pure a : Step α).Spares := nofun

theorem spares_write (o : ObjectId) (name : String) (v : Value) : (write o name v).Spares := by
  intro s e t h
  rw [run_write] at h
  cases hr : s.object? o with
  | none =>
    rw [hr] at h
    cases h
    exact kept_refl s
  | some r =>
    cases hcheck : r.checkWrite name with
    | error _ =>
      simp only [hr, hcheck] at h
      cases h
      exact kept_refl s
    | ok _ =>
      simp only [hr, hcheck] at h
      cases h

end

/-- Writing is what an action does last. -/
theorem spares_applyAction (x : FieldAction) (a b : ObjectId) : (applyAction x a b).Spares := by
  have hcopy : ∀ needed v, (copyIf needed v).Keeps Store.Kept :=
    keeps_copyIf _ kept_refl kept_afterCopy
  unfold applyAction
  refine spares_bind _ _ (keeps_read _ kept_refl _ _) fun value => ?_
  refine spares_bind _ _ (hcopy _ _) fun value => ?_
  refine spares_bind _ _ (keeps_isKept _ kept_refl kept_trans b x) fun kept => ?_
  split
  · exact spares_pure _
  split
  · exact spares_pure _
  · exact spares_bind _ _ (hcopy _ _) fun value => spares_write _ _ _

/-- An update that fails does so in an action that starts where those before it have ended. -/
theorem exists_of_error (a b : ObjectId) (actions : List FieldAction) (s t : Store)
    (reason : LiveError) (h : (applyActions a b actions).run.run s = (.error reason, t)) :
    ∃ done x rest u, actions = done ++ x :: rest ∧
      (applyActions a b done).run.run s = (.ok (), u) ∧
      (applyAction x a b).run.run u = (.error reason, t) := by
  induction actions generalizing s with
  | nil => cases h
  | cons x rest ih =>
    unfold applyActions at h
    rw [run_bind] at h
    generalize hx : (applyAction x a b).run.run s = result at h
    obtain ⟨r, s'⟩ := result
    cases r with
    | error e =>
      cases h
      exact ⟨[], x, rest, s, rfl, rfl, hx⟩
    | ok _ =>
      obtain ⟨done, y, others, u, rfl, hdone, hy⟩ := ih s' h
      refine ⟨x :: done, y, others, u, rfl, ?_, hy⟩
      rw [applyActions, run_bind, hx]
      exact hdone

/-! Updates -/

section

variable (source target : Schema) (v : Variant) (path : Option TargetPath)
  (location : Option Location)

/-- Only an update that copies asks for a present value without being soft. -/
theorem mode_of_unwrap (x : FieldAction)
    (hx : x ∈ (Plan.synthesize source target v path location).actions) (hhard : v.soft = false)
    (hkind : x.kind = .unwrapIfPresent) : v.mode = .mergeRef := by
  obtain ⟨-, pair, -, hmap⟩ := (Plan.mem_actions source target v path location x).mp hx
  obtain ⟨kind, eager, hallow, rfl⟩ := FieldPair.allows_of_map pair v x hmap
  generalize pair.sourceOptionality = s at hallow
  generalize pair.targetOptionality = t at hallow
  cases hallow with
  | unwrap _ _ _ _ _ cautious =>
    rcases cautious with hsoft | hmode
    · rw [hhard] at hsoft
      cases hsoft
    · exact hmode
  | assign | wrap | passThrough | rewrap => cases hkind

/-- An update without errors, from a source that has no name twice, to another object. If it succeeds, every
action has had its effect, and no other field has changed. If it fails, this holds of the actions before the
one that has failed: the fields of that one and of those after it are as they were. -/
theorem mergeInto_effects (p : Plan) (hp : p = Plan.synthesize source target v path location)
    (hmerge : v.mode.isMerge = true) (herrors : p.errors = []) (hnames : source.fieldNames.Nodup)
    (a b : ObjectId) (hab : a ≠ b) (s : Store) (hs : s.Closed) (hb : s.IsObject b) :
    ((∃ t, mergeInto p a b s = (.ok b, t) ∧ Affected v p.actions a b s t) ∨
      ∃ reason t done x rest u, mergeInto p a b s = (.error (.live reason), t) ∧
        p.actions = done ++ x :: rest ∧ (applyActions a b done).run.run s = (.ok (), u) ∧
        (applyAction x a b).run.run u = (.error reason, t) ∧ Affected v done a b s t ∧
        ∀ y ∈ x :: rest, t.field b y.target = s.field b y.target) ∧
    (v.soft = false → ∀ x ∈ p.actions, x.kind = .unwrapIfPresent → v.mode = .mergeRef) := by
  obtain ⟨hmode, hvalid, -, hactions⟩ :=
    valid_of_errors_nil source target v path location p hp hmerge herrors
  have hdistinct : (p.actions.map (·.target)).Nodup := by
    rw [hp]
    exact Plan.nodup_targets source target v path location hnames
  constructor
  · rw [run_mergeInto p hmode hvalid a b s]
    generalize hrun : (applyActions a b p.actions).run.run s = result
    obtain ⟨r, t⟩ := result
    cases r with
    | ok _ =>
      obtain ⟨account, hruns⟩ := (run_applyActions_eq_ok_iff v a b p.actions s t hb hactions).mp hrun
      exact .inl ⟨t, rfl, affected_of_runs v a b hab p.actions s t account hs hb hactions hdistinct hruns⟩
    | error reason =>
      obtain ⟨done, x, rest, u, hsplit, hdone, hx⟩ := exists_of_error a b p.actions s t reason hrun
      rw [hsplit, List.map_append] at hdistinct
      obtain ⟨hdoneNames, -, hapart⟩ := List.nodup_append.mp hdistinct
      have hdoneActions : ∀ y ∈ done, Orderly v y := fun y hy =>
        hactions y (hsplit ▸ List.mem_append_left _ hy)
      obtain ⟨account, hruns⟩ := (run_applyActions_eq_ok_iff v a b done s u hb hdoneActions).mp hdone
      have hbefore := affected_of_runs v a b hab done s u account hs hb hdoneActions hdoneNames hruns
      -- The action that fails has written nothing, but may have counted copies.
      have hafter := affected_after v a b done s u t hs hb (isObject_of_runs a b done s u account hruns b hb)
        hbefore (spares_applyAction x a b u reason t hx)
      refine .inr ⟨reason, t, done, x, rest, u, rfl, hsplit, hdone, hx, hafter, fun y hy => ?_⟩
      refine hafter.frame y.target fun z hz hname => ?_
      exact hapart z.target (List.mem_map_of_mem hz) y.target (List.mem_map_of_mem hy) hname
  · intro hhard x hx hkind
    rw [hp] at hx
    exact mode_of_unwrap source target v path location x hx hhard hkind

end

theorem mergeInto_effects_article :
    desk.Closed ∧ desk.IsObject 1 ∧ article.fieldNames.Nodup ∧
      ∃ t, mergeInto (Plan.synthesize article draft (.hard .mergeRef)) 0 1 desk = (.ok 1, t) ∧
        Affected (.hard .mergeRef) (Plan.synthesize article draft (.hard .mergeRef)).actions 0 1 desk t := by
  obtain ⟨hends, -⟩ := mergeInto_effects article draft (.hard .mergeRef) none none _ rfl rfl rfl
    (by decide) 0 1 (by decide) desk closed_desk ⟨_, rfl⟩
  refine ⟨closed_desk, ⟨_, rfl⟩, by decide, ?_⟩
  rcases hends with hsucceeds | ⟨reason, t, done, x, rest, u, hfails, -⟩
  · exact hsucceeds
  · have hok : (mergeInto (Plan.synthesize article draft (.hard .mergeRef)) 0 1 desk).1 = .ok 1 := rfl
    rw [hfails] at hok
    cases hok

end Crosswalk.Live

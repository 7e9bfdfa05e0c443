import Mathlib.Data.List.Nodup
import Crosswalk.Proofs.Live.Construction
import Crosswalk.Proofs.Live.Objects

/-! Types are kept. Where the texts of types stand for sets of values, and an optional type for its inner
type and the absent value, a value of the source's type may go where an action puts it. An update so
keeps both objects well typed with every step, and a construction passes well typed values. -/

namespace Crosswalk.Live

/-- What the texts of types stand for. The values of a type can depend on the cells; a deep copy is of the
types of what was copied. Neither a copy nor writing a field of an object takes a value out of a type. -/
structure Interpretation where
  holds : Heap → String → Value → Prop
  copied : ∀ (h : Heap) (t : String) (v w : Value), (h.deepCopy v).1 = .ok w →
    holds h t v → holds (h.deepCopy v).2 t w
  kept : ∀ (h : Heap) (t : String) (u v w : Value), (h.deepCopy v).1 = .ok w →
    holds h t u → holds (h.deepCopy v).2 t u
  written : ∀ (h : Heap) (t : String) (u v : Value) (b : Address) (r : Record) (name : String),
    h.get? b = some (.record r) → holds h t u → holds (h.set b (.record (r.put name v))) t u

namespace Interpretation

variable (I : Interpretation)

/-- The type of a field, if it is classified as optional, stands for what an optional type should. -/
def ReadsOptional (f : Field) : Prop :=
  ∀ inner outer, Optionality.classify f.type f.location = .optional inner outer →
    ∀ (h : Heap) (v : Value), I.holds h f.type.text v ↔ v = .none ∨ I.holds h inner.text v

/-- All fields of a schema are there, with values of their types. -/
def Typed (s : Store) (o : ObjectId) (schema : Schema) : Prop :=
  ∀ f ∈ schema.fields, ∃ v, s.field o f.name = .ok v ∧ I.holds s.heap f.type.text v

/-! One value -/

/-- Where classified types allow an action, a value of the one type is of the other, unless it is absent
and the action asks for that. -/
theorem holds_of_allows (v : Variant) (f g : Field) (kind : ActionKind) (eager : Bool)
    (hf : I.ReadsOptional f) (hg : I.ReadsOptional g)
    (hallow : FieldPair.Allows v (Optionality.classify f.type f.location)
      (Optionality.classify g.type g.location) kind eager)
    (h : Heap) (w : Value) (hpresent : kind = .unwrapIfPresent → w ≠ .none)
    (hw : I.holds h f.type.text w) : I.holds h g.type.text w := by
  generalize hs : Optionality.classify f.type f.location = s at hallow
  generalize ht : Optionality.classify g.type g.location = t at hallow
  cases hallow with
  | assign a b same hard =>
    rw [Optionality.eq_of_classify_plain _ _ _ hs, Optionality.eq_of_classify_plain _ _ _ ht] at same
    rw [← eq_of_beq same]
    exact hw
  | wrap a inner outer same =>
    rw [Optionality.eq_of_classify_plain _ _ _ hs] at same
    rw [hg _ _ ht, ← eq_of_beq same]
    exact .inr hw
  | passThrough inner outer inner' outer' same =>
    rw [hg _ _ ht, ← eq_of_beq same]
    exact (hf _ _ hs h w).mp hw
  | unwrap inner outer inner' outer' same cautious =>
    rw [Optionality.eq_of_classify_optional _ _ _ _ ht] at same
    rw [← eq_of_beq same]
    exact ((hf _ _ hs h w).mp hw).resolve_left (hpresent rfl)
  | rewrap inner outer inner' outer' same =>
    rw [Optionality.eq_of_classify_optional _ _ _ _ hs] at same
    rw [hg _ _ ht, ← eq_of_beq same]
    exact .inr hw

/-- A value is of the types of all fields of a name. -/
def Fits (schema : Schema) (name : String) (v : Value) (s : Store) : Prop :=
  ∀ f ∈ schema.fields, f.name = name → I.holds s.heap f.type.text v

theorem fits_of_typed (schema : Schema) (o : ObjectId) (s : Store) (h : I.Typed s o schema)
    (f : Field) (hf : f ∈ schema.fields) :
    ∃ v, s.field o f.name = .ok v ∧ I.Fits schema f.name v s := by
  obtain ⟨v, hv, -⟩ := h f hf
  refine ⟨v, hv, ?_⟩
  intro g hg hname
  obtain ⟨w, hw, hholds⟩ := h g hg
  rw [hname, hv] at hw
  cases hw
  exact hholds

theorem fits_afterCopy (schema : Schema) (name : String) (v w : Value) (s : Store)
    (hcopy : (s.heap.deepCopy v).1 = .ok w) (h : I.Fits schema name v s) :
    I.Fits schema name w (s.afterCopy v) := by
  intro f hf hname
  exact I.copied s.heap _ v w hcopy (h f hf hname)

theorem typed_afterCopy (schema : Schema) (o : ObjectId) (v w : Value) (s : Store)
    (hcopy : (s.heap.deepCopy v).1 = .ok w) (h : I.Typed s o schema) :
    I.Typed (s.afterCopy v) o schema := by
  intro f hf
  obtain ⟨u, hu, hholds⟩ := h f hf
  have hsame := field_of_kept s _ (kept_afterCopy s v) o (isObject_of_field s o _ u hu) f.name
  exact ⟨u, hsame.trans hu, I.kept s.heap _ u v w hcopy hholds⟩

/-- Writing a value that fits all fields of the name keeps an object well typed, whichever it is. -/
theorem typed_afterWrite (schema : Schema) (o b : ObjectId) (r : Record) (name : String) (v : Value)
    (s : Store) (hr : s.object? b = some r) (hfits : b = o → I.Fits schema name v s)
    (h : I.Typed s o schema) : I.Typed (s.afterWrite b r name v) o schema := by
  intro f hf
  obtain ⟨u, hu, hholds⟩ := h f hf
  have hkept := fun x => I.written s.heap f.type.text x v b r name ((object?_eq_some_iff s b r).mp hr)
  rw [field_afterWrite s b r name v hr]
  by_cases hsame : b = o ∧ name = f.name
  · rw [if_pos hsame]
    exact ⟨v, rfl, hkept v (hfits hsame.1 f hf hsame.2.symm)⟩
  · rw [if_neg hsame]
    exact ⟨u, hu, hkept u hholds⟩

/-! Updates -/

section

variable (source target : Schema) (a b : ObjectId)

/-- Both objects are well typed, and the target's fields can be written. -/
structure Sound (s : Store) : Prop where
  read : I.Typed s a source
  written : I.Typed s b target
  writable : ∃ r, s.object? b = some r ∧ ∀ name ∈ target.fieldNames, r.checkWrite name = .ok ()

/-- A value on its way to the target fits the fields of the source it came from. -/
def Carried (name : String) (v : Value) (s : Store) : Prop :=
  I.Sound source target a b s ∧ I.Fits source name v s

theorem sound_afterCopy (v w : Value) (s : Store) (hcopy : (s.heap.deepCopy v).1 = .ok w)
    (h : I.Sound source target a b s) : I.Sound source target a b (s.afterCopy v) where
  read := I.typed_afterCopy source a v w s hcopy h.read
  written := I.typed_afterCopy target b v w s hcopy h.written
  writable := by
    obtain ⟨r, hr, hwritable⟩ := h.writable
    exact ⟨r, object?_of_kept s _ (kept_afterCopy s v) b r hr, hwritable⟩

theorem carried_afterCopy (name : String) (v w : Value) (s : Store)
    (hcopy : (s.heap.deepCopy v).1 = .ok w) (h : I.Carried source target a b name v s) :
    I.Carried source target a b name w (s.afterCopy v) :=
  ⟨I.sound_afterCopy source target a b v w s hcopy h.1, I.fits_afterCopy source name v w s hcopy h.2⟩

/-- Source and target may be one object: the value that is written came from a field of that name. -/
theorem sound_afterWrite (r : Record) (name : String) (v : Value) (s : Store)
    (hr : s.object? b = some r) (hwritable : ∀ name ∈ target.fieldNames, r.checkWrite name = .ok ())
    (hcarried : I.Carried source target a b name v s) (hfits : I.Fits target name v s) :
    I.Sound source target a b (s.afterWrite b r name v) where
  read := I.typed_afterWrite source a b r name v s hr (fun _ => hcarried.2) hcarried.1.read
  written := I.typed_afterWrite target b b r name v s hr (fun _ => hfits) hcarried.1.written
  writable := by
    refine ⟨r.put name v, (object?_afterWrite s b r hr name v b).trans (if_pos rfl), ?_⟩
    intro other hother
    exact r.checkWrite_put name other v (hwritable other hother)

variable (v : Variant) (hsource : ∀ f ∈ source.fields, I.ReadsOptional f)
  (htarget : ∀ g ∈ target.fields, I.ReadsOptional g) (hnodup : target.fieldNames.Nodup)

include hsource htarget hnodup in
/-- The value of a matched pair fits the target, once the action's checks have let it pass. -/
theorem fits_of_matched (pair : FieldPair) (hpair : pair ∈ matchFields source target)
    (x : FieldAction) (hx : pair.map v = .act x) (w : Value) (s : Store)
    (hpresent : x.kind = .unwrapIfPresent → w ≠ .none)
    (h : I.Fits source pair.source.name w s) : I.Fits target pair.target.name w s := by
  have hf := ((mem_matchFields source target pair).mp hpair).1
  have hg := target_mem_of_matched source target pair hpair
  obtain ⟨kind, eager, hallow, rfl⟩ := FieldPair.allows_of_map pair v x hx
  intro g hgmem hname
  have hsame : g = pair.target := List.inj_on_of_nodup_map hnodup hgmem hg hname
  subst hsame
  exact I.holds_of_allows v pair.source pair.target kind eager (hsource _ hf) (htarget _ hg) hallow
    s.heap w hpresent (h pair.source hf rfl)

include hsource htarget hnodup in
theorem delivers_applyAction (pair : FieldPair) (hpair : pair ∈ matchFields source target)
    (x : FieldAction) (hx : pair.map v = .act x) :
    (applyAction x a b).Delivers (I.Sound source target a b)
      (fun _ => I.Sound source target a b) := by
  have hname := name_of_matched source target pair hpair
  have hxs := FieldPair.source_of_map pair v x hx
  have hxt := FieldPair.target_of_map pair v x hx
  have hgmem := target_mem_of_matched source target pair hpair
  unfold applyAction
  apply delivers_bind _ (I.Carried source target a b pair.source.name)
  · apply delivers_read
    intro s hs
    rw [hxs]
    obtain ⟨w, hw, hfits⟩ :=
      I.fits_of_typed source a s hs.read _ ((mem_matchFields source target pair).mp hpair).1
    exact ⟨w, hw, hs, hfits⟩
  intro value
  apply delivers_bind _ (I.Carried source target a b pair.source.name)
  · apply delivers_copyIf
    · intro s hs
      exact hs
    · intro s w hs hcopy
      exact I.carried_afterCopy source target a b _ value w s hcopy hs
  intro value
  apply delivers_bind _ (fun _ => I.Carried source target a b pair.source.name value)
  · unfold isKept
    split
    · apply delivers_bind _ (fun _ => I.Carried source target a b pair.source.name value)
      · apply delivers_read
        intro s hs
        obtain ⟨w, hw, -⟩ := hs.1.written pair.target hgmem
        rw [hxt]
        exact ⟨w, hw, hs⟩
      · intro old
        exact delivers_pure _ _ _ fun s hs => hs
    · exact delivers_pure _ _ _ fun s hs => hs
  intro kept
  split
  · exact delivers_pure _ _ () fun s hs => hs.1
  split
  · exact delivers_pure _ _ () fun s hs => hs.1
  rename_i hunchecked
  have hpresent : x.kind = .unwrapIfPresent → value ≠ .none := by
    intro hkind hnone
    exact hunchecked ⟨hkind, by simp [Value.isNone, hnone]⟩
  have hfits : ∀ s, I.Carried source target a b pair.source.name value s →
      I.Fits target pair.target.name value s := fun s hs =>
    I.fits_of_matched source target v hsource htarget hnodup pair hpair x hx value s hpresent hs.2
  apply delivers_bind _ (fun w s =>
    I.Carried source target a b pair.source.name w s ∧ I.Fits target pair.target.name w s)
  · apply delivers_copyIf
    · intro s hs
      exact ⟨hs, hfits s hs⟩
    · intro s w hs hcopy
      exact ⟨I.carried_afterCopy source target a b _ value w s hcopy hs,
        I.fits_afterCopy target _ value w s hcopy (hfits s hs)⟩
  intro w
  apply delivers_write
  rintro s ⟨hcarried, hfits'⟩
  obtain ⟨r, hr, hwritable⟩ := hcarried.1.writable
  have hcheck := hwritable pair.target.name (List.mem_map_of_mem hgmem)
  rw [hxt]
  refine ⟨r, hr, hcheck, ?_⟩
  refine I.sound_afterWrite source target a b r _ w s hr hwritable ?_ hfits'
  rw [hname]
  exact hcarried

include hsource htarget hnodup in
theorem delivers_applyActions (actions : List FieldAction)
    (hactions : ∀ x ∈ actions, ∃ pair ∈ matchFields source target, pair.map v = .act x) :
    (applyActions a b actions).Delivers (I.Sound source target a b)
      (fun _ => I.Sound source target a b) := by
  induction actions with
  | nil => exact delivers_pure _ _ () fun s hs => hs
  | cons x rest ih =>
    obtain ⟨pair, hpair, hx⟩ := hactions x List.mem_cons_self
    apply delivers_bind _ (fun _ => I.Sound source target a b)
    · exact I.delivers_applyAction source target a b v hsource htarget hnodup pair hpair x hx
    · intro _
      exact ih fun y hy => hactions y (List.mem_cons_of_mem x hy)

/-- Without a refused copy, each part of an update that starts well typed ends well typed. -/
theorem ok_take_applyActions (v : Variant) (hsource : ∀ f ∈ source.fields, I.ReadsOptional f)
    (htarget : ∀ g ∈ target.fields, I.ReadsOptional g) (hnodup : target.fieldNames.Nodup)
    (actions : List FieldAction)
    (hactions : ∀ x ∈ actions, ∃ pair ∈ matchFields source target, pair.map v = .act x)
    (s : Store) (hs : I.Sound source target a b s)
    (hcopies : ∀ reason, ((applyActions a b actions).run.run s).1 ≠ .error (.copy reason)) (k : Nat) :
    ∃ s', (applyActions a b (actions.take k)).run.run s = (.ok (), s') ∧
      I.Sound source target a b s' := by
  have hdelivers := I.delivers_applyActions source target a b v hsource htarget hnodup
    (actions.take k) fun x hx => hactions x (List.mem_of_mem_take hx)
  obtain ⟨r, s', hrun, hsound⟩ := ok_of_delivers _ _ _ hdelivers s hs (by
    intro reason hfail
    apply hcopies reason
    rw [← List.take_append_drop k actions, applyActions_append, run_bind]
    generalize (applyActions a b (actions.take k)).run.run s = result at hfail
    obtain ⟨r, s'⟩ := result
    cases hfail
    rfl)
  exact ⟨s', hrun, hsound⟩

/-! Constructions -/

/-- The arguments of a construction are of the types of the target's fields. -/
theorem holds_of_gathered (v : Variant) (hsource : ∀ f ∈ source.fields, I.ReadsOptional f)
    (htarget : ∀ g ∈ target.fields, I.ReadsOptional g) (hnodup : target.fieldNames.Nodup)
    (hmode : v.mode.isMerge = false) (actions : List FieldAction)
    (hactions : ∀ x ∈ actions, ∃ pair ∈ matchFields source target, pair.map v = .act x)
    (s : Store) (ha : I.Typed s a source) (arguments : OrderedMap String Value)
    (hgathered : Gathered s a actions .empty arguments) (g : Field) (hg : g ∈ target.fields)
    (w : Value) (hw : arguments.get? g.name = some w) : I.holds s.heap g.type.text w := by
  rcases hgathered g.name w hw with hempty | ⟨x, hx, hname, hfield⟩
  · cases hempty
  obtain ⟨pair, hpair, hmap⟩ := hactions x hx
  have hf := ((mem_matchFields source target pair).mp hpair).1
  obtain ⟨u, hu, hfits⟩ := I.fits_of_typed source a s ha pair.source hf
  rw [FieldPair.source_of_map pair v x hmap, hu] at hfield
  cases hfield
  rw [FieldPair.target_of_map pair v x hmap] at hname
  -- A construction never asks for a present value, so the action has no check to pass.
  have hkind := FieldPair.kind_of_map_construction pair v x hmode hmap
  have htargetFits := I.fits_of_matched source target v hsource htarget hnodup pair hpair x hmap w s
    (fun h => absurd h hkind) hfits
  exact htargetFits g hg hname.symm

end

/-! Plans -/

/-- What a well typed object holds in a field without the absent value is not the absent value. -/
theorem ne_none_of_typed (s : Store) (o : ObjectId) (schema : Schema) (h : I.Typed s o schema)
    (g : Field) (hg : g ∈ schema.fields) (hnone : ¬ I.holds s.heap g.type.text .none) :
    s.field o g.name ≠ .ok .none := by
  obtain ⟨w, hw, hholds⟩ := h g hg
  intro hfield
  rw [hw] at hfield
  cases hfield
  exact hnone hholds

/-- A valid plan on well typed objects. Unless a copy is refused, an update succeeds and returns its
target, well typed after every number of actions; a construction passes values of the types of the
target's fields. So nothing absent is stored where the target's type does not allow it. -/
theorem types_kept (source target : Schema) (v : Variant) (path : Option TargetPath)
    (location : Option Location) (p : Plan) (hp : p = Plan.synthesize source target v path location)
    (hvalid : ensureValid p = .ok ()) (hnodup : target.fieldNames.Nodup)
    (hsource : ∀ f ∈ source.fields, I.ReadsOptional f)
    (htarget : ∀ g ∈ target.fields, I.ReadsOptional g) (a : ObjectId) (s : Store)
    (ha : I.Typed s a source) :
    (v.mode.isMerge = true → ∀ (b : ObjectId) (t : Record), s.object? b = some t →
      (∀ name ∈ target.fieldNames, t.checkWrite name = .ok ()) → I.Typed s b target →
      (∀ reason, (mergeInto p a b s).1 ≠ .error (.live (.copy reason))) →
      (∃ s', mergeInto p a b s = (.ok b, s') ∧ I.Typed s' b target) ∧
      ∀ k, ∃ s', (applyActions a b (p.actions.take k)).run.run s = (.ok (), s') ∧
        I.Typed s' b target ∧
        ∀ g ∈ target.fields, ¬ I.holds s'.heap g.type.text .none → s'.field b g.name ≠ .ok .none) ∧
    (v.mode.isMerge = false → ∀ c : RecordClass, ∃ arguments : OrderedMap String Value,
      convert p a c s = Step.after (.ok ()) (c.build arguments) s ∧
      (∀ name, arguments.contains name = true → name ∈ target.fieldNames) ∧
      ∀ g ∈ target.fields, ∀ w, arguments.get? g.name = some w →
        I.holds s.heap g.type.text w ∧ (¬ I.holds s.heap g.type.text .none → w ≠ .none)) := by
  have hmode : p.mode = v.mode := by rw [hp, Plan.mode_synthesize]
  have hactions : ∀ x ∈ p.actions, ∃ pair ∈ matchFields source target, pair.map v = .act x := by
    intro x hx
    rw [hp] at hx
    exact ((Plan.mem_actions source target v path location x).mp hx).2
  constructor
  · intro hmerge b t ht hwritable hb hcopies
    rw [← hmode] at hmerge
    have hrun := run_mergeInto p hmerge hvalid a b s
    have hsound : I.Sound source target a b s := ⟨ha, hb, t, ht, hwritable⟩
    have hparts := I.ok_take_applyActions source target a b v hsource htarget hnodup p.actions
      hactions s hsound (by
        intro reason hfail
        apply hcopies reason
        rw [hrun, hfail]
        rfl)
    refine ⟨?_, ?_⟩
    · obtain ⟨s', hs', hsound'⟩ := hparts p.actions.length
      rw [List.take_length] at hs'
      rw [hrun, hs']
      exact ⟨s', rfl, hsound'.written⟩
    · intro k
      obtain ⟨s', hs', hsound'⟩ := hparts k
      exact ⟨s', hs', hsound'.written, I.ne_none_of_typed s' b target hsound'.written⟩
  · intro hconstruct c
    have hfields : ∀ x ∈ p.actions, ∃ w, s.field a x.source = .ok w := by
      intro x hx
      obtain ⟨pair, hpair, hxmap⟩ := hactions x hx
      obtain ⟨w, hw, -⟩ := ha pair.source ((mem_matchFields source target pair).mp hpair).1
      rw [FieldPair.source_of_map pair v x hxmap]
      exact ⟨w, hw⟩
    obtain ⟨arguments, hgather, hgathered, hnames⟩ := run_gather s a p.actions .empty hfields
    refine ⟨arguments, ?_, ?_, ?_⟩
    · exact run_convert p (by rw [hmode, hconstruct]) hvalid a c s arguments hgather
    · intro name hname
      rcases (hnames name).mp hname with hempty | ⟨x, hx, rfl⟩
      · cases hempty
      · rw [hp] at hx
        exact (Plan.action_fields source target v path location x hx).2.2
    · intro g hg w hw
      have hholds := I.holds_of_gathered source target a v hsource htarget hnodup hconstruct p.actions
        hactions s ha arguments hgathered g hg w hw
      refine ⟨hholds, ?_⟩
      rintro hnone rfl
      exact hnone hholds

/-! Interpretations that tell scalars apart, but no cells -/

theorem ref_of_copyValue (fuel : Nat) (a : Address) (c : CopyState) (w : Value)
    (h : ((copyValue fuel (.ref a)).run.run c).1 = .ok w) : ∃ b, w = .ref b := by
  cases fuel with
  | zero => cases h
  | succ fuel =>
    rw [copyValue, run_bind, run_get] at h
    dsimp only at h
    split at h
    · cases h
      exact ⟨_, rfl⟩
    · rw [run_bind] at h
      split at h
      · cases h
        exact ⟨_, rfl⟩
      · cases h
    · cases h

theorem ref_of_deepCopy (h : Heap) (a : Address) (w : Value)
    (hcopy : (h.deepCopy (.ref a)).1 = .ok w) : ∃ b, w = .ref b :=
  ref_of_copyValue (h.size + 1) a { heap := h } w hcopy

def ofShape (means : String → Value → Prop)
    (uniform : ∀ (t : String) (a b : Address), means t (.ref a) → means t (.ref b)) :
    Interpretation where
  holds _ := means
  copied h t v w hcopy hv := by
    cases v with
    | scalar c =>
      rw [h.deepCopy_scalar c] at hcopy
      cases hcopy
      exact hv
    | ref a =>
      obtain ⟨b, rfl⟩ := ref_of_deepCopy h a w hcopy
      exact uniform t a b hv
  kept _ _ _ _ _ _ hu := hu
  written _ _ _ _ _ _ _ _ hu := hu

/-- Lists are cells, sizes are integers. -/
def meansArticle : String → Value → Prop
  | "int", v => ∃ n, v = .scalar (.integer n)
  | "list", v => ∃ a, v = .ref a
  | "Optional[int]", v => v = .none ∨ ∃ n, v = .scalar (.integer n)
  | "Optional[list]", v | "Optional[Optional[list]]", v => v = .none ∨ ∃ a, v = .ref a
  | _, _ => False

theorem meansArticle_uniform (t : String) (a b : Address) (h : meansArticle t (.ref a)) :
    meansArticle t (.ref b) := by
  unfold meansArticle at h ⊢
  split at h
  · obtain ⟨n, hn⟩ := h
    cases hn
  · exact ⟨b, rfl⟩
  · rcases h with hnone | ⟨n, hn⟩
    · cases hnone
    · cases hn
  · exact .inr ⟨b, rfl⟩
  · exact .inr ⟨b, rfl⟩
  · exact h

theorem types_kept_article :
    ∃ s', mergeInto (Plan.synthesize article draft ⟨.mergeRef, true, by decide⟩) 0 1 desk =
        (.ok 1, s') ∧
      (ofShape meansArticle meansArticle_uniform).Typed s' 1 draft := by
  have hsource : ∀ f ∈ article.fields,
      (ofShape meansArticle meansArticle_uniform).ReadsOptional f := by
    refine List.forall_mem_cons.mpr ⟨?_, List.forall_mem_singleton.mpr ?_⟩
    · intro inner outer hclassify h w
      cases hclassify
      exact Iff.rfl
    · intro inner outer hclassify
      cases hclassify
  have htarget : ∀ g ∈ draft.fields,
      (ofShape meansArticle meansArticle_uniform).ReadsOptional g := by
    refine List.forall_mem_cons.mpr ⟨?_, List.forall_mem_singleton.mpr ?_⟩
    · intro inner outer hclassify h w
      cases hclassify
      exact ⟨.inr, fun h => h.elim .inl id⟩
    · intro inner outer hclassify h w
      cases hclassify
      exact Iff.rfl
  have hread : (ofShape meansArticle meansArticle_uniform).Typed desk 0 article :=
    List.forall_mem_cons.mpr ⟨⟨.ref 2, rfl, .inr ⟨2, rfl⟩⟩,
      List.forall_mem_singleton.mpr ⟨.scalar (.integer 3), rfl, 3, rfl⟩⟩
  have hwritten : (ofShape meansArticle meansArticle_uniform).Typed desk 1 draft :=
    List.forall_mem_cons.mpr ⟨⟨.none, rfl, .inl rfl⟩,
      List.forall_mem_singleton.mpr ⟨.none, rfl, .inl rfl⟩⟩
  obtain ⟨hmerge, -⟩ := types_kept (ofShape meansArticle meansArticle_uniform) article draft
    ⟨.mergeRef, true, by decide⟩ none none _ rfl rfl (by decide) hsource htarget 0 desk hread
  refine (hmerge rfl 1 _ rfl (by decide) hwritten ?_).1
  intro reason hfail
  cases hfail

end Interpretation
end Crosswalk.Live

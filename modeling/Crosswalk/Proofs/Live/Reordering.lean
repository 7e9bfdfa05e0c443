import Crosswalk.Proofs.Live.Effects
import Crosswalk.Proofs.Live.Repetition
import Crosswalk.Proofs.Plan.Reordering

/-! Updates whose actions stand in another order. Whether an action can be done depends on the source's field,
on the target's field and on whether the two can be copied and written, and an action that writes another field
changes none of this, unless what is copied leads to the target. So a list of actions of different fields can be
carried out just where each of them could be done first, whatever their order; and then every field gets what
its own action gives it. -/

namespace Crosswalk.Live

open Emission (admits)

/-! Actions that can be done -/

/-- Reading, looking at the target, copying and writing all succeed, as far as they are called for. -/
def Doable (x : FieldAction) (a b : ObjectId) (s : Store) : Prop :=
  ∃ v wanted, s.field a x.source = .ok v ∧ admits x b v s = .ok wanted ∧
    (x.eagerClone = true → s.heap.Sturdy v) ∧
    (wanted = true → Writable s b x.target ∧ (x.clone = true → s.heap.Sturdy v))

/-- What an action copies does not lead to the target. -/
def Detached (x : FieldAction) (a b : ObjectId) (s : Store) : Prop :=
  x.clone = true → ∀ v, s.field a x.source = .ok v → ¬ s.heap.Reaches v b

section

variable (x : FieldAction) (a b : ObjectId) (s : Store)

theorem doable_of_acts (variant : Variant) (hs : s.Closed) (hx : Orderly variant x) (t : Store)
    (o : Option Value) (h : Acts x a b s t o) : Doable x a b s := by
  cases h with
  | skipped v hv hlazy hno => exact ⟨v, false, hv, hno, by simp [hlazy], nofun⟩
  | wasted v w hv heager hcopy hno =>
    have hcopied := copied_afterCopy s hs a x.source v w hv hcopy
    exact ⟨v, false, hv, hno, fun _ => hcopied.sturdy, nofun⟩
  | moved v r hv hclone hyes hr hwrite =>
    have hnoCopy : x.clone = true → s.heap.Sturdy v := by simp [hclone]
    exact ⟨v, true, hv, hyes, fun heager => hnoCopy (hx.eager heager).1,
      fun _ => ⟨⟨r, hr, hwrite⟩, hnoCopy⟩⟩
  | copied v w r hv hclone hcopy hyes hr hwrite =>
    have hcopied := copied_afterCopy s hs a x.source v w hv hcopy
    exact ⟨v, true, hv, hyes, fun _ => hcopied.sturdy,
      fun _ => ⟨⟨r, hr, hwrite⟩, fun _ => hcopied.sturdy⟩⟩

theorem acts_of_doable (hs : s.Closed) (h : Doable x a b s) : ∃ t o, Acts x a b s t o := by
  obtain ⟨v, wanted, hv, hadmits, heager, hstored⟩ := h
  have hcopy := deepCopy_of_sturdy s.heap hs v (below_of_field s hs a x.source v hv)
  cases wanted with
  | false =>
    cases hearly : x.eagerClone with
    | false => exact ⟨_, _, .skipped v hv hearly hadmits⟩
    | true =>
      obtain ⟨w, hw⟩ := hcopy (heager hearly)
      exact ⟨_, _, .wasted v w hv hearly hw hadmits⟩
  | true =>
    obtain ⟨⟨r, hr, hwrite⟩, hsturdy⟩ := hstored rfl
    cases hclone : x.clone with
    | false => exact ⟨_, _, .moved v r hv hclone hadmits hr hwrite⟩
    | true =>
      obtain ⟨w, hw⟩ := hcopy (hsturdy hclone)
      exact ⟨_, _, .copied v w r hv hclone hw hadmits hr hwrite⟩

end

section

variable (x y : FieldAction) (a b : ObjectId) (s t : Store) (o : Option Value)
  (h : Acts x a b s t o) (hb : s.IsObject b)

include h hb

theorem writable_of_acts_iff (name : String) (hne : x.target ≠ name) :
    Writable t b name ↔ Writable s b name := by
  refine ⟨?_, writable_of_acts x a b s t o h name⟩
  rintro ⟨r, hr, hcheck⟩
  obtain ⟨r₀, hr₀⟩ := hb
  have hput : ∀ v, r = r₀.put x.target v → Writable s b name := by
    rintro v rfl
    exact ⟨r₀, hr₀, (r₀.checkWrite_put_of_ne x.target name v hne) ▸ hcheck⟩
  cases h with
  | skipped => exact ⟨r, hr, hcheck⟩
  | wasted v =>
    rw [object?_of_kept s _ (kept_afterCopy s v) b r₀ hr₀] at hr
    cases hr
    exact ⟨r, hr₀, hcheck⟩
  | moved v r' _ _ _ hr' =>
    rw [hr₀] at hr'
    cases hr'
    rw [object?_afterWrite s b r₀ hr₀, if_pos rfl] at hr
    exact hput v (Option.some.inj hr).symm
  | copied v w r' _ _ _ _ hr' =>
    rw [hr₀] at hr'
    cases hr'
    rw [object?_afterWrite _ b r₀ (object?_of_kept s _ (kept_afterCopy s v) b r₀ hr₀), if_pos rfl] at hr
    exact hput w (Option.some.inj hr).symm

/-- What can be done beside an action can be done after it, and conversely. -/
theorem doable_beside (variant : Variant) (hab : a ≠ b) (hs : s.Closed) (hy : Orderly variant y)
    (haloof : Detached y a b s) (hne : x.target ≠ y.target) : Doable y a b t ↔ Doable y a b s := by
  obtain ⟨-, hkept⟩ := acts_keeps x a b s t hs o h
  obtain ⟨z, hz⟩ := read_of_acts x a b s t o h
  have hread := field_of_acts_of_ne x a b s t o h a (isObject_of_field s a _ z hz) y.source
    fun hba => hab hba.1.symm
  have hfield := field_of_acts_of_ne x a b s t o h b hb y.target fun hname => hne hname.2
  have hwritable := writable_of_acts_iff x a b s t o h hb y.target hne
  unfold Doable
  rw [hread, hwritable]
  refine exists_congr fun v => exists_congr fun wanted => and_congr_right fun hv => ?_
  have hsturdy : y.clone = true → (t.heap.Sturdy v ↔ s.heap.Sturdy v) := fun hclone =>
    s.heap.sturdy_iff_of_keptAlong t.heap v hs (below_of_field s hs a _ v hv)
      (s.heap.keptAlong_of_keptBut b t.heap hkept v (haloof hclone v hv))
  rw [admits_of_field y b v s t hfield]
  exact and_congr_right fun _ => and_congr (imp_congr_right fun heager => hsturdy (hy.eager heager).1)
    (imp_congr_right fun _ => and_congr_right fun _ => imp_congr_right hsturdy)

omit hb in
theorem detached_of_acts (hab : a ≠ b) (hs : s.Closed) (haloof : Detached y a b s) :
    Detached y a b t := by
  obtain ⟨-, hkept⟩ := acts_keeps x a b s t hs o h
  obtain ⟨z, hz⟩ := read_of_acts x a b s t o h
  intro hclone v hv
  rw [field_of_acts_of_ne x a b s t o h a (isObject_of_field s a _ z hz) y.source
    fun hba => hab hba.1.symm] at hv
  exact mt (s.heap.reaches_iff_of_keptBut t.heap v hs (below_of_field s hs a _ v hv) b hkept).mp
    (haloof hclone v hv)

end

/-! Lists of actions -/

section

variable (variant : Variant) (a b : ObjectId) (hab : a ≠ b)

include hab in
/-- By induction on the actions: what one of them does is no matter to whether the others can be done. -/
theorem runs_iff_doable (actions : List FieldAction) (s : Store) (hs : s.Closed) (hb : s.IsObject b)
    (hactions : ∀ x ∈ actions, Orderly variant x) (hnames : (actions.map (·.target)).Nodup)
    (haloof : ∀ x ∈ actions, Detached x a b s) :
    (∃ u account, Runs a b actions s u account) ↔ ∀ x ∈ actions, Doable x a b s := by
  induction actions generalizing s with
  | nil => exact ⟨fun _ => nofun, fun _ => ⟨s, [], .nil s⟩⟩
  | cons x rest ih =>
    obtain ⟨hfirst, hrest⟩ := List.nodup_cons.mp hnames
    have hx := hactions x List.mem_cons_self
    have hothers := fun y hy => hactions y (List.mem_cons_of_mem x hy)
    have hapart : ∀ y ∈ rest, x.target ≠ y.target := fun y hy hname =>
      hfirst (List.mem_map.mpr ⟨y, hy, hname.symm⟩)
    have hafter : ∀ t o, Acts x a b s t o →
        ((∃ u account, Runs a b rest t u account) ↔ ∀ y ∈ rest, Doable y a b s) := by
      intro t o hacts
      obtain ⟨ht, -⟩ := acts_keeps x a b s t hs o hacts
      have hlater := fun y hy => haloof y (List.mem_cons_of_mem x hy)
      rw [ih t ht (isObject_of_acts a b x s t o hacts b hb) hothers hrest
        fun y hy => detached_of_acts x y a b s t o hacts hab hs (hlater y hy)]
      exact forall₂_congr fun y hy =>
        doable_beside x y a b s t o hacts hb variant hab hs (hothers y hy) (hlater y hy) (hapart y hy)
    rw [List.forall_mem_cons]
    constructor
    · rintro ⟨u, account, h⟩
      cases h with
      | cons _ _ _ t _ o account hacts hruns =>
        exact ⟨doable_of_acts x a b s variant hs hx t o hacts, (hafter t o hacts).mp ⟨u, account, hruns⟩⟩
    · rintro ⟨hdoable, hlater⟩
      obtain ⟨t, o, hacts⟩ := acts_of_doable x a b s hs hdoable
      obtain ⟨u, account, hruns⟩ := (hafter t o hacts).mpr hlater
      exact ⟨u, (x, o) :: account, .cons x rest s t u o account hacts hruns⟩

end

/-! Two ends -/

/-- Two stores that updates of one object in different orders have led to. Its fields hold the identical values,
or in a mode that copies, values of one structure as far as the source's values do not lead to the object. -/
structure SameEnd (mode : Mode) (a b : ObjectId) (s t u : Store) : Prop where
  others : ∀ o r, o ≠ b → s.object? o = some r → t.object? o = some r ∧ u.object? o = some r
  lacking : ∀ name e, t.field b name = .error e → u.field b name = .error e
  fields : ∀ name, (∀ v, s.field a name = .ok v → ¬ s.heap.Reaches v b) → Echoes b name t u
  identical : mode.clones = false → t.SameBut b u ∧ ∀ name, u.field b name = t.field b name

section

variable (variant : Variant) (a b : ObjectId) (s t u : Store)

/-- What one value is stored as in two stores is one value, or has one structure. -/
theorem echoes_of_given (mode : Mode) (name : String) (v w w' : Value) (hv : ¬ s.heap.Reaches v b)
    (hw : t.field b name = .ok w) (hw' : u.field b name = .ok w') (ht : Given mode b s v t w)
    (hu : Given mode b s v u w') : Echoes b name t u := by
  unfold Given at ht hu
  cases hclones : mode.clones with
  | true =>
    rw [hclones] at ht hu
    obtain ⟨-, halike, hreach⟩ := ht.alike hv
    obtain ⟨-, halike', hreach'⟩ := hu.alike hv
    exact .inr ⟨w, w', hw, hw', hreach, hreach',
      t.heap.alike_trans s.heap u.heap w v w' (s.heap.alike_symm t.heap v w halike) halike'⟩
  | false =>
    rw [hclones] at ht hu
    have hsame : w' = w := hu.trans ht.symm
    exact .inl (hw'.trans (hsame ▸ hw.symm))

/-- An action that has its effect twice, from one store, has left its field alone both times or given it the
same value. -/
theorem given_of_effects (x : FieldAction) (ht : Effect variant a b s t x)
    (hu : Effect variant a b s u x) :
    t.field b x.target = s.field b x.target ∧ u.field b x.target = s.field b x.target ∨
      ∃ v w w', s.field a x.source = .ok v ∧ t.field b x.target = .ok w ∧
        u.field b x.target = .ok w' ∧ Given variant.mode b s v t w ∧ Given variant.mode b s v u w' := by
  cases ht with
  | given hard v w read present there origin =>
    cases hu with
    | given _ v' w' read' _ there' origin' =>
      rw [read] at read'
      cases read'
      exact .inr ⟨v, w, w', read, there, there', origin, origin'⟩
    | passed _ kind read' =>
      rw [read] at read'
      cases read'
      exact absurd rfl (present kind)
    | kept soft | filled soft => simp [hard] at soft
  | passed hard kind read same =>
    cases hu with
    | given _ v' w' read' present' =>
      rw [read] at read'
      cases read'
      exact absurd rfl (present' kind)
    | passed _ _ _ same' => exact .inl ⟨same, same'⟩
    | kept soft | filled soft => simp [hard] at soft
  | kept soft old present before after =>
    cases hu with
    | given hard | passed hard => simp [hard] at soft
    | kept _ old' _ before' after' =>
      exact .inl ⟨after.trans before.symm, after'.trans before'.symm⟩
    | filled _ v' w' _ absent' =>
      rw [before] at absent'
      cases absent'
      exact absurd rfl present
  | filled soft v w read absent there origin =>
    cases hu with
    | given hard | passed hard => simp [hard] at soft
    | kept _ old' present' before' =>
      rw [absent] at before'
      cases before'
      exact absurd rfl present'
    | filled _ v' w' read' _ there' origin' =>
      rw [read] at read'
      cases read'
      exact .inr ⟨v, w, w', read, there, there', origin, origin'⟩

variable (actions actions' : List FieldAction) (hperm : actions'.Perm actions)
  (ht : Affected variant actions a b s t) (hu : Affected variant actions' a b s u)

include hperm ht hu

/-- Each field of the target is as it was in both stores, or holds what the source's value was stored as. -/
theorem field_of_affected (hactions : ∀ x ∈ actions, Orderly variant x) (name : String) :
    t.field b name = s.field b name ∧ u.field b name = s.field b name ∨
      ∃ v w w', s.field a name = .ok v ∧ t.field b name = .ok w ∧ u.field b name = .ok w' ∧
        Given variant.mode b s v t w ∧ Given variant.mode b s v u w' := by
  by_cases hwritten : ∃ x ∈ actions, x.target = name
  · obtain ⟨x, hx, rfl⟩ := hwritten
    rw [← (hactions x hx).name]
    have hboth := given_of_effects variant a b s t u x (ht.effects x hx)
      (hu.effects x (hperm.mem_iff.mpr hx))
    rwa [← (hactions x hx).name] at hboth
  · have hnone : ∀ x ∈ actions, x.target ≠ name := fun x hx hname => hwritten ⟨x, hx, hname⟩
    exact .inl ⟨ht.frame name hnone, hu.frame name fun x hx => hnone x (hperm.mem_iff.mp hx)⟩

theorem sameEnd_of_affected (hactions : ∀ x ∈ actions, Orderly variant x)
    (hrest : variant.mode.clones = false → t.SameBut b u) :
    SameEnd variant.mode a b s t u where
  others o r ho hr := ⟨ht.others o r ho hr, hu.others o r ho hr⟩
  lacking name e he := by
    rcases field_of_affected variant a b s t u actions actions' hperm ht hu hactions name with
      ⟨hold, hold'⟩ | ⟨v, w, w', -, hw, -⟩
    · exact hold'.trans (hold.symm.trans he)
    · rw [hw] at he
      cases he
  fields name haloof := by
    rcases field_of_affected variant a b s t u actions actions' hperm ht hu hactions name with
      ⟨hold, hold'⟩ | ⟨v, w, w', hv, hw, hw', hgiven, hgiven'⟩
    · exact .inl (hold'.trans hold.symm)
    · exact echoes_of_given b s t u variant.mode name v w w' (haloof v hv) hw hw' hgiven hgiven'
  identical hclones := by
    refine ⟨hrest hclones, fun name => ?_⟩
    rcases field_of_affected variant a b s t u actions actions' hperm ht hu hactions name with
      ⟨hold, hold'⟩ | ⟨v, w, w', -, hw, hw', hgiven, hgiven'⟩
    · exact hold'.trans hold.symm
    · rw [Given, hclones] at hgiven hgiven'
      have hsame : w' = w := hgiven'.trans hgiven.symm
      rw [hw, hw', hsame]

end

/-! Updates -/

theorem sameBut_of_runs (variant : Variant) (a b : ObjectId) (actions : List FieldAction) (s t : Store)
    (account : List (FieldAction × Option Value)) (hb : s.IsObject b)
    (hactions : ∀ x ∈ actions, Orderly variant x) (hclones : variant.mode.clones = false)
    (h : Runs a b actions s t account) : s.SameBut b t := by
  have hmoves : ∀ x ∈ actions, x.clone = false ∧ x.eagerClone = false := by
    intro x hx
    have hclone := (hactions x hx).clone.trans hclones
    exact ⟨hclone, lazy_of_orderly variant x (hactions x hx) hclone⟩
  have hcells := sameBut_applyActions a b actions hmoves s
  rwa [(run_applyActions_eq_ok_iff variant a b actions s t hb hactions).mpr ⟨account, h⟩] at hcells

/-- An update depends on the mode, the errors and the actions of its plan. -/
theorem mergeInto_congr (p q : Plan) (hmode : q.mode = p.mode) (herrors : q.errors = p.errors)
    (hactions : q.actions = p.actions) (a b : ObjectId) (s : Store) :
    mergeInto q a b s = mergeInto p a b s := by
  unfold mergeInto checkMerge
  rw [hmode, hactions]
  cases hmerge : p.mode.isMerge with
  | false => rfl
  | true =>
    unfold ensureValid
    rw [Plan.problems_of_merge p hmerge, Plan.problems_of_merge q (hmode ▸ hmerge), herrors]

section

variable (variant : Variant) (a b : ObjectId) (hab : a ≠ b) (s : Store) (hs : s.Closed)
  (hb : s.IsObject b)

include hab hs hb

/-- Plans whose actions are the same, each of its own field, come to the same in any order. -/
theorem mergeInto_perm (p q : Plan) (hp : p.mode.isMerge = true) (hq : q.mode.isMerge = true)
    (hpValid : ensureValid p = .ok ()) (hqValid : ensureValid q = .ok ())
    (hperm : q.actions.Perm p.actions) (hactions : ∀ x ∈ p.actions, Orderly variant x)
    (hnames : (p.actions.map (·.target)).Nodup) :
    ((∀ x ∈ p.actions, Detached x a b s) →
      ((∃ t, mergeInto p a b s = (.ok b, t)) ↔ ∃ u, mergeInto q a b s = (.ok b, u))) ∧
      ∀ t u, mergeInto p a b s = (.ok b, t) → mergeInto q a b s = (.ok b, u) →
        SameEnd variant.mode a b s t u := by
  have hactions' : ∀ x ∈ q.actions, Orderly variant x := fun x hx =>
    hactions x (hperm.mem_iff.mp hx)
  have hnames' : (q.actions.map (·.target)).Nodup := (hperm.map _).nodup_iff.mpr hnames
  have hends := fun t => mergeInto_eq_ok_iff variant a b p hp hpValid hactions s t hb
  have hends' := fun u => mergeInto_eq_ok_iff variant a b q hq hqValid hactions' s u hb
  constructor
  · intro haloof
    have haloof' : ∀ x ∈ q.actions, Detached x a b s := fun x hx => haloof x (hperm.mem_iff.mp hx)
    rw [exists_congr hends, exists_congr hends',
      runs_iff_doable variant a b hab _ s hs hb hactions hnames haloof,
      runs_iff_doable variant a b hab _ s hs hb hactions' hnames' haloof']
    exact forall_congr' fun x => by rw [hperm.mem_iff]
  · intro t u ht hu
    obtain ⟨account, hruns⟩ := (hends t).mp ht
    obtain ⟨account', hruns'⟩ := (hends' u).mp hu
    refine sameEnd_of_affected variant a b s t u p.actions q.actions hperm
      (affected_of_runs variant a b hab p.actions s t account hs hb hactions hnames hruns)
      (affected_of_runs variant a b hab q.actions s u account' hs hb hactions' hnames' hruns') hactions ?_
    intro hclones
    have hst := sameBut_of_runs variant a b p.actions s t account hb hactions hclones hruns
    have hsu := sameBut_of_runs variant a b q.actions s u account' hb hactions' hclones hruns'
    exact sameBut_trans b t s u (sameBut_symm b s t hst) hsu

end

/-- The order of fields is no matter. Another order of the source reorders the actions and errors of the plan,
and another order of a target without repeated names the lists of its names. An update without errors from a
source without repeated names succeeds in both orders or in neither, unless what it copies leads to the target;
and its ends are the same, but for fields whose copied values lead there. -/
theorem order_of_fields (source target : Schema) (v : Variant) (path : Option TargetPath)
    (location : Option Location) (p : Plan) (hp : p = Plan.synthesize source target v path location) :
    (∀ source' q, source'.Reorders source → q = Plan.synthesize source' target v path location →
      q.actions.Perm p.actions ∧ q.errors.Perm p.errors ∧ q.unmatched = p.unmatched ∧
        q.uncovered = p.uncovered ∧
        (v.mode.isMerge = true → p.errors = [] → source.fieldNames.Nodup →
          ∀ a b s, a ≠ b → s.Closed → s.IsObject b →
            ((v.mode = .mergeRef →
                ∀ x ∈ p.actions, ∀ w, s.field a x.source = .ok w → ¬ s.heap.Reaches w b) →
              ((∃ t, mergeInto p a b s = (.ok b, t)) ↔ ∃ u, mergeInto q a b s = (.ok b, u))) ∧
              ∀ t u, mergeInto p a b s = (.ok b, t) → mergeInto q a b s = (.ok b, u) →
                SameEnd v.mode a b s t u)) ∧
    (∀ target' q, target'.Reorders target → target.fieldNames.Nodup →
      q = Plan.synthesize source target' v path location →
      q.actions = p.actions ∧ q.errors = p.errors ∧ q.unmatched.Perm p.unmatched ∧
        q.uncovered.Perm p.uncovered ∧
        ∀ a b s, mergeInto q a b s = mergeInto p a b s) := by
  constructor
  · intro source' q hreorders hq
    have hperm := Plan.actions_reordered_source source target v path location source' hreorders
    have herrorsPerm := Plan.errors_reordered_source source target v path location source' hreorders
    have hlists := Plan.names_reordered_source source target v path location source' hreorders
    rw [← hp, ← hq] at hperm herrorsPerm hlists
    refine ⟨hperm, herrorsPerm, hlists.1, hlists.2, fun hmerge herrors hnames a b s hab hs hb => ?_⟩
    obtain ⟨hmode, hvalid, -, hactions⟩ :=
      valid_of_errors_nil source target v path location p hp hmerge herrors
    obtain ⟨hmode', hvalid', -, -⟩ :=
      valid_of_errors_nil source' target v path location q hq hmerge (herrors ▸ herrorsPerm).eq_nil
    have hdistinct : (p.actions.map (·.target)).Nodup := by
      rw [hp]
      exact Plan.nodup_targets source target v path location hnames
    obtain ⟨hiff, hsame⟩ :=
      mergeInto_perm v a b hab s hs hb p q hmode hmode' hvalid hvalid' hperm hactions hdistinct
    refine ⟨fun haloof => hiff fun x hx hclone => haloof ?_ x hx, hsame⟩
    exact of_decide_eq_true ((hactions x hx).clone.symm.trans hclone)
  · intro target' q hreorders hnames hq
    have hmode : q.mode = p.mode := by
      rw [hp, hq, Plan.mode_synthesize, Plan.mode_synthesize]
    obtain ⟨hactions, herrors, hunmatched, huncovered⟩ :=
      Plan.synthesize_reordered_target source target v path location target' hreorders hnames
    rw [← hp, ← hq] at hactions herrors hunmatched huncovered
    exact ⟨hactions, herrors, hunmatched, huncovered, mergeInto_congr p q hmode herrors hactions⟩

theorem reorders_reverse (s : Schema) : Schema.Reorders { s with fields := s.fields.reverse } s :=
  ⟨s.fields.reverse, s.fields.reverse_perm, rfl⟩

theorem order_of_fields_article :
    desk.Closed ∧ desk.IsObject 1 ∧
      (∃ t u, mergeInto (Plan.synthesize article draft (.hard .mergeRef)) 0 1 desk = (.ok 1, t) ∧
        mergeInto (Plan.synthesize { article with fields := article.fields.reverse } draft
          (.hard .mergeRef)) 0 1 desk = (.ok 1, u) ∧ SameEnd .mergeRef 0 1 desk t u) ∧
      (Plan.synthesize article { draft with fields := draft.fields.reverse }
        (.hard .mergeRef)).actions.map (·.target) = ["tags", "size"] := by
  obtain ⟨hsource, htarget⟩ := order_of_fields article draft (.hard .mergeRef) none none _ rfl
  obtain ⟨-, -, -, -, hmerge⟩ := hsource _ _ (reorders_reverse article) rfl
  obtain ⟨-, hsame⟩ := hmerge rfl rfl (by decide) 0 1 desk (by decide) closed_desk ⟨_, rfl⟩
  obtain ⟨hactions, -⟩ := htarget _ _ (reorders_reverse draft) (by decide) rfl
  refine ⟨closed_desk, ⟨_, rfl⟩, ⟨_, _, rfl, rfl, hsame _ _ rfl rfl⟩, ?_⟩
  rw [hactions]
  rfl

/-! A mapping with a count, and one that holds it -/

def counter : Schema :=
  Schema.ofTypes "Counter" [("a", TypeExpr.named "Mapping"), ("b", TypeExpr.named "Number")]

def counters : Store where
  heap := ⟨[.record (.plain .dictionary [("a", .ref 1), ("b", .scalar (.integer 5))]),
    .record (.plain .dictionary [("a", .ref 2), ("b", .scalar (.integer 1))]),
    .record (.plain .dictionary [])]⟩

/-- The target is copied into itself with the count it has by then. -/
theorem order_of_fields_counter :
    Schema.Reorders { counter with fields := counter.fields.reverse } counter ∧
      (Plan.synthesize counter counter (.hard .mergeRef)).errors = [] ∧ counter.fieldNames.Nodup ∧
      counters.Closed ∧
      ∃ t u, mergeInto (Plan.synthesize counter counter (.hard .mergeRef)) 0 1 counters = (.ok 1, t) ∧
        mergeInto (Plan.synthesize { counter with fields := counter.fields.reverse } counter
          (.hard .mergeRef)) 0 1 counters = (.ok 1, u) ∧
        t.field 1 "a" = .ok (.ref 3) ∧ u.field 1 "a" = .ok (.ref 3) ∧
          ¬ t.heap.Alike (.ref 3) u.heap (.ref 3) := by
  refine ⟨reorders_reverse counter, rfl, by decide, closed_of_cells counters (by decide), _, _, rfl, rfl,
    rfl, rfl, ?_⟩
  rintro ⟨R, -, hmatches, hv⟩
  cases hv with
  | ref _ _ houter =>
    obtain ⟨c, d, hc, hd, -, hparts⟩ := hmatches 3 3 houter
    cases hc
    cases hd
    cases hparts with
    | cons _ hrest =>
      cases hrest with
      | cons hcount _ => cases hcount

end Crosswalk.Live

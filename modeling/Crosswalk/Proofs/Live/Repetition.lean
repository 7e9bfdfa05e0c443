import Crosswalk.Proofs.Live.Account

/-! Updates made twice. After an update every action is settled: it would store nothing, or what is there
already, up to the structure of a copy. A settled action cannot fail, and leaves the others settled; so the
second update succeeds, and leaves the target as the first has left it. But where the source's value leads to
the target, what is copied is not what it was the first time. -/

namespace Crosswalk.Live

open Emission (admits)

def Writable (s : Store) (o : ObjectId) (name : String) : Prop :=
  ∃ r, s.object? o = some r ∧ r.checkWrite name = .ok ()

/-- Two values of one structure, neither of which leads to a certain cell. -/
structure Heap.Twins (h : Heap) (b : Address) (u v : Value) : Prop where
  first : ¬ h.Reaches u b
  second : ¬ h.Reaches v b
  alike : h.Alike u h v

/-- What an action would store is in its place, and can be stored again. An action that asks for absence
finds the absent value there, and stores it. -/
structure Stored (x : FieldAction) (b : ObjectId) (v : Value) (s : Store) : Prop where
  writable : Writable s b x.target
  sturdy : x.clone = true → s.heap.Sturdy v
  there : ∃ u, s.field b x.target = .ok u ∧ (x.clone = false → u = v) ∧
    (x.clone = true → ¬ s.heap.Reaches v b → s.heap.Twins b u v) ∧
    (x.onlyIfAbsent = true → u = .none ∧ v = .none)

/-- An action that can be done, and to no effect. -/
def Settled (x : FieldAction) (a b : ObjectId) (s : Store) : Prop :=
  ∃ v, s.field a x.source = .ok v ∧ (x.eagerClone = true → s.heap.Sturdy v) ∧
    (admits x b v s = .ok false ∨ admits x b v s = .ok true ∧ Stored x b v s)

/-! Looking at the target -/

section

variable (x : FieldAction) (b : ObjectId) (v : Value) (s t : Store)

theorem admits_of_field (h : t.field b x.target = s.field b x.target) :
    admits x b v t = admits x b v s := by
  unfold admits
  rw [h]

/-- Where the target's field can be read, an action stores or does not, and only over the absent value if it
asks for that. -/
theorem exists_admits (u : Value) (hu : s.field b x.target = .ok u) :
    ∃ wanted, admits x b v s = .ok wanted ∧
      (wanted = true → x.onlyIfAbsent = true → u = .none) := by
  unfold admits
  cases x.onlyIfAbsent with
  | false => exact ⟨_, rfl, nofun⟩
  | true =>
    simp only [if_true, hu, Except.map]
    refine ⟨_, rfl, fun hwanted _ => ?_⟩
    simp only [Bool.and_eq_true, Value.isNone, decide_eq_true_eq] at hwanted
    exact hwanted.1

end

/-! One action -/

section

variable (x y : FieldAction) (a b : ObjectId) (s t : Store)

theorem writable_of_acts (o : Option Value) (h : Acts x a b s t o) (name : String)
    (hwritable : Writable s b name) : Writable t b name := by
  obtain ⟨r, hr, hcheck⟩ := hwritable
  cases h with
  | skipped => exact ⟨r, hr, hcheck⟩
  | wasted v => exact ⟨r, object?_of_kept s _ (kept_afterCopy s v) b r hr, hcheck⟩
  | moved v r' _ _ _ hr' =>
    rw [hr] at hr'
    cases hr'
    exact ⟨_, (object?_afterWrite s b r hr x.target v b).trans (if_pos rfl),
      r.checkWrite_put x.target name v hcheck⟩
  | copied v w r' _ _ _ _ hr' =>
    rw [hr] at hr'
    cases hr'
    have hcopied := object?_of_kept s _ (kept_afterCopy s v) b r hr
    exact ⟨_, (object?_afterWrite _ b r hcopied x.target w b).trans (if_pos rfl),
      r.checkWrite_put x.target name w hcheck⟩

variable (hs : s.Closed)

include hs

/-- An update that copies stores nothing that could not be copied again. -/
theorem sturdy_of_acts (o : Option Value) (h : Acts x a b s t o) (hclone : x.clone = true) (v : Value)
    (hv : v.Below s.heap.size) (hsturdy : s.heap.Sturdy v) : t.heap.Sturdy v := by
  have hcopied : ∀ u, (s.afterCopy u).heap.Sturdy v := fun u =>
    (s.heap.sturdy_iff_of_keptAlong _ v hs hv
      (s.heap.keptAlong_of_kept _ (kept_afterCopy s u) v)).mpr hsturdy
  cases h with
  | skipped => exact hsturdy
  | wasted u => exact hcopied u
  | moved _ _ _ hmove =>
    rw [hclone] at hmove
    cases hmove
  | copied u w r hu _ hcopy _ hr =>
    have hr' := object?_of_kept s _ (kept_afterCopy s u) b r hr
    exact Heap.sturdy_put _ b r ((object?_eq_some_iff _ b r).mp hr') x.target w
      (copied_afterCopy s hs a x.source u w hu hcopy).sturdy_copy v (hcopied u)

theorem twins_of_acts (o : Option Value) (h : Acts x a b s t o) (u v : Value)
    (hu : u.Below s.heap.size) (hv : v.Below s.heap.size) (htwins : s.heap.Twins b u v) :
    t.heap.Twins b u v := by
  obtain ⟨-, hkept⟩ := acts_keeps x a b s t hs o h
  exact {
    first := mt (s.heap.reaches_iff_of_keptBut t.heap u hs hu b hkept).mp htwins.first
    second := mt (s.heap.reaches_iff_of_keptBut t.heap v hs hv b hkept).mp htwins.second
    alike := s.heap.alike_of_kept s.heap t.heap t.heap u v
      (s.heap.keptAlong_of_keptBut b t.heap hkept u htwins.first)
      (s.heap.keptAlong_of_keptBut b t.heap hkept v htwins.second) htwins.alike }

/-- What does not touch the two fields of a settled action leaves it settled. -/
theorem settled_beside (o : Option Value) (h : Acts x a b s t o) (hclone : y.clone = x.clone)
    (heager : y.eagerClone = true → y.clone = true)
    (hread : t.field a y.source = s.field a y.source)
    (hfield : t.field b y.target = s.field b y.target) (hy : Settled y a b s) : Settled y a b t := by
  obtain ⟨v, hv, hsturdy, hadmits⟩ := hy
  have hbelow := below_of_field s hs a y.source v hv
  have hkept : y.clone = true → s.heap.Sturdy v → t.heap.Sturdy v := fun hcopied =>
    sturdy_of_acts x a b s t hs o h (hclone ▸ hcopied) v hbelow
  refine ⟨v, hread.trans hv, fun h => hkept (heager h) (hsturdy h), ?_⟩
  rw [admits_of_field y b v s t hfield]
  rcases hadmits with hno | ⟨hyes, hstored⟩
  · exact .inl hno
  · obtain ⟨u, hu, hmove, hcopy, habsent⟩ := hstored.there
    obtain ⟨-, hcells⟩ := acts_keeps x a b s t hs o h
    refine .inr ⟨hyes, writable_of_acts x a b s t o h y.target hstored.writable,
      fun h => hkept h (hstored.sturdy h), u, hfield.trans hu, hmove, fun hcopied hreach => ?_, habsent⟩
    have hbefore := mt (s.heap.reaches_iff_of_keptBut t.heap v hs hbelow b hcells).mpr hreach
    exact twins_of_acts x a b s t hs o h u v (below_of_field s hs b y.target u hu) hbelow
      (hcopy hcopied hbefore)

variable (variant : Variant) (hb : s.IsObject b) (hx : Orderly variant x)

include hb hx

/-- The value that an action has stored, beside the one it would read now: the stored one again if source and
target are one object. -/
theorem stored_of_acts (w : Value) (h : Acts x a b s t (some w)) :
    ∃ v, t.field a x.source = .ok v ∧ Writable t b x.target ∧ (x.clone = false → w = v) ∧
      (x.clone = true → t.heap.Sturdy v ∧ (¬ t.heap.Reaches v b → t.heap.Twins b w v) ∧
        (w = .none → v = .none)) := by
  obtain ⟨hclosed, hcells⟩ := acts_keeps x a b s t hs (some w) h
  have hthere : t.field b x.target = .ok w := by
    rw [field_of_acts_some x a b s t w h b hb, if_pos ⟨rfl, rfl⟩]
  have hself := t.heap.alike_refl hclosed w (below_of_field t hclosed b x.target w hthere)
  have hwritable := writable_of_acts x a b s t (some w) h x.target
  have hacts := h
  cases h with
  | moved _ r hv hclone hyes hr hwrite =>
    refine ⟨w, ?_, hwritable ⟨r, hr, hwrite⟩, fun _ => rfl, ?_⟩
    · rw [field_of_acts_some x a b s _ w hacts a (isObject_of_field s a _ w hv), hv]
      split <;> rfl
    · intro hcopied
      rw [hclone] at hcopied
      cases hcopied
  | copied v _ r hv hclone hcopy hyes hr hwrite =>
    have hcopied := copied_afterCopy s hs a x.source v w hv hcopy
    have hread := field_of_acts_some x a b s _ w hacts a (isObject_of_field s a _ v hv) x.source
    have hnoMove : x.clone = false → False := fun hmove => by
      rw [hclone] at hmove
      cases hmove
    have hr' := object?_of_kept s _ (kept_afterCopy s v) b r hr
    have hsturdy : ∀ u, (s.afterCopy v).heap.Sturdy u →
        ((s.afterCopy v).afterWrite b r x.target w).heap.Sturdy u :=
      Heap.sturdy_put _ b r ((object?_eq_some_iff _ b r).mp hr') x.target w hcopied.sturdy_copy
    -- A target that is its own source would have its copy copied.
    by_cases hab : b = a
    · refine ⟨w, ?_, hwritable ⟨r, hr, hwrite⟩, fun _ => rfl, fun _ => ⟨?_, ?_, id⟩⟩
      · rw [hread, if_pos ⟨hab, hx.name.symm⟩]
      · exact hsturdy w hcopied.sturdy_copy
      · exact fun hreach => ⟨hreach, hreach, hself⟩
    · have hbelow := below_of_field s hs a x.source v hv
      refine ⟨v, ?_, hwritable ⟨r, hr, hwrite⟩, fun hmove => (hnoMove hmove).elim, fun _ => ⟨?_, ?_, ?_⟩⟩
      · rw [hread, if_neg fun h => hab h.1, hv]
      · exact sturdy_of_acts x a b s _ hs _ hacts hclone v hbelow hcopied.sturdy
      · intro hreach
        have hbefore := mt (s.heap.reaches_iff_of_keptBut _ v hs hbelow b hcells).mpr hreach
        have hwrite' := keptBut_afterWrite (s.afterCopy v) b r x.target w
        have hfirst := hcopied.not_reaches b (lt_of_isObject s b hb) hbefore
        refine ⟨?_, hreach, ?_⟩
        · exact mt (Heap.reaches_iff_of_keptBut _ _ w (hcopied.closed hs) (hcopied.below hs) b
            hwrite').mp hfirst
        · exact Heap.alike_symm _ _ v w (s.heap.alike_of_kept _ _ _ v w
            (s.heap.keptAlong_of_keptBut b _ hcells v hbefore)
            (Heap.keptAlong_of_keptBut b _ _ hwrite' w hfirst) hcopied.alike)
      · rintro rfl
        exact Heap.none_of_alike _ _ v (s.heap.alike_symm _ v _ hcopied.alike)

/-- What has been stored settles all actions of its field. -/
theorem settled_written (hy : Orderly variant y) (hxy : x.target = y.target) (w : Value)
    (h : Acts x a b s t (some w)) : Settled y a b t := by
  obtain ⟨v, hv, hwritable, hmove, hcopy⟩ := stored_of_acts x a b s t hs variant hb hx w h
  have hclone : y.clone = x.clone := hy.clone.trans hx.clone.symm
  have hthere : t.field b y.target = .ok w := by
    rw [field_of_acts_some x a b s t w h b hb, if_pos ⟨rfl, hxy⟩]
  rw [hx.name, hxy, ← hy.name] at hv
  rw [hxy] at hwritable
  obtain ⟨wanted, hadmits, habsent⟩ := exists_admits y b v t w hthere
  refine ⟨v, hv, fun heager => (hcopy (hclone ▸ (hy.eager heager).1)).1, ?_⟩
  cases wanted with
  | false => exact .inl hadmits
  | true =>
    refine .inr ⟨hadmits, hwritable, fun h => (hcopy (hclone ▸ h)).1, w, hthere,
      fun h => hmove (hclone ▸ h), fun h => (hcopy (hclone ▸ h)).2.1, ?_⟩
    intro hsoft
    have hnone := habsent rfl hsoft
    refine ⟨hnone, ?_⟩
    cases hcopied : x.clone with
    | false => rw [← hmove hcopied, hnone]
    | true => exact (hcopy hcopied).2.2 hnone

/-- After it was done, an action is settled. -/
theorem settled_of_acts (o : Option Value) (h : Acts x a b s t o) : Settled x a b t := by
  cases o with
  | some w => exact settled_written x x a b s t hs variant hb hx hx rfl w h
  | none =>
    cases h with
    | skipped v hv hlazy hno =>
      refine ⟨v, hv, fun heager => ?_, .inl hno⟩
      rw [hlazy] at heager
      cases heager
    | wasted v w hv heager hcopy hno =>
      have hcopied := copied_afterCopy s hs a x.source v w hv hcopy
      have hkept := s.heap.keptAlong_of_kept _ hcopied.kept v
      refine ⟨v, (field_of_kept s _ hcopied.kept a (isObject_of_field s a _ v hv) _).trans hv,
        fun _ => ?_, .inl ?_⟩
      · exact (s.heap.sturdy_iff_of_keptAlong _ v hs (below_of_field s hs a _ v hv) hkept).mpr
          hcopied.sturdy
      · exact (admits_of_field x b v s _ (field_of_kept s _ hcopied.kept b hb _)).trans hno

/-- What was settled stays settled. -/
theorem settled_kept (hy : Orderly variant y) (o : Option Value) (h : Acts x a b s t o)
    (hsettled : Settled y a b s) : Settled y a b t := by
  have hclone : y.clone = x.clone := hy.clone.trans hx.clone.symm
  have heager : y.eagerClone = true → y.clone = true := fun h => (hy.eager h).1
  have ha : s.IsObject a := by
    obtain ⟨v, hv, -⟩ := hsettled
    exact isObject_of_field s a _ v hv
  cases o with
  | none =>
    have hkept := kept_of_acts_none x a b s t h
    exact settled_beside x y a b s t hs none h hclone heager (field_of_kept s t hkept a ha _)
      (field_of_kept s t hkept b hb _) hsettled
  | some w =>
    by_cases hxy : x.target = y.target
    · exact settled_written x y a b s t hs variant hb hx hy hxy w h
    · have hread : t.field a y.source = s.field a y.source :=
        field_of_acts_of_ne x a b s t _ h a ha _ fun hsame => hxy (hsame.2.trans hy.name)
      have hfield : t.field b y.target = s.field b y.target :=
        field_of_acts_of_ne x a b s t _ h b hb _ fun hsame => hxy hsame.2
      exact settled_beside x y a b s t hs _ h hclone heager hread hfield hsettled

end

/-! The first update -/

section

variable (variant : Variant) (a b : ObjectId)

/-- By induction on the run: an action is settled once it was done, and stays so. -/
theorem settled_of_runs (actions : List FieldAction) (s u : Store)
    (account : List (FieldAction × Option Value)) (hs : s.Closed) (hb : s.IsObject b)
    (hactions : ∀ x ∈ actions, Orderly variant x) (h : Runs a b actions s u account)
    (y : FieldAction) (hy : Orderly variant y) (hmem : y ∈ actions ∨ Settled y a b s) :
    Settled y a b u := by
  induction h with
  | nil s =>
    rcases hmem with hmem | hsettled
    · cases hmem
    · exact hsettled
  | cons x rest s t u o account hx _ ih =>
    have hxo := hactions x List.mem_cons_self
    obtain ⟨ht, -⟩ := acts_keeps x a b s t hs o hx
    refine ih ht (isObject_of_acts a b x s t o hx b hb)
      (fun z hz => hactions z (List.mem_cons_of_mem x hz)) ?_
    rcases hmem with hmem | hsettled
    · rcases List.mem_cons.mp hmem with rfl | hrest
      · exact .inr (settled_of_acts y a b s t hs variant hb hxo o hx)
      · exact .inl hrest
    · exact .inr (settled_kept x y a b s t hs variant hb hxo hy o hx hsettled)

end

/-! The second update -/

/-- An object that has the form of another: it is of its kind and has its fields, whatever they hold. -/
structure Record.Reshapes (r r' : Record) : Prop where
  kind : r'.kind = r.kind
  refusals : r'.refusals = r.refusals
  keys : r'.fields.keys = r.fields.keys

/-- A field of an object holds the same value in two stores, or values of one structure that do not lead to the
object itself. -/
def Echoes (b : ObjectId) (name : String) (s t : Store) : Prop :=
  t.field b name = s.field b name ∨
    ∃ u w, s.field b name = .ok u ∧ t.field b name = .ok w ∧ ¬ s.heap.Reaches u b ∧
      ¬ t.heap.Reaches w b ∧ s.heap.Alike u t.heap w

/-- The source's value of a name does not lead to the target. -/
def Aloof (a b : ObjectId) (name : String) (s : Store) : Prop :=
  ∃ v, s.field a name = .ok v ∧ ¬ s.heap.Reaches v b

/-- Two stores that differ in one object at most, which has its form and, under the names that are not led back
to it, fields that hold what they held. -/
structure Resembles (a b : ObjectId) (s t : Store) : Prop where
  cells : s.heap.KeptBut b t.heap
  shape : ∀ r, s.object? b = some r → ∃ r', t.object? b = some r' ∧ r.Reshapes r'
  fields : ∀ name, Aloof a b name s → Aloof a b name t ∧ Echoes b name s t

theorem resembles_of_kept (a b : ObjectId) (s t : Store) (hs : s.Closed) (hb : s.IsObject b)
    (hkept : s.heap.Kept t.heap) : Resembles a b s t where
  cells := s.heap.keptBut_of_kept b t.heap hkept
  shape r hr := ⟨r, object?_of_kept s t hkept b r hr, rfl, rfl, rfl⟩
  fields name haloof := by
    obtain ⟨v, hv, hreach⟩ := haloof
    have hread := field_of_kept s t hkept a (isObject_of_field s a name v hv) name
    refine ⟨⟨v, hread.trans hv, ?_⟩, .inl (field_of_kept s t hkept b hb name)⟩
    exact mt (s.heap.leads_iff_of_keptAlong _ t.heap v hs (below_of_field s hs a name v hv)
      (s.heap.keptAlong_of_kept t.heap hkept v) b).mp hreach

theorem echoes_trans (b : ObjectId) (name : String) (s t u : Store) (hs : s.Closed) (ht : t.Closed)
    (hst : s.heap.KeptBut b t.heap) (htu : t.heap.KeptBut b u.heap) (hfirst : Echoes b name s t)
    (hsecond : Echoes b name t u) : Echoes b name s u := by
  rcases hfirst with hsame | ⟨v, w, hv, hw, hvb, hwb, halike⟩
  · rcases hsecond with hsame' | ⟨w, z, hw, hz, hwb, hzb, halike⟩
    · exact .inl (hsame'.trans hsame)
    · rw [hsame] at hw
      have hbelow := below_of_field s hs b name w hw
      have hbefore := mt (s.heap.reaches_iff_of_keptBut t.heap w hs hbelow b hst).mpr hwb
      have hkept := s.heap.keptAlong_of_keptBut b t.heap hst w hbefore
      exact .inr ⟨w, z, hw, hz, hbefore, hzb,
        s.heap.alike_trans t.heap u.heap w w z (s.heap.alike_self_of_keptAlong t.heap hs w hbelow hkept)
          halike⟩
  · rcases hsecond with hsame | ⟨w', z, hw', hz, -, hzb, halike'⟩
    · have hbelow := below_of_field t ht b name w hw
      refine .inr ⟨v, w, hv, hsame.trans hw, hvb,
        mt (t.heap.reaches_iff_of_keptBut u.heap w ht hbelow b htu).mp hwb, ?_⟩
      exact s.heap.alike_of_kept t.heap s.heap u.heap v w (s.heap.keptAlong_of_kept s.heap s.heap.kept_refl v)
        (t.heap.keptAlong_of_keptBut b u.heap htu w hwb) halike
    · rw [hw] at hw'
      cases hw'
      exact .inr ⟨v, z, hv, hz, hvb, hzb, s.heap.alike_trans t.heap u.heap v w z halike halike'⟩

theorem resembles_trans (a b : ObjectId) (s t u : Store) (hs : s.Closed) (ht : t.Closed)
    (hst : Resembles a b s t) (htu : Resembles a b t u) : Resembles a b s u where
  cells := s.heap.keptBut_trans b t.heap u.heap hst.cells htu.cells
  shape r hr := by
    obtain ⟨r', hr', hform⟩ := hst.shape r hr
    obtain ⟨r'', hr'', hform'⟩ := htu.shape r' hr'
    exact ⟨r'', hr'', hform'.kind.trans hform.kind, hform'.refusals.trans hform.refusals,
      hform'.keys.trans hform.keys⟩
  fields name haloof := by
    obtain ⟨haloof', hfirst⟩ := hst.fields name haloof
    obtain ⟨haloof'', hsecond⟩ := htu.fields name haloof'
    exact ⟨haloof'', echoes_trans b name s t u hs ht hst.cells htu.cells hfirst hsecond⟩

theorem get?_of_field (s : Store) (b : ObjectId) (r : Record) (hr : s.object? b = some r)
    (name : String) (u : Value) (hu : s.field b name = .ok u) : r.fields.get? name = some u := by
  obtain ⟨r', hr', hget⟩ := (field_eq_ok_iff s b name u).mp hu
  rw [hr] at hr'
  cases hr'
  exact hget

/-- Writing the value that a field holds. -/
theorem kept_of_rewrite (b : ObjectId) (s : Store) (r : Record) (hr : s.object? b = some r)
    (name : String) (u : Value) (hu : s.field b name = .ok u) :
    s.heap.Kept (s.afterWrite b r name u).heap := by
  have hput : r.put name u = r := by
    unfold Record.put
    rw [OrderedMap.insert_of_get? r.fields name u (get?_of_field s b r hr name u hu)]
  unfold Store.afterWrite
  rw [hput]
  exact s.heap.kept_set_of_same s.heap s.heap.kept_refl b _ _ ((object?_eq_some_iff s b r).mp hr) rfl rfl

section

variable (variant : Variant) (x : FieldAction) (a b : ObjectId) (s : Store)

/-- Storing a copy of the source's value where there was one. -/
theorem resembles_of_copied (hs : s.Closed) (t : Store) (v w : Value) (hx : Orderly variant x)
    (hv : s.field a x.source = .ok v) (hcopied : Copied s.heap v (s.afterCopy v).heap w) (r : Record)
    (hr : s.object? b = some r) (u : Value) (hu : s.field b x.target = .ok u)
    (htwins : ¬ s.heap.Reaches v b → s.heap.Twins b u v)
    (ht : t = (s.afterCopy v).afterWrite b r x.target w) : Resembles a b s t := by
  subst ht
  have hb : s.IsObject b := ⟨r, hr⟩
  have hcells := s.heap.keptBut_of_kept b _ hcopied.kept
  have hr' := object?_of_kept s _ hcopied.kept b r hr
  have hwrite := keptBut_afterWrite (s.afterCopy v) b r x.target w
  have hall := s.heap.keptBut_trans b _ _ hcells hwrite
  have hfield : ∀ o, s.IsObject o → ∀ name,
      ((s.afterCopy v).afterWrite b r x.target w).field o name =
        if b = o ∧ x.target = name then .ok w else s.field o name := by
    intro o ho name
    rw [field_afterWrite _ b r x.target w hr' o name, field_of_kept s _ hcopied.kept o ho]
  refine ⟨hall, fun r' hr'' => ?_, fun name haloof => ?_⟩
  · rw [hr] at hr''
    cases hr''
    refine ⟨_, (object?_afterWrite _ b r hr' x.target w b).trans (if_pos rfl), rfl, rfl, ?_⟩
    exact OrderedMap.keys_insert_of_get? r.fields x.target u w (get?_of_field s b r hr _ u hu)
  · obtain ⟨z, hz, hzb⟩ := haloof
    have ha := isObject_of_field s a name z hz
    have hkeep := mt (s.heap.reaches_iff_of_keptBut _ z hs (below_of_field s hs a name z hz) b hall).mp hzb
    by_cases hname : x.target = name
    · subst hname
      rw [← hx.name, hv] at hz
      cases hz
      have hfirst := hcopied.not_reaches b (lt_of_isObject s b hb) hzb
      have hwb := mt (Heap.reaches_iff_of_keptBut _ _ w (hcopied.closed hs) (hcopied.below hs) b
        hwrite).mp hfirst
      obtain ⟨hub, -, halike⟩ := htwins hzb
      constructor
      · by_cases hab : b = a
        · exact ⟨w, (hfield a ha _).trans (if_pos ⟨hab, rfl⟩), hwb⟩
        · exact ⟨v, ((hfield a ha _).trans (if_neg fun h => hab h.1)).trans (hx.name ▸ hv), hkeep⟩
      · refine .inr ⟨u, w, hu, (hfield b hb _).trans (if_pos ⟨rfl, rfl⟩), hub, hwb, ?_⟩
        have hcopy := s.heap.alike_trans s.heap _ u v w halike hcopied.alike
        exact s.heap.alike_of_kept _ s.heap _ u w (s.heap.keptAlong_of_kept _ s.heap.kept_refl u)
          (Heap.keptAlong_of_keptBut b _ _ hwrite w hfirst) hcopy
    · have hsame := fun o ho => (hfield o ho name).trans (if_neg fun h => hname h.2)
      exact ⟨⟨z, (hsame a ha).trans hz, hkeep⟩, .inl (hsame b hb)⟩

/-- A settled action can be done. Where nothing is copied or absence is asked for, no cell changes. -/
theorem acts_of_settled (hs : s.Closed) (hb : s.IsObject b) (hx : Orderly variant x)
    (h : Settled x a b s) :
    ∃ t o, Acts x a b s t o ∧ Resembles a b s t ∧
      (variant.mode.clones = false ∨ variant.soft = true → s.heap.Kept t.heap) := by
  obtain ⟨v, hv, heager, hadmits⟩ := h
  have hbelow := below_of_field s hs a x.source v hv
  rcases hadmits with hno | ⟨hyes, hstored⟩
  · cases hxeager : x.eagerClone with
    | false =>
      exact ⟨s, none, .skipped v hv hxeager hno,
        resembles_of_kept a b s s hs hb s.heap.kept_refl, fun _ => s.heap.kept_refl⟩
    | true =>
      obtain ⟨w, hcopy⟩ := deepCopy_of_sturdy s.heap hs v hbelow (heager hxeager)
      have hkept := kept_afterCopy s v
      exact ⟨s.afterCopy v, none, .wasted v w hv hxeager hcopy hno,
        resembles_of_kept a b s (s.afterCopy v) hs hb hkept, fun _ => hkept⟩
  · obtain ⟨u, hu, hmove, htwins, habsent⟩ := hstored.there
    obtain ⟨r, hr, hwrite⟩ := hstored.writable
    cases hclone : x.clone with
    | false =>
      have huv := hmove hclone
      subst huv
      have hkept := kept_of_rewrite b s r hr x.target u hu
      exact ⟨_, some u, .moved u r hv hclone hyes hr hwrite,
        resembles_of_kept a b s _ hs hb hkept, fun _ => hkept⟩
    | true =>
      obtain ⟨w, hcopy⟩ := deepCopy_of_sturdy s.heap hs v hbelow (hstored.sturdy hclone)
      have hcopied := copied_afterCopy s hs a x.source v w hv hcopy
      refine ⟨_, some w, .copied v w r hv hclone hcopy hyes hr hwrite,
        resembles_of_copied variant x a b s hs _ v w hx hv hcopied r hr u hu (htwins hclone) rfl, ?_⟩
      rintro (hmoves | hsoft)
      · rw [hx.clone, hmoves] at hclone
        cases hclone
      · -- What is absent is copied and written again.
        obtain ⟨rfl, rfl⟩ := habsent (hx.onlyIfAbsent.trans hsoft)
        obtain rfl := s.heap.none_of_alike _ w hcopied.alike
        have hr' := object?_of_kept s _ hcopied.kept b r hr
        exact s.heap.kept_trans _ _ hcopied.kept (kept_of_rewrite b (s.afterCopy .none) r hr' x.target .none
          ((field_of_kept s _ hcopied.kept b hb _).trans hu))

/-- By induction on the actions: each can be done, and leaves the rest settled. -/
theorem runs_of_settled (actions : List FieldAction) (hs : s.Closed) (hb : s.IsObject b)
    (hactions : ∀ x ∈ actions, Orderly variant x) (hsettled : ∀ x ∈ actions, Settled x a b s) :
    ∃ u account, Runs a b actions s u account ∧ Resembles a b s u ∧
      (variant.mode.clones = false ∨ variant.soft = true → s.heap.Kept u.heap) := by
  induction actions generalizing s with
  | nil =>
    exact ⟨s, [], .nil s, resembles_of_kept a b s s hs hb s.heap.kept_refl, fun _ => s.heap.kept_refl⟩
  | cons x rest ih =>
    have hx := hactions x List.mem_cons_self
    have hrest := fun y hy => hactions y (List.mem_cons_of_mem x hy)
    obtain ⟨t, o, hacts, hst, hsame⟩ :=
      acts_of_settled variant x a b s hs hb hx (hsettled x List.mem_cons_self)
    obtain ⟨ht, -⟩ := acts_keeps x a b s t hs o hacts
    have hsettled' : ∀ y ∈ rest, Settled y a b t := fun y hy =>
      settled_kept x y a b s t hs variant hb hx (hrest y hy) o hacts
        (hsettled y (List.mem_cons_of_mem x hy))
    obtain ⟨u, account, hruns, htu, hsame'⟩ :=
      ih t ht (isObject_of_acts a b x s t o hacts b hb) hrest hsettled'
    exact ⟨u, (x, o) :: account, .cons x rest s t u o account hacts hruns,
      resembles_trans a b s t u hs ht hst htu,
      fun h => s.heap.kept_trans t.heap u.heap (hsame h) (hsame' h)⟩

end

/-- An update that has succeeded succeeds again, and leaves the target as the first has left it. If nothing is
copied or the update is soft, all objects have the identical values in their fields. Else the target has them in
the fields without an action, and in a field with one the identical value or one of the same structure, unless
the source's value of that field leads to the target itself. -/
theorem mergeInto_again (source target : Schema) (v : Variant) (path : Option TargetPath)
    (location : Option Location) (p : Plan) (hp : p = Plan.synthesize source target v path location)
    (a b : ObjectId) (s t : Store) (hs : s.Closed) (hb : s.IsObject b)
    (hmerged : mergeInto p a b s = (.ok b, t)) :
    ∃ u, mergeInto p a b t = (.ok b, u) ∧ t.heap.KeptBut b u.heap ∧
      (∀ r, t.object? b = some r → ∃ r', u.object? b = some r' ∧ r.Reshapes r') ∧
      (v.mode = .merge ∨ v.soft = true →
        t.heap.Kept u.heap ∧ ∀ o r, t.object? o = some r → u.object? o = some r) ∧
      (∀ name, (∀ x ∈ p.actions, x.target ≠ name) → u.field b name = t.field b name) ∧
      ∀ x ∈ p.actions, ∀ w, t.field a x.source = .ok w → ¬ t.heap.Reaches w b →
        Echoes b x.target t u := by
  have hactions : ∀ x ∈ p.actions, Orderly v x := by
    intro x hx
    rw [hp] at hx
    exact orderly_of_synthesized source target v path location x hx
  obtain ⟨hmode, hvalid⟩ := valid_of_mergeInto a b p s t hmerged
  have hiff := mergeInto_eq_ok_iff v a b p hmode hvalid hactions
  obtain ⟨account, hruns⟩ := (hiff s t hb).mp hmerged
  obtain ⟨ht, -⟩ := runs_keeps a b p.actions s t account hs hruns
  have hb' := isObject_of_runs a b p.actions s t account hruns b hb
  have hsettled : ∀ x ∈ p.actions, Settled x a b t := fun x hx =>
    settled_of_runs v a b p.actions s t account hs hb hactions hruns x (hactions x hx) (.inl hx)
  obtain ⟨u, account', hruns', hresembles, hsame⟩ :=
    runs_of_settled v a b t p.actions ht hb' hactions hsettled
  refine ⟨u, (hiff t u hb').mpr ⟨account', hruns'⟩, hresembles.cells, hresembles.shape, fun hquiet => ?_,
    fun name hname => ?_, fun x hx w hw hreach => ?_⟩
  · have hkept : t.heap.Kept u.heap := by
      rcases hquiet with hmerge | hsoft
      · refine hsame (.inl ?_)
        rw [hmerge]
        rfl
      · exact hsame (.inr hsoft)
    exact ⟨hkept, object?_of_kept t u hkept⟩
  · exact field_of_runs_of_ne a b p.actions t u account' hruns' b hb' name
      fun x hx hwritten => hname x hx hwritten.2
  · rw [(hactions x hx).name] at hw
    exact (hresembles.fields x.target ⟨w, hw, hreach⟩).2

theorem mergeInto_again_article :
    desk.Closed ∧ desk.IsObject 1 ∧
      ∃ t u, mergeInto (Plan.synthesize article draft (.hard .mergeRef)) 0 1 desk = (.ok 1, t) ∧
        mergeInto (Plan.synthesize article draft (.hard .mergeRef)) 0 1 t = (.ok 1, u) ∧
          t.heap.KeptBut 1 u.heap ∧ t.field 1 "tags" = .ok (.ref 3) ∧ u.field 1 "tags" = .ok (.ref 4) := by
  obtain ⟨u, hagain, hcells, -⟩ := mergeInto_again article draft (.hard .mergeRef) none none _ rfl
    0 1 desk (mergeInto (Plan.synthesize article draft (.hard .mergeRef)) 0 1 desk).2 closed_desk ⟨_, rfl⟩ rfl
  refine ⟨closed_desk, ⟨_, rfl⟩, _, u, rfl, hagain, hcells, rfl, ?_⟩
  cases hagain
  rfl

/-- A mapping that holds the target is one level deeper each time it is copied there. -/
theorem mergeInto_again_deeper :
    nest.Closed ∧ nest.field 0 "a" = .ok (.ref 1) ∧
      (Plan.synthesize holder holder (.hard .mergeRef)).errors = [] ∧
      ∃ t u, mergeInto (Plan.synthesize holder holder (.hard .mergeRef)) 0 1 nest = (.ok 1, t) ∧
        mergeInto (Plan.synthesize holder holder (.hard .mergeRef)) 0 1 t = (.ok 1, u) ∧
          t.field 1 "a" = .ok (.ref 3) ∧ u.field 1 "a" = .ok (.ref 5) ∧
            ¬ t.heap.Alike (.ref 3) u.heap (.ref 5) := by
  refine ⟨closed_nest, rfl, rfl, _, _, rfl, rfl, rfl, rfl, ?_⟩
  rintro ⟨R, -, hmatches, hv⟩
  -- The mapping in the first copy is empty, that in the second is not.
  cases hv with
  | ref _ _ houter =>
    obtain ⟨c, d, hc, hd, -, hparts⟩ := hmatches 3 5 houter
    cases hc
    cases hd
    cases hparts with
    | cons hinner _ =>
      cases hinner with
      | ref _ _ hinner =>
        obtain ⟨c, d, hc, hd, hmake, -⟩ := hmatches 4 6 hinner
        cases hc
        cases hd
        cases hmake

end Crosswalk.Live

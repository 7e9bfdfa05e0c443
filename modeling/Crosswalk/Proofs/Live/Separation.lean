import Crosswalk.Proofs.Live.Account
import Crosswalk.Proofs.Live.Construction
import Crosswalk.Proofs.Live.Fence

/-! What a target shares with its source. An update that copies stores values made of new cells only, to which
all else leads by way of the target, so far as copies share nothing with what they were made from; and it makes
one copy for each value that it stores or copies early. All other plans copy nothing and store the very values of
the source. -/

namespace Crosswalk.Live

/-! Updates that copy -/

/-- The values that an account has copies made of: where something is stored, or is copied early. -/
def copiesOf (s : Store) (a : ObjectId) (account : List (FieldAction × Option Value)) :
    List (Except LiveError Value) :=
  (account.filter fun e => e.2.isSome || e.1.eagerClone).map fun e => s.field a e.1.source

/-- The source's value of an action leads to nothing that shares with its copies. Where it leads to the target, so
do the values of all other actions, since the target may hold copies of them by the time it is copied. -/
def Separable (a b : ObjectId) (s : Store) (account : List (FieldAction × Option Value))
    (x : FieldAction) : Prop :=
  ∃ v, s.field a x.source = .ok v ∧ s.heap.Plain v ∧
    (s.heap.Reaches v b → ∀ e ∈ account, ∀ u, s.field a e.1.source = .ok u → s.heap.Plain u)

/-- What an update that copies has done. Every cell that a stored value leads to is new, and what another field
has leads to it only by way of the target, if the action is separable; other objects and the cells of old are as
they were, but for counts; each copy was made once. -/
structure Separated (a b : ObjectId) (s t : Store) (account : List (FieldAction × Option Value)) :
    Prop where
  origin : ∀ o, s.IsObject o → ∀ name v, t.field o name = .ok v →
    s.field o name = .ok v ∨ ∃ x, (x, some v) ∈ account ∧ b = o ∧ x.target = name
  fresh : ∀ x w, (x, some w) ∈ account → Separable a b s account x → ∀ c, t.heap.Reaches w c →
    s.heap.get? c = none ∧ ∀ o name v, s.field o name = .ok v → ¬ s.heap.Reaches v c
  apart : ∀ x w, (x, some w) ∈ account → Separable a b s account x → ∀ c, t.heap.Reaches w c →
    ∀ o, s.IsObject o → ∀ name v, t.field o name = .ok v → ¬ (b = o ∧ x.target = name) →
      t.heap.Reaches v c → t.heap.Reaches v b
  others : ∀ o r, o ≠ b → s.object? o = some r → t.object? o = some r
  cells : s.heap.KeptBut b t.heap
  copies : t.copied.map .ok = (copiesOf s a account).reverse ++ s.copied.map .ok

section

variable (x : FieldAction) (a b : ObjectId) (s t : Store)

theorem copied_of_acts (hclone : x.clone = true) (o : Option Value) (h : Acts x a b s t o) :
    t.copied.map .ok = (copiesOf s a [(x, o)]).reverse ++ s.copied.map .ok := by
  cases h with
  | skipped v hv hlazy => simp [copiesOf, hlazy]
  | wasted v w hv heager => simp [copiesOf, heager, hv, Store.afterCopy]
  | moved v r hv hmoved => simp [hclone] at hmoved
  | copied v w r hv => simp [copiesOf, hv, Store.afterCopy, Store.afterWrite]

variable (hs : s.Closed) (hclone : x.clone = true)

include hs hclone

/-- What an action stores leads to nothing that shares if the value it has copied did not. -/
theorem plain_of_acts (o : Option Value) (h : Acts x a b s t o)
    (hstored : ∀ u, s.field a x.source = .ok u → s.heap.Plain u) (v : Value)
    (hv : v.Below s.heap.size) (hplain : s.heap.Plain v) : t.heap.Plain v := by
  have hcopied : ∀ u, (s.afterCopy u).heap.Plain v := fun u =>
    (s.heap.plain_iff_of_keptAlong _ v hs hv
      (s.heap.keptAlong_of_kept _ (kept_afterCopy s u) v)).mpr hplain
  cases h with
  | skipped => exact hplain
  | wasted u => exact hcopied u
  | moved _ _ _ hmove =>
    rw [hclone] at hmove
    cases hmove
  | copied u w r hu _ hcopy _ hr =>
    have hr' := object?_of_kept s _ (kept_afterCopy s u) b r hr
    have halike := (copied_afterCopy s hs a x.source u w hu hcopy).alike
    have hw := s.heap.plain_of_alike _ u w halike (hstored u hu)
    exact Heap.plain_put _ b r ((object?_eq_some_iff _ b r).mp hr') x.target w hw v (hcopied u)

/-- A separable action goes on to be so while others are done. -/
theorem separable_of_acts (hab : a ≠ b) (account : List (FieldAction × Option Value)) (o : Option Value)
    (h : Acts x a b s t o) (y : FieldAction) (hy : Separable a b s ((x, o) :: account) y) :
    Separable a b t account y := by
  obtain ⟨v, hv, hplain, hall⟩ := hy
  obtain ⟨-, hkept⟩ := acts_keeps x a b s t hs o h
  have ha := isObject_of_field s a _ v hv
  have hsource : ∀ name, t.field a name = s.field a name := fun name =>
    field_of_acts_of_ne x a b s t o h a ha name fun hba => hab hba.1.symm
  have hbelow := below_of_field s hs a y.source v hv
  have hreaches := s.heap.reaches_iff_of_keptBut t.heap v hs hbelow b hkept
  refine ⟨v, (hsource _).trans hv, ?_, fun hreach e he u hu => ?_⟩
  · by_cases hreach : s.heap.Reaches v b
    · exact plain_of_acts x a b s t hs hclone o h
        (fun u hu => hall hreach (x, o) List.mem_cons_self u hu) v hbelow hplain
    · exact (s.heap.plain_iff_of_keptAlong t.heap v hs hbelow
        (s.heap.keptAlong_of_keptBut b t.heap hkept v hreach)).mpr hplain
  · have hbefore := hreaches.mp hreach
    rw [hsource] at hu
    exact plain_of_acts x a b s t hs hclone o h
      (fun z hz => hall hbefore (x, o) List.mem_cons_self z hz) u (below_of_field s hs a _ u hu)
      (hall hbefore e (List.mem_cons_of_mem _ he) u hu)

/-- An action that copies does not get at what is fenced off. -/
theorem fenced_of_acts (o : Option Value) (h : Acts x a b s t o) (hb : s.IsObject b) (lo hi : Nat)
    (name : String) (hfenced : s.heap.Fenced lo hi b name) : t.heap.Fenced lo hi b name := by
  obtain ⟨r, hr⟩ := hb
  have hget := (object?_eq_some_iff s b r).mp hr
  cases h with
  | skipped => exact hfenced
  | wasted v w hv _ hcopy =>
    exact s.heap.fenced_copied _ lo hi b name hfenced r hget v w
      (copied_afterCopy s hs a x.source v w hv hcopy)
  | moved _ _ _ hmove =>
    rw [hclone] at hmove
    cases hmove
  | copied v w r' hv _ hcopy _ hr' =>
    rw [hr] at hr'
    cases hr'
    have hcopied := copied_afterCopy s hs a x.source v w hv hcopy
    have hr'' := (object?_eq_some_iff _ b r).mp (object?_of_kept s _ hcopied.kept b r hr)
    exact Heap.fenced_put _ lo hi b name
      (s.heap.fenced_copied _ lo hi b name hfenced r hget v w hcopied) r hr'' x.target w
      fun _ => s.heap.outside_of_copied _ lo hi b name hfenced r hget v w hcopied

/-- What a separable action stores is fenced off by the field it is stored in. -/
theorem fenced_of_stored (w : Value) (h : Acts x a b s t (some w))
    (hplain : ∀ v, s.field a x.source = .ok v → s.heap.Plain v) :
    ∃ hi, (∀ y : Nat, w = .ref y → s.heap.size ≤ y ∧ y < hi) ∧
      t.heap.Fenced s.heap.size hi b x.target := by
  cases h with
  | moved _ _ _ hmove =>
    rw [hclone] at hmove
    cases hmove
  | copied v w r hv _ hcopy _ hr =>
    have hcopied := copied_afterCopy s hs a x.source v w hv hcopy
    have hr' := (object?_eq_some_iff _ b r).mp (object?_of_kept s _ hcopied.kept b r hr)
    have hfenced := s.heap.fenced_of_copied _ b x.target hs v w hcopied (hplain v hv)
      (lt_of_isObject s b ⟨r, hr⟩)
    refine ⟨_, ?_, Heap.fenced_put _ _ _ b x.target hfenced r hr' x.target w fun hne => absurd rfl hne⟩
    rintro y rfl
    have hnew := (hcopied.fresh y (.here y)).resolve_right fun hold => hold.2 (hplain v hv)
    exact ⟨hnew, hcopied.below hs⟩

end

section

variable (a b : ObjectId) (actions : List FieldAction) (s u : Store)
  (account : List (FieldAction × Option Value))

theorem actions_of_runs (h : Runs a b actions s u account) : account.map (·.1) = actions := by
  induction h with
  | nil s => rfl
  | cons x rest s t u o account _ _ ih => simp [ih]

/-- A field holds what it held, or what an action has stored there. -/
theorem origin_of_runs (h : Runs a b actions s u account) (o : ObjectId) (ho : s.IsObject o)
    (name : String) (v : Value) (hv : u.field o name = .ok v) :
    s.field o name = .ok v ∨ ∃ x, (x, some v) ∈ account ∧ b = o ∧ x.target = name := by
  induction h with
  | nil s => exact .inl hv
  | cons x rest s t u stored account hx _ ih =>
    rcases ih (isObject_of_acts a b x s t stored hx o ho) hv with ht | ⟨y, hy, hwhere⟩
    · by_cases hwritten : b = o ∧ x.target = name
      · cases stored with
        | none =>
          rw [field_of_kept s t (kept_of_acts_none x a b s t hx) o ho] at ht
          exact .inl ht
        | some w =>
          rw [field_of_acts_some x a b s t w hx o ho, if_pos hwritten] at ht
          cases ht
          exact .inr ⟨x, List.mem_cons_self, hwritten⟩
      · rw [field_of_acts_of_ne x a b s t stored hx o ho name hwritten] at ht
        exact .inl ht
    · exact .inr ⟨y, List.mem_cons_of_mem _ hy, hwhere⟩

variable (hclones : ∀ x ∈ actions, x.clone = true)

include hclones

theorem fenced_of_runs_before (hs : s.Closed) (hb : s.IsObject b) (h : Runs a b actions s u account)
    (lo hi : Nat) (name : String) (hfenced : s.heap.Fenced lo hi b name) :
    u.heap.Fenced lo hi b name := by
  induction h with
  | nil s => exact hfenced
  | cons x rest s t u stored account hx _ ih =>
    have hclone := hclones x List.mem_cons_self
    exact ih (fun y hy => hclones y (List.mem_cons_of_mem x hy)) (acts_keeps x a b s t hs stored hx).1
      (isObject_of_acts a b x s t stored hx b hb)
      (fenced_of_acts x a b s t hs hclone stored hx hb lo hi name hfenced)

/-- By induction on the run: what a separable action stores is fenced off from then on. -/
theorem fenced_of_runs (hab : a ≠ b) (hs : s.Closed) (hb : s.IsObject b)
    (h : Runs a b actions s u account) (x : FieldAction) (w : Value) (hw : (x, some w) ∈ account)
    (hx : Separable a b s account x) :
    ∃ lo hi : Nat, s.heap.size ≤ lo ∧ (∀ y : Nat, w = .ref y → lo ≤ y ∧ y < hi) ∧
      u.heap.Fenced lo hi b x.target := by
  induction h with
  | nil s => cases hw
  | cons y rest s t u stored account hy hrest ih =>
    have hclone := hclones y List.mem_cons_self
    have hclones' := fun z hz => hclones z (List.mem_cons_of_mem y hz)
    obtain ⟨ht, hkept⟩ := acts_keeps y a b s t hs stored hy
    have hb' := isObject_of_acts a b y s t stored hy b hb
    rcases List.mem_cons.mp hw with heq | hw
    · cases heq
      obtain ⟨v, hv, hplain, -⟩ := hx
      obtain ⟨hi, hwithin, hfenced⟩ := fenced_of_stored x a b s t hs hclone w hy fun v' hv' => by
        rw [hv] at hv'
        cases hv'
        exact hplain
      exact ⟨s.heap.size, hi, Nat.le_refl _, hwithin,
        fenced_of_runs_before a b rest t u account hclones' ht hb' hrest _ _ _ hfenced⟩
    · obtain ⟨lo, hi, hlo, hwithin, hfenced⟩ := ih hclones' ht hb' hw
        (separable_of_acts y a b s t hs hclone hab account stored hy x hx)
      exact ⟨lo, hi, Nat.le_trans hkept.size hlo, hwithin, hfenced⟩

theorem copied_of_runs (hab : a ≠ b) (h : Runs a b actions s u account) :
    u.copied.map .ok = (copiesOf s a account).reverse ++ s.copied.map .ok := by
  induction h with
  | nil s => rfl
  | cons x rest s t u stored account hx _ ih =>
    have hsource : copiesOf t a account = copiesOf s a account := by
      obtain ⟨v, hv⟩ := read_of_acts x a b s t stored hx
      unfold copiesOf
      refine List.map_congr_left fun e _ => ?_
      exact field_of_acts_of_ne x a b s t stored hx a (isObject_of_field s a _ v hv) _
        fun hba => hab hba.1.symm
    have hcons : copiesOf s a ((x, stored) :: account) =
        copiesOf s a [(x, stored)] ++ copiesOf s a account := by
      unfold copiesOf
      rw [← List.map_append, ← List.filter_append, List.singleton_append]
    rw [ih fun y hy => hclones y (List.mem_cons_of_mem x hy), hsource,
      copied_of_acts x a b s t (hclones x List.mem_cons_self) stored hx, hcons, List.reverse_append,
      List.append_assoc]

theorem separated_of_runs (hs : s.Closed) (hab : a ≠ b) (hb : s.IsObject b)
    (h : Runs a b actions s u account) : Separated a b s u account where
  origin := origin_of_runs a b actions s u account h
  fresh x w hw hx c hc := by
    obtain ⟨lo, hi, hlo, hwithin, hfenced⟩ :=
      fenced_of_runs a b actions s u account hclones hab hs hb h x w hw hx
    have hinside := u.heap.inside_of_fenced lo hi b x.target hfenced w hwithin c hc
    refine ⟨s.heap.get?_eq_none_of_le c (by omega), fun o name v hv hreach => ?_⟩
    have hlt := s.heap.below_of_leads _ hs v (below_of_field s hs o name v hv) c hreach
    exact absurd (Nat.lt_of_lt_of_le hlt hlo) (Nat.not_lt.mpr hinside.1)
  apart x w hw hx c hc o ho name v hv hne := by
    obtain ⟨lo, hi, hlo, hwithin, hfenced⟩ :=
      fenced_of_runs a b actions s u account hclones hab hs hb h x w hw hx
    obtain ⟨hlo', hhi'⟩ := u.heap.inside_of_fenced lo hi b x.target hfenced w hwithin c hc
    refine u.heap.reaches_of_fenced lo hi b x.target hfenced v ?_ c hlo' hhi'
    -- The object was there before, so it is outside; and of its target only the one field leads inside.
    rintro y rfl
    obtain ⟨r, hr, hmem⟩ := mem_parts_of_field u o name _ hv
    have hlt := lt_of_isObject s o ho
    by_cases hbo : o = b
    · subst hbo
      obtain ⟨r', hr', hget⟩ := (field_eq_ok_iff u o name _).mp hv
      exact hfenced.fields r' ((object?_eq_some_iff u o r').mp hr') name y
        (fun hname => hne ⟨rfl, hname.symm⟩) hget
    · exact hfenced.outside o _ (.inl (Nat.lt_of_lt_of_le hlt hlo)) hbo hr y hmem
  others o r ho hr := object?_of_keptBut b s u (runs_keeps a b actions s u account hs h).2 o ho r hr
  cells := (runs_keeps a b actions s u account hs h).2
  copies := copied_of_runs a b actions s u account hclones hab h

end

/-! Updates that do not copy -/

section

variable (x : FieldAction) (a b : ObjectId) (s t : Store) (hname : x.source = x.target)
  (hclone : x.clone = false)

include hname hclone

theorem source_of_acts (w : Value) (h : Acts x a b s t (some w)) : s.field a x.target = .ok w := by
  cases h with
  | moved v r hv => exact hname ▸ hv
  | copied v w r hv hcopied => simp [hclone] at hcopied

/-- Even where source and target are one object, the source's fields keep their values. -/
theorem source_field_of_acts (o : Option Value) (h : Acts x a b s t o) (name : String) :
    t.field a name = s.field a name := by
  obtain ⟨v, hv⟩ := read_of_acts x a b s t o h
  have ha := isObject_of_field s a _ v hv
  by_cases hwritten : b = a ∧ x.target = name
  · cases o with
    | none => exact field_of_kept s t (kept_of_acts_none x a b s t h) a ha name
    | some w =>
      rw [field_of_acts_some x a b s t w h a ha, if_pos hwritten, ← hwritten.2,
        source_of_acts x a b s t hname hclone w h]
  · exact field_of_acts_of_ne x a b s t o h a ha name hwritten

/-- A field that holds the source's value of its name goes on to hold it. -/
theorem equal_field_of_acts (o : Option Value) (h : Acts x a b s t o) (name : String) (v : Value)
    (ha : s.field a name = .ok v) (hb : s.field b name = .ok v) : t.field b name = .ok v := by
  have hobject := isObject_of_field s b name v hb
  by_cases hwritten : x.target = name
  · cases o with
    | none => rw [field_of_kept s t (kept_of_acts_none x a b s t h) b hobject, hb]
    | some w =>
      have hw := source_of_acts x a b s t hname hclone w h
      rw [hwritten, ha] at hw
      cases hw
      rw [field_of_acts_some x a b s t v h b hobject, if_pos ⟨rfl, hwritten⟩]
  · rw [field_of_acts_of_ne x a b s t o h b hobject name fun hbn => hwritten hbn.2, hb]

end

section

variable (a b : ObjectId) (actions : List FieldAction) (s u : Store)
  (account : List (FieldAction × Option Value)) (hnames : ∀ x ∈ actions, x.source = x.target)
  (hmoves : ∀ x ∈ actions, x.clone = false)

include hnames hmoves

theorem equal_field_of_runs (h : Runs a b actions s u account) (name : String) (v : Value)
    (ha : s.field a name = .ok v) (hb : s.field b name = .ok v) : u.field b name = .ok v := by
  induction h with
  | nil s => exact hb
  | cons x rest s t u stored account hx _ ih =>
    have hname := hnames x List.mem_cons_self
    have hclone := hmoves x List.mem_cons_self
    have ha' : t.field a name = .ok v := by
      rw [source_field_of_acts x a b s t hname hclone stored hx, ha]
    exact ih (fun y hy => hnames y (List.mem_cons_of_mem x hy))
      (fun y hy => hmoves y (List.mem_cons_of_mem x hy)) ha'
      (equal_field_of_acts x a b s t hname hclone stored hx name v ha hb)

/-- What is stored is the source's value, and stays in the target. -/
theorem moved_of_runs (hb : s.IsObject b) (h : Runs a b actions s u account) (x : FieldAction)
    (w : Value) (hw : (x, some w) ∈ account) :
    s.field a x.source = .ok w ∧ u.field b x.target = .ok w := by
  induction h with
  | nil s => cases hw
  | cons y rest s t u stored account hy hrest ih =>
    have hname := hnames y List.mem_cons_self
    have hclone := hmoves y List.mem_cons_self
    have hnames' : ∀ z ∈ rest, z.source = z.target := fun z hz => hnames z (List.mem_cons_of_mem y hz)
    have hmoves' : ∀ z ∈ rest, z.clone = false := fun z hz => hmoves z (List.mem_cons_of_mem y hz)
    have hsource := source_field_of_acts y a b s t hname hclone stored hy
    rcases List.mem_cons.mp hw with heq | hw
    · cases heq
      have hread := source_of_acts x a b s t hname hclone w hy
      have hstored : t.field b x.target = .ok w := by
        rw [field_of_acts_some x a b s t w hy b hb, if_pos ⟨rfl, rfl⟩]
      refine ⟨hname ▸ hread, ?_⟩
      exact equal_field_of_runs a b rest t u account hnames' hmoves' hrest x.target w
        ((hsource x.target).trans hread) hstored
    · obtain ⟨hread, hstored⟩ := ih hnames' hmoves' (isObject_of_acts a b y s t stored hy b hb) hw
      exact ⟨(hsource x.source).symm.trans hread, hstored⟩

end

/-! What copies nothing -/

/-- Nothing was copied, and all cells but one are as they were. -/
structure Store.SameBut (b : ObjectId) (s t : Store) : Prop where
  size : t.heap.size = s.heap.size
  cells : ∀ c, c ≠ b → t.heap.get? c = s.heap.get? c
  copied : t.copied = s.copied

theorem sameBut_refl (b : ObjectId) (s : Store) : s.SameBut b s := ⟨rfl, fun _ _ => rfl, rfl⟩

theorem sameBut_trans (b : ObjectId) (s t u : Store) (hst : s.SameBut b t) (htu : t.SameBut b u) :
    s.SameBut b u where
  size := htu.size.trans hst.size
  cells c hc := (htu.cells c hc).trans (hst.cells c hc)
  copied := htu.copied.trans hst.copied

theorem sameBut_symm (b : ObjectId) (s t : Store) (h : s.SameBut b t) : t.SameBut b s where
  size := h.size.symm
  cells c hc := (h.cells c hc).symm
  copied := h.copied.symm

theorem sameBut_afterWrite (b : ObjectId) (s : Store) (r : Record) (name : String) (v : Value) :
    s.SameBut b (s.afterWrite b r name v) where
  size := s.heap.size_set b _
  cells c hc := s.heap.get?_set_of_ne b c _ hc.symm
  copied := rfl

theorem sameBut_write (b : ObjectId) (name : String) (v : Value) :
    (write b name v).Keeps (Store.SameBut b) := by
  intro s
  rw [run_write]
  cases s.object? b with
  | none => exact sameBut_refl b s
  | some r =>
    cases hcheck : r.checkWrite name with
    | error e => simpa only [hcheck] using sameBut_refl b s
    | ok u => simpa only [hcheck] using sameBut_afterWrite b s r name v

theorem sameBut_applyAction (x : FieldAction) (a b : ObjectId) (hclone : x.clone = false)
    (heager : x.eagerClone = false) : (applyAction x a b).Keeps (Store.SameBut b) := by
  have hrefl := sameBut_refl b
  have htrans := sameBut_trans b
  unfold applyAction
  refine keeps_bind _ htrans _ _ (keeps_read _ hrefl _ _) fun value => ?_
  simp only [hclone, heager, copyIf, Bool.false_and, Bool.false_eq_true, if_false, pure_bind]
  refine keeps_bind _ htrans _ _ (keeps_isKept _ hrefl htrans b x) fun kept => ?_
  split
  · exact keeps_pure _ hrefl _
  split
  · exact keeps_pure _ hrefl _
  · exact sameBut_write b x.target value

theorem sameBut_applyActions (a b : ObjectId) (actions : List FieldAction)
    (hmoves : ∀ x ∈ actions, x.clone = false ∧ x.eagerClone = false) :
    (applyActions a b actions).Keeps (Store.SameBut b) := by
  induction actions with
  | nil => exact keeps_pure _ (sameBut_refl b) _
  | cons x rest ih =>
    obtain ⟨hclone, heager⟩ := hmoves x List.mem_cons_self
    exact keeps_bind _ (sameBut_trans b) _ _ (sameBut_applyAction x a b hclone heager)
      fun _ => ih fun y hy => hmoves y (List.mem_cons_of_mem x hy)

theorem sameBut_mergeInto (p : Plan) (a b : ObjectId)
    (hmoves : ∀ x ∈ p.actions, x.clone = false ∧ x.eagerClone = false) (s : Store) :
    s.SameBut b (mergeInto p a b s).2 := by
  unfold mergeInto Step.after
  cases checkMerge p with
  | error e => exact sameBut_refl b s
  | ok _ =>
    exact keeps_bind _ (sameBut_trans b) _ _ (sameBut_applyActions a b p.actions hmoves)
      (fun _ => keeps_pure _ (sameBut_refl b) b) s

/-! What a construction stores -/

theorem exists_of_fill_cons (arguments : OrderedMap String Value) (name : String)
    (default : Option Value) (rest : Declarations) (filled : List (String × Value))
    (hfill : Declarations.fill arguments ((name, default) :: rest) = some filled) :
    ∃ v tail, (arguments.get? name <|> default) = some v ∧
      Declarations.fill arguments rest = some tail ∧ filled = (name, v) :: tail := by
  simp only [Declarations.fill, Option.bind_eq_bind, Option.pure_def, Option.bind_eq_some_iff,
    Option.some.injEq] at hfill
  obtain ⟨v, hv, tail, htail, rfl⟩ := hfill
  exact ⟨v, tail, hv, htail, rfl⟩

/-- A declared field has its argument's value, whatever its default is. -/
theorem find_fill (arguments : OrderedMap String Value) (name : String) (w : Value)
    (hw : arguments.get? name = some w) (d : Declarations) (filled : List (String × Value))
    (hfill : d.fill arguments = some filled) :
    OrderedMap.find filled name = if d.has name then some w else none := by
  induction d generalizing filled with
  | nil =>
    cases hfill
    rfl
  | cons field rest ih =>
    obtain ⟨key, default⟩ := field
    obtain ⟨v, tail, hv, htail, rfl⟩ := exists_of_fill_cons arguments key default rest filled hfill
    by_cases hkey : key = name
    · subst hkey
      rw [hw] at hv
      cases hv
      simp [OrderedMap.find, Declarations.has]
    · have hhas : Declarations.has ((key, default) :: rest) name = Declarations.has rest name := by
        simp [Declarations.has, hkey]
      rw [hhas, OrderedMap.find, if_neg hkey]
      exact ih tail htail

/-- A class that puts its arguments as they are into the object it makes: a dictionary, a class of fixed fields, or
a model that declares them. -/
inductive RecordClass.Keeps (d : Declarations) (arguments : OrderedMap String Value) : RecordClass → Prop
  | dictionary : Keeps d arguments .dictionary
  | strict : Keeps d arguments (.strict d)
  | model (h : ∀ name, arguments.contains name = true → d.has name = true) : Keeps d arguments (.model d)

theorem get?_of_built (d : Declarations) (c : RecordClass) (arguments : OrderedMap String Value)
    (hc : c.Keeps d arguments) (s t : Store) (o : ObjectId)
    (hbuild : (c.build arguments).run.run s = (.ok o, t)) :
    ∃ r, t = { s with heap := (s.heap.alloc (.record r)).1 } ∧ o = s.heap.size ∧
      ∀ name w, arguments.get? name = some w → r.fields.get? name = some w := by
  have hfilled : ∀ fields kind, d.fill arguments = some fields → ∀ name w,
      arguments.get? name = some w → d.has name = true →
        (Record.plain kind fields).fields.get? name = some w := by
    intro fields kind hfill name w hw hhas
    exact (find_fill arguments name w hw d fields hfill).trans (if_pos hhas)
  cases hc with
  | dictionary =>
    cases hbuild
    exact ⟨_, rfl, rfl, fun name w hw => hw⟩
  | strict =>
    rw [run_strict] at hbuild
    by_cases hall : arguments.keys.all d.has = true
    · rw [if_pos hall] at hbuild
      cases hfill : d.fill arguments with
      | none =>
        rw [hfill] at hbuild
        cases hbuild
      | some fields =>
        rw [hfill] at hbuild
        cases hbuild
        refine ⟨_, rfl, rfl, fun name w hw => hfilled fields _ hfill name w hw ?_⟩
        exact List.all_eq_true.mp hall name
          (List.mem_map_of_mem (OrderedMap.mem_of_find arguments.toList name w hw))
    · rw [if_neg hall] at hbuild
      cases hbuild
  | model h =>
    unfold RecordClass.build RecordClass.model RecordClass.lenient at hbuild
    cases hfill : d.fill arguments with
    | none =>
      simp only [hfill] at hbuild
      cases hbuild
    | some fields =>
      simp only [hfill] at hbuild
      cases hbuild
      refine ⟨_, rfl, rfl, fun name w hw => hfilled fields _ hfill name w hw (h name ?_)⟩
      rw [OrderedMap.contains, hw]
      rfl

theorem run_gather_of_error (a : ObjectId) (actions : List FieldAction)
    (values : OrderedMap String Value) (s t : Store) (e : LiveError)
    (h : (gather a values actions).run.run s = (.error e, t)) : t = s := by
  induction actions generalizing values with
  | nil => cases h
  | cons x rest ih =>
    unfold gather at h
    rw [run_bind, run_read] at h
    cases hv : s.field a x.source with
    | error e =>
      rw [hv] at h
      cases h
      rfl
    | ok v =>
      rw [hv] at h
      exact ih _ h

theorem fields_of_gather (a : ObjectId) (actions : List FieldAction)
    (values arguments : OrderedMap String Value) (s t : Store)
    (h : (gather a values actions).run.run s = (.ok arguments, t)) (x : FieldAction)
    (hx : x ∈ actions) : ∃ v, s.field a x.source = .ok v := by
  induction actions generalizing values with
  | nil => cases hx
  | cons y rest ih =>
    unfold gather at h
    rw [run_bind, run_read] at h
    cases hv : s.field a y.source with
    | error e =>
      rw [hv] at h
      cases h
    | ok v =>
      rw [hv] at h
      rcases List.mem_cons.mp hx with rfl | hx
      · exact ⟨v, hv⟩
      · exact ih _ h hx

/-! Plans -/

section

variable (p : Plan) (a : ObjectId) (s t : Store)

/-- A construction fails before it comes to the class, and has changed nothing then, or gives the class the very
values of the source, and has changed nothing by then. -/
theorem handed_over (hnames : ∀ x ∈ p.actions, x.source = x.target) (c : RecordClass) :
    (∃ e, convert p a c s = (.error e, s)) ∨
      ∃ arguments : OrderedMap String Value,
        convert p a c s = Step.after (.ok ()) (c.build arguments) s ∧
        (∀ name, arguments.contains name = true ↔ ∃ x ∈ p.actions, x.target = name) ∧
        ∀ x ∈ p.actions, ∃ w, s.field a x.source = .ok w ∧ arguments.get? x.target = some w := by
  unfold convert
  cases hcheck : checkConstruction p with
  | error e => exact .inl ⟨e, rfl⟩
  | ok _ =>
    simp only [Step.after, run_bind]
    cases hgather : (gather a .empty p.actions).run.run s with
    | mk r s' =>
      cases r with
      | error e =>
        have hsame := run_gather_of_error a p.actions .empty s s' e hgather
        exact .inl ⟨.live e, by rw [hsame]; rfl⟩
      | ok arguments =>
        have hfields := fields_of_gather a p.actions .empty arguments s s' hgather
        obtain ⟨arguments', hrun, hgathered, hcontains⟩ := run_gather s a p.actions .empty hfields
        rw [hgather] at hrun
        cases hrun
        refine .inr ⟨arguments, rfl, fun name => ?_, fun x hx => ?_⟩
        · exact (hcontains name).trans (or_iff_right Bool.false_ne_true)
        · obtain ⟨w, hw⟩ := Option.isSome_iff_exists.mp ((hcontains x.target).mpr (.inr ⟨x, hx, rfl⟩))
          refine ⟨w, ?_, hw⟩
          rcases hgathered x.target w hw with hempty | ⟨y, hy, hname, hfield⟩
          · cases hempty
          · rw [hnames x hx, ← hname, ← hnames y hy]
            exact hfield

/-- An update that copies stores what is new, as far as copies share nothing, and copies once for each value it
stores or copies early. Without copying, updates change no cell but the target and store the source's own values;
constructions hand the source's own values to the class, and nothing else has happened by then, so that a class
which keeps its arguments holds them. -/
theorem stored_apart_or_shared (source target : Schema) (v : Variant) (path : Option TargetPath)
    (location : Option Location) (hp : p = Plan.synthesize source target v path location) :
    (v.mode = .mergeRef → s.Closed → ∀ b, s.IsObject b → a ≠ b → mergeInto p a b s = (.ok b, t) →
      ∃ account, Runs a b p.actions s t account ∧ account.map (·.1) = p.actions ∧
        Separated a b s t account) ∧
    (v.mode = .merge → ∀ b, s.IsObject b → s.SameBut b (mergeInto p a b s).2 ∧
      (mergeInto p a b s = (.ok b, t) → ∃ account, Runs a b p.actions s t account ∧
        account.map (·.1) = p.actions ∧ ∀ x w, (x, some w) ∈ account →
          s.field a x.source = .ok w ∧ t.field b x.target = .ok w)) ∧
    (v.mode.isMerge = false → ∀ c,
      (∃ e, convert p a c s = (.error e, s)) ∨
        ∃ arguments : OrderedMap String Value,
          convert p a c s = Step.after (.ok ()) (c.build arguments) s ∧
          (∀ name, arguments.contains name = true ↔ ∃ x ∈ p.actions, x.target = name) ∧
          (∀ x ∈ p.actions, ∃ w, s.field a x.source = .ok w ∧ arguments.get? x.target = some w) ∧
          ∀ d o, c.Keeps d arguments → convert p a c s = (.ok o, t) →
            ∃ r, t = { s with heap := (s.heap.alloc (.record r)).1 } ∧ o = s.heap.size ∧
              ∀ x ∈ p.actions, ∃ w, s.field a x.source = .ok w ∧ r.fields.get? x.target = some w) := by
  have horderly : ∀ x ∈ p.actions, Orderly v x := by
    intro x hx
    rw [hp] at hx
    exact orderly_of_synthesized source target v path location x hx
  have hclone : ∀ x ∈ p.actions, x.clone = v.mode.clones := fun x hx => (horderly x hx).clone
  have haccount : ∀ b, s.IsObject b → mergeInto p a b s = (.ok b, t) →
      ∃ account, Runs a b p.actions s t account := by
    intro b hb h
    obtain ⟨hmode, hvalid⟩ := valid_of_mergeInto a b p s t h
    exact (mergeInto_eq_ok_iff v a b p hmode hvalid horderly s t hb).mp h
  refine ⟨?_, ?_, ?_⟩
  · intro hmode hs b hb hab h
    obtain ⟨account, hruns⟩ := haccount b hb h
    have hclones : ∀ x ∈ p.actions, x.clone = true := by
      intro x hx
      rw [hclone x hx, hmode]
      rfl
    exact ⟨account, hruns, actions_of_runs a b p.actions s t account hruns,
      separated_of_runs a b p.actions s t account hclones hs hab hb hruns⟩
  · intro hmode b hb
    have hmoves : ∀ x ∈ p.actions, x.clone = false := by
      intro x hx
      rw [hclone x hx, hmode]
      rfl
    constructor
    · exact sameBut_mergeInto p a b (fun x hx =>
        ⟨hmoves x hx, lazy_of_orderly v x (horderly x hx) (hmoves x hx)⟩) s
    · intro h
      obtain ⟨account, hruns⟩ := haccount b hb h
      have hnames : ∀ x ∈ p.actions, x.source = x.target := fun x hx => (horderly x hx).name
      exact ⟨account, hruns, actions_of_runs a b p.actions s t account hruns,
        moved_of_runs a b p.actions s t account hnames hmoves hb hruns⟩
  · intro hmode c
    rcases handed_over p a s (fun x hx => (horderly x hx).name) c with
      hfails | ⟨arguments, hrun, hnames, hvalues⟩
    · exact .inl hfails
    refine .inr ⟨arguments, hrun, hnames, hvalues, fun d o hkeeps hbuilt => ?_⟩
    rw [hrun] at hbuilt
    have hbuild : (c.build arguments).run.run s = (.ok o, t) := by
      unfold Step.after at hbuilt
      generalize (c.build arguments).run.run s = result at hbuilt ⊢
      obtain ⟨r, s'⟩ := result
      cases r with
      | error e => cases hbuilt
      | ok o' =>
        cases hbuilt
        rfl
    obtain ⟨r, ht, ho, hget⟩ := get?_of_built d c arguments hkeeps s t o hbuild
    refine ⟨r, ht, ho, fun x hx => ?_⟩
    obtain ⟨w, hw, hargument⟩ := hvalues x hx
    exact ⟨w, hw, hget x.target w hargument⟩

end

theorem stored_apart_article :
    desk.Closed ∧ desk.IsObject 1 ∧ ∃ t account,
      mergeInto (Plan.synthesize article draft ⟨.mergeRef, true, by decide⟩) 0 1 desk = (.ok 1, t) ∧
        Separated 0 1 desk t account ∧ t.copied = [.scalar (.integer 3), .ref 2] := by
  obtain ⟨hcopies, -⟩ := stored_apart_or_shared
    (Plan.synthesize article draft ⟨.mergeRef, true, by decide⟩) 0 desk
    (mergeInto (Plan.synthesize article draft ⟨.mergeRef, true, by decide⟩) 0 1 desk).2
    article draft ⟨.mergeRef, true, by decide⟩ none none rfl
  obtain ⟨account, -, -, hseparated⟩ := hcopies rfl closed_desk 1 ⟨_, rfl⟩ (by decide) rfl
  exact ⟨closed_desk, ⟨_, rfl⟩, _, account, rfl, hseparated, rfl⟩

/-- A source that holds the target leads to all that is stored there, and is changed with it. -/
theorem stored_within_source :
    nest.Closed ∧ nest.field 0 "a" = .ok (.ref 1) ∧
      (Plan.synthesize holder holder (.hard .mergeRef)).errors = [] ∧
      ∃ t, mergeInto (Plan.synthesize holder holder (.hard .mergeRef)) 0 1 nest = (.ok 1, t) ∧
        t.field 1 "a" = .ok (.ref 3) ∧ t.heap.Reaches (.ref 1) 3 ∧
          nest.object? 1 = some (.plain .dictionary [("a", .ref 2)]) ∧
            t.object? 1 = some (.plain .dictionary [("a", .ref 3)]) :=
  ⟨closed_nest, rfl, rfl, _, rfl, rfl,
    .step 1 3 (.record (.plain .dictionary [("a", .ref 3)])) (.ref 3) rfl rfl List.mem_cons_self (.here 3),
    rfl, rfl⟩

end Crosswalk.Live

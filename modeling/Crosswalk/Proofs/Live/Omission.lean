import Crosswalk.Proofs.Live.Account

/-! Updates from a source that lacks fields. Carrying out an action reads the source's field before all else;
the statements of a soft action look at the target first, and where something is there already they never come
to the source. So the emitted function passes over an action that the update fails at. Without such an action
both end alike, whatever fields the source lacks. -/

namespace Crosswalk.Emission

open Live

/-- Whether the source lacks a field that the statements of an action do not come to read. -/
def passesOver (s : Store) (a b : ObjectId) (x : FieldAction) : Bool :=
  match s.field a x.source, s.field b x.target with
  | .error _, .ok old => x.onlyIfAbsent && !x.eagerClone && !old.isNone
  | .error _, .error _ | .ok _, _ => false

/-- The actions that are not passed over. -/
def noticed (s : Store) (a b : ObjectId) (actions : List FieldAction) : List FieldAction :=
  actions.filter fun x => !passesOver s a b x

theorem noticed_of_all (s : Store) (a b : ObjectId) (actions : List FieldAction)
    (h : ∀ x ∈ actions, passesOver s a b x = false) : noticed s a b actions = actions :=
  List.filter_eq_self.mpr fun x hx => by simp [h x hx]

theorem noticed_split (s : Store) (a b : ObjectId) (front rest : List FieldAction) (x : FieldAction)
    (hfront : ∀ y ∈ front, passesOver s a b y = false) (hx : passesOver s a b x = true) :
    noticed s a b (front ++ x :: rest) = front ++ noticed s a b rest := by
  have hkept := noticed_of_all s a b front hfront
  unfold noticed at hkept ⊢
  rw [List.filter_append, hkept, List.filter_cons_of_neg (by simp [hx])]

/-! Fields that are not there -/

/-- A field of an object with attributes is there, or reading it tells of a missing attribute. -/
theorem field_of_isAttributed (s : Store) (o : ObjectId) (name : String) (ho : IsAttributed s o) :
    (∃ v, s.field o name = .ok v) ∨ s.field o name = .error (.access .missingAttribute) := by
  obtain ⟨r, hr, hkind⟩ := ho
  cases hget : r.fields.get? name with
  | some v => exact .inl ⟨v, (field_eq_ok_iff s o name v).mpr ⟨r, hr, hget⟩⟩
  | none =>
    refine .inr ?_
    unfold Store.field Record.get
    simp only [hr, hget]
    cases hk : r.kind with
    | extensible | validated | fixed => rfl
    | dictionary | readOnly => simp [hk, hasAttributes] at hkind

section

variable (c : Scope) (x : FieldAction) (s : Store) (hs : IsAttributed s c.source)
  (ht : IsAttributed s c.target)
  (hlacks : s.field c.source x.source = .error (.access .missingAttribute))
  (himported : x.clone = true → c.imported = true)

include hs hlacks himported

/-- Neither a field that is lacking nor a copy of it can be stored. -/
theorem run_eval_lacking :
    (Operand.eval c (operand x)).run.run s = (.error (.live (.access .missingAttribute)), s) := by
  unfold operand
  cases hclone : x.clone with
  | false =>
    simp only [Bool.false_eq_true, if_false, Operand.eval]
    rw [run_getAttribute _ _ _ hs, hlacks]
    rfl
  | true =>
    simp only [if_true, Operand.eval, himported hclone, not_true, if_false]
    rw [run_bind, run_getAttribute _ _ _ hs, hlacks]
    rfl

/-- A statement that has come to the source ends there. -/
theorem run_storeIf_lacking :
    (Instruction.run c (.storeIf (if x.kind = .unwrapIfPresent then [.present x.source] else [])
      x.target (operand x))).run.run s = (.error (.live (.access .missingAttribute)), s) := by
  unfold Instruction.run
  by_cases hkind : x.kind = .unwrapIfPresent
  · simp only [hkind, if_true, allHold, Condition.holds, run_bind, run_getAttribute _ _ _ hs, hlacks,
      mapError_error]
  · simp only [hkind, if_false, if_true, allHold, run_bind, run_pure,
      run_eval_lacking c x s hs hlacks himported]

omit hs hlacks himported in
include ht in
/-- A statement that asks for absence reads the target first. -/
theorem run_storeIf_absent (target : String) (others : List Condition) (value : Operand) :
    (Instruction.run c (.storeIf (.absent target :: others) x.target value)).run.run s =
      match s.field c.target target with
      | .error e => (.error (.live e), s)
      | .ok old =>
        if old.isNone then (Instruction.run c (.storeIf others x.target value)).run.run s
        else (.ok c, s) := by
  unfold Instruction.run
  simp only [allHold, Condition.holds, run_bind, run_getAttribute _ _ _ ht]
  cases s.field c.target target with
  | error e => rfl
  | ok old =>
    simp only [mapError_ok, run_pure]
    cases old.isNone <;> rfl

include ht

/-- The statements of an action whose field is lacking fail, unless they do not come to read it. -/
theorem run_instructions_lacking :
    (runAll c (instructions x)).run.run s =
      if passesOver s c.source c.target x then (.ok c, s)
      else (.error (.live (.access .missingAttribute)), s) := by
  have hsource := run_storeIf_lacking c x s hs hlacks himported
  cases hxeager : x.eagerClone with
  | true =>
    have hnot : passesOver s c.source c.target x = false := by
      unfold passesOver
      rw [hlacks, hxeager]
      cases s.field c.target x.target <;> simp
    rw [hnot, instructions, hxeager]
    simp only [if_true, runAll, Instruction.run, run_bind,
      run_eval_lacking c x s hs hlacks himported, Bool.false_eq_true, if_false]
  | false =>
    rw [runAll_lazy c x s hxeager]
    unfold conditions passesOver
    rw [hlacks, hxeager]
    cases honly : x.onlyIfAbsent with
    | false =>
      simp only [Bool.false_eq_true, if_false, List.nil_append, hsource]
      cases s.field c.target x.target <;> rfl
    | true =>
      simp only [if_true, List.singleton_append]
      rw [run_storeIf_absent c x s ht]
      rcases field_of_isAttributed s c.target x.target ht with ⟨old, hold⟩ | hold
      · simp only [hold, hsource]
        cases old.isNone <;> rfl
      · simp only [hold, Bool.false_eq_true, if_false]

end

/-! All actions -/

/-- What statements rely on, apart from the fields of the source. -/
structure Equipped (c : Scope) (actions : List FieldAction) (s : Store) : Prop where
  source : IsAttributed s c.source
  target : IsAttributed s c.target
  imported : ∀ x ∈ actions, x.clone = true → c.imported = true

theorem equipped_step (c : Scope) (x : FieldAction) (rest : List FieldAction) (s t : Store)
    (w : Option Value) (h : s.Extends t) (hequipped : Equipped c (x :: rest) s) :
    Equipped { c with value := w } rest t where
  source := isAttributed_of_extends s t _ h hequipped.source
  target := isAttributed_of_extends s t _ h hequipped.target
  imported y hy := hequipped.imported y (List.mem_cons_of_mem x hy)

section

variable (variant : Variant)

/-- An action that is not passed over does what its statements do. -/
theorem run_of_noticed (c : Scope) (x : FieldAction) (rest : List FieldAction) (s : Store)
    (hequipped : Equipped c (x :: rest) s) (hx : Orderly variant x)
    (hnoticed : passesOver s c.source c.target x = false) :
    ∃ w, (runAll c (instructions x)).run.run s =
      report { c with value := w } ((applyAction x c.source c.target).run.run s) := by
  have himported := hequipped.imported x List.mem_cons_self
  rcases field_of_isAttributed s c.source x.source hequipped.source with ⟨v, hv⟩ | hlacks
  · refine run_of_field c x v s hequipped.source hequipped.target hv himported fun heager => ?_
    obtain ⟨hclone, -, hkind⟩ := hx.eager heager
    exact ⟨hclone, hkind⟩
  · refine ⟨c.value, ?_⟩
    rw [run_instructions_lacking c x s hequipped.source hequipped.target hlacks himported, hnoticed,
      run_applyAction_of_error x c.source c.target s _ hlacks]
    rfl

/-- An action that is passed over is one that fails. -/
theorem lacks_of_passesOver (a b : ObjectId) (s : Store) (ha : IsAttributed s a) (x : FieldAction)
    (h : passesOver s a b x = true) : s.field a x.source = .error (.access .missingAttribute) := by
  refine (field_of_isAttributed s a x.source ha).resolve_left ?_
  rintro ⟨v, hv⟩
  simp [passesOver, hv] at h

/-- An action that succeeds does not change which others are passed over: it leaves the source the fields it has,
and writes none that it lacks. -/
theorem passesOver_of_acts (x y : FieldAction) (a b : ObjectId) (s t : Store) (o : Option Value)
    (ha : s.IsObject a) (hb : s.IsObject b) (hx : Orderly variant x) (hy : Orderly variant y)
    (h : Acts x a b s t o) : passesOver t a b y = passesOver s a b y := by
  cases hread : s.field a y.source with
  | ok v =>
    obtain ⟨w, hw⟩ := field_of_extends s t (extends_of_acts a b x s t o h) a y.source v hread
    simp only [passesOver, hread, hw]
  | error e =>
    -- The other action has read the field it writes, so it writes none that the source lacks.
    obtain ⟨v, hv⟩ := read_of_acts x a b s t o h
    have hne : x.target ≠ y.target := by
      intro hname
      rw [hx.name, hname, ← hy.name, hread] at hv
      cases hv
    have hsource := field_of_acts_of_ne x a b s t o h a ha y.source fun hwritten =>
      hne (hwritten.2.trans hy.name)
    have htarget := field_of_acts_of_ne x a b s t o h b hb y.target fun hwritten => hne hwritten.2
    unfold passesOver
    rw [hsource, htarget]

theorem noticed_congr (a b : ObjectId) (s t : Store) (actions : List FieldAction)
    (h : ∀ x ∈ actions, passesOver t a b x = passesOver s a b x) :
    noticed t a b actions = noticed s a b actions := by
  apply List.filter_congr
  intro x hx
  rw [h x hx]

/-- The statements of a list of actions do what those actions do that are not passed over. -/
theorem run_flatMap_noticed (c : Scope) (actions : List FieldAction) (s : Store)
    (hequipped : Equipped c actions s) (hactions : ∀ x ∈ actions, Orderly variant x) :
    ∃ w, (runAll c (actions.flatMap instructions)).run.run s =
      report { c with value := w }
        ((applyActions c.source c.target (noticed s c.source c.target actions)).run.run s) := by
  induction actions generalizing c s with
  | nil => exact ⟨c.value, rfl⟩
  | cons x rest ih =>
    have hx := hactions x List.mem_cons_self
    have hrest := fun y hy => hactions y (List.mem_cons_of_mem x hy)
    rw [List.flatMap_cons, runAll_append, run_bind]
    cases hpasses : passesOver s c.source c.target x with
    | true =>
      have hlacks := lacks_of_passesOver c.source c.target s hequipped.source x hpasses
      have hfilter : noticed s c.source c.target (x :: rest) = noticed s c.source c.target rest :=
        noticed_split s c.source c.target [] rest x nofun hpasses
      rw [hfilter, run_instructions_lacking c x s hequipped.source hequipped.target hlacks
        (hequipped.imported x List.mem_cons_self), if_pos hpasses]
      exact ih c s (equipped_step c x rest s s c.value (extends_refl s) hequipped) hrest
    | false =>
      obtain ⟨w, hw⟩ := run_of_noticed variant c x rest s hequipped hx hpasses
      have hfilter : noticed s c.source c.target (x :: rest) =
          x :: noticed s c.source c.target rest :=
        List.filter_cons_of_pos (by simp [hpasses])
      have hextends := extends_applyAction x c.source c.target s
      rw [hw, hfilter, applyActions, run_bind]
      generalize hresult : (applyAction x c.source c.target).run.run s = result at hextends
      obtain ⟨r, t⟩ := result
      cases r with
      | error e => exact ⟨w, rfl⟩
      | ok _ =>
        -- The rest starts in another store, in which the same actions are passed over.
        have ha := isObject_of_isAttributed s c.source hequipped.source
        have hb := isObject_of_isAttributed s c.target hequipped.target
        obtain ⟨o, hacts⟩ := acts_of_run variant x c.source c.target s t hb hx hresult
        have hsame : noticed t c.source c.target rest = noticed s c.source c.target rest :=
          noticed_congr c.source c.target s t rest fun y hy =>
            passesOver_of_acts variant x y c.source c.target s t o ha hb hx (hrest y hy) hacts
        rw [← hsame]
        exact ih { c with value := w } t (equipped_step c x rest s t w hextends hequipped) hrest

theorem passesOver_of_runs (a b : ObjectId) (actions : List FieldAction) (s t : Store)
    (account : List (FieldAction × Option Value)) (ha : s.IsObject a) (hb : s.IsObject b)
    (hactions : ∀ x ∈ actions, Orderly variant x) (h : Runs a b actions s t account) (y : FieldAction) (hy : Orderly variant y) :
    passesOver t a b y = passesOver s a b y := by
  induction h with
  | nil s => rfl
  | cons x rest s t u o account hx _ ih =>
    rw [ih (isObject_of_acts a b x s t o hx a ha) (isObject_of_acts a b x s t o hx b hb) fun z hz =>
      hactions z (List.mem_cons_of_mem x hz)]
    exact passesOver_of_acts variant x y a b s t o ha hb (hactions x List.mem_cons_self) hy hx

end

/-! Plans -/

theorem run_callUpdate_noticed (variant : Variant) (p : Plan) (hmode : p.mode.isMerge = true)
    (hshape : p.shapeValid = true) (hactions : ∀ x ∈ p.actions, Orderly variant x)
    (hcanonical : ∀ x ∈ p.actions, Code.canonicalName x.target = x.target) (a b : ObjectId)
    (s t : Store) (ha : IsAttributed s a) (hb : IsAttributed s b) (outcome : Except LiveError Unit)
    (h : (applyActions a b (noticed s a b p.actions)).run.run s = (outcome, t)) :
    (callUpdate p a b).run.run s =
      if (EmittedPlan.ofPlan p).ReadableUpdate then (outcome.mapError .live, t)
      else (.error .unreadable, s) := by
  have hequipped : Equipped ⟨needsCopy [p], a, b, none⟩ p.actions s :=
    ⟨ha, hb, fun x hx hclone => needsCopy_of_clone p x hx hclone⟩
  obtain ⟨w, hw⟩ := run_flatMap_noticed variant _ p.actions s hequipped hactions
  rw [h] at hw
  have hnames := fun x hx => And.intro (hactions x hx).name (hcanonical x hx)
  exact run_callUpdate_of_report p hmode hshape hnames a b s _ _ hw

/-- If the text of an update is code, its function does all that the update does but for the actions it passes
over. Where it passes over none, both end alike in one store; under a hard plan this is always so. Where it does,
both do what comes before the first such action; then the update ends for a missing attribute, and the function
goes on. If the text is no code there is no function. -/
theorem callUpdate_noticed (source target : Schema) (v : Variant) (path : Option TargetPath)
    (location : Option Location) (p : Plan) (hp : p = Plan.synthesize source target v path location)
    (hmerge : v.mode.isMerge = true) (herrors : p.errors = [])
    (hcanonical : ∀ x ∈ p.actions, Code.canonicalName x.target = x.target) (a b : ObjectId)
    (s : Store) (ha : IsAttributed s a) (hb : IsAttributed s b) :
    ((EmittedPlan.ofPlan p).ReadableUpdate →
      (∀ outcome t, (applyActions a b (noticed s a b p.actions)).run.run s = (outcome, t) →
        (callUpdate p a b).run.run s = (outcome.mapError .live, t)) ∧
      ((∀ x ∈ p.actions, passesOver s a b x = false) →
        ∃ (outcome : Except LiveError Unit) (t : Store),
          mergeInto p a b s = ((outcome.map fun _ => b).mapError .live, t) ∧
            (callUpdate p a b).run.run s = (outcome.mapError .live, t)) ∧
      (∀ front x rest, p.actions = front ++ x :: rest →
        (∀ y ∈ front, passesOver s a b y = false) → passesOver s a b x = true →
        (∀ e t, (applyActions a b front).run.run s = (.error e, t) →
          mergeInto p a b s = (.error (.live e), t) ∧
            (callUpdate p a b).run.run s = (.error (.live e), t)) ∧
        (∀ t, (applyActions a b front).run.run s = (.ok (), t) →
          mergeInto p a b s = (.error (.live (.access .missingAttribute)), t) ∧
            ∀ outcome u, (applyActions a b (noticed t a b rest)).run.run t = (outcome, u) →
              (callUpdate p a b).run.run s = (outcome.mapError .live, u)))) ∧
    (v.soft = false → ∀ x ∈ p.actions, passesOver s a b x = false) ∧
    (¬ (EmittedPlan.ofPlan p).ReadableUpdate →
      (callUpdate p a b).run.run s = (.error .unreadable, s)) := by
  obtain ⟨hmode, hvalid, hshape, hactions⟩ :=
    valid_of_errors_nil source target v path location p hp hmerge herrors
  have hcalled := fun outcome t =>
    run_callUpdate_noticed v p hmode hshape hactions hcanonical a b s t ha hb outcome
  have hmerged := run_mergeInto p hmode hvalid a b s
  refine ⟨fun hread => ?_, fun hhard x hx => ?_, fun hread => ?_⟩
  · have hcall : ∀ outcome t, (applyActions a b (noticed s a b p.actions)).run.run s = (outcome, t) →
        (callUpdate p a b).run.run s = (outcome.mapError .live, t) := fun outcome t h =>
      (hcalled outcome t h).trans (if_pos hread)
    refine ⟨hcall, fun hall => ?_, fun front x rest hsplit hfront hx => ⟨?_, ?_⟩⟩
    · rw [noticed_of_all s a b p.actions hall] at hcall
      exact ⟨_, _, hmerged, hcall _ _ rfl⟩
    · intro e t hrun
      rw [hmerged, hsplit, run_applyActions_append, hrun]
      refine ⟨rfl, hcall (.error e) t ?_⟩
      rw [hsplit, noticed_split s a b front rest x hfront hx, run_applyActions_append, hrun]
    · intro t hrun
      have horderly : ∀ y ∈ front, Orderly v y := fun y hy =>
        hactions y (hsplit ▸ List.mem_append_left _ hy)
      have ha' := isObject_of_isAttributed s a ha
      have hb' := isObject_of_isAttributed s b hb
      obtain ⟨account, hruns⟩ := (run_applyActions_eq_ok_iff v a b front s t hb' horderly).mp hrun
      have hsame : ∀ y ∈ x :: rest, passesOver t a b y = passesOver s a b y := fun y hy =>
        passesOver_of_runs v a b front s t account ha' hb' horderly hruns y
          (hactions y (hsplit ▸ List.mem_append_right _ hy))
      have hextends := extends_applyActions front a b s
      rw [hrun] at hextends
      have hlacks := lacks_of_passesOver a b t (isAttributed_of_extends s t a hextends ha) x
        ((hsame x List.mem_cons_self).trans hx)
      constructor
      · rw [hmerged, hsplit, run_applyActions_append, hrun]
        simp only [applyActions, run_bind, run_applyAction_of_error x a b t _ hlacks]
        rfl
      · intro outcome u hrest
        apply hcall
        rw [hsplit, noticed_split s a b front rest x hfront hx, run_applyActions_append, hrun,
          ← noticed_congr a b s t rest fun y hy => hsame y (List.mem_cons_of_mem x hy)]
        exact hrest
  · have honly := (hactions x hx).onlyIfAbsent
    unfold passesOver
    rw [honly, hhard]
    cases s.field a x.source <;> cases s.field b x.target <;> rfl
  · exact (hcalled _ _ rfl).trans (if_neg hread)

/-- An article whose size is not known, and a draft that has one. -/
def sparseDesk : Store where
  heap := ⟨[.record (.plain .extensible [("tags", .ref 2)]),
    .record (.plain .validated [("tags", .none), ("size", .scalar (.integer 5))]), .list []]⟩

theorem callUpdate_noticed_article :
    ∃ t, mergeInto (Plan.synthesize article draft ⟨.merge, true, by decide⟩) 0 1 sparseDesk =
        (.error (.live (.access .missingAttribute)), t) ∧
      (callUpdate (Plan.synthesize article draft ⟨.merge, true, by decide⟩) 0 1).run.run sparseDesk =
        (.ok (), t) := by
  obtain ⟨hreadable, -, -⟩ := callUpdate_noticed article draft ⟨.merge, true, by decide⟩ none none _ rfl
    rfl rfl (by decide) 0 1 sparseDesk ⟨_, rfl, rfl⟩ ⟨_, rfl, rfl⟩
  obtain ⟨-, -, hpassed⟩ := hreadable (by decide +kernel)
  obtain ⟨-, hends⟩ := hpassed [⟨"tags", "tags", .wrap, false, true, false⟩]
    ⟨"size", "size", .wrap, false, true, false⟩ [] rfl (by decide) (by decide)
  obtain ⟨hmerge, hcall⟩ := hends _ rfl
  exact ⟨_, hmerge, hcall (.ok ()) _ rfl⟩

end Crosswalk.Emission

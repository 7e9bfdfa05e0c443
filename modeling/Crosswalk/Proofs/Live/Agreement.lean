import Crosswalk.Proofs.Live.Program
import Crosswalk.Proofs.Optionality

/-! The emitted function of an update does what carrying out the plan does, if its text is code at all: the
same store after it, the same copies, and the same end. One action and its statements make the same checks in
the same store; the list of actions follows by induction, since neither side takes a field away. -/

namespace Crosswalk.Emission

open Live

theorem isAttributed_of_extends (s s' : Store) (o : ObjectId) (h : s.Extends s')
    (ho : IsAttributed s o) : IsAttributed s' o := by
  obtain ⟨r, hr, hkind⟩ := ho
  obtain ⟨r', hr', hkind', -⟩ := h o r hr
  exact ⟨r', hr', hkind' ▸ hkind⟩

theorem isAttributed_afterCopy (s : Store) (v : Value) (o : ObjectId) (ho : IsAttributed s o) :
    IsAttributed (s.afterCopy v) o :=
  isAttributed_of_extends s _ o (extends_of_kept s _ (kept_afterCopy s v)) ho

/-! One action -/

/-- Whether an action stores a value: where the action asks for that, the target's field has to be absent
and the value present. -/
def admits (a : FieldAction) (target : ObjectId) (v : Value) (s : Store) : Except LiveError Bool :=
  let wanted := !(decide (a.kind = .unwrapIfPresent) && v.isNone)
  if a.onlyIfAbsent then (s.field target a.target).map fun old => old.isNone && wanted
  else .ok wanted

/-- An update looks at its checks before it goes on. -/
theorem run_checks (a : FieldAction) (target : ObjectId) (v : Value) (k : Step Unit) (s : Store) :
    (isKept a target >>= fun kept =>
      if kept = true then pure ()
      else if a.kind = .unwrapIfPresent ∧ v.isNone = true then pure () else k).run.run s =
      match admits a target v s with
      | .error e => (.error e, s)
      | .ok false => (.ok (), s)
      | .ok true => k.run.run s := by
  have hwanted : (if a.kind = .unwrapIfPresent ∧ v.isNone = true then pure () else k).run.run s =
      match (.ok (!(decide (a.kind = .unwrapIfPresent) && v.isNone)) : Except LiveError Bool) with
      | .error e => (.error e, s)
      | .ok false => (.ok (), s)
      | .ok true => k.run.run s := by
    by_cases hkind : a.kind = .unwrapIfPresent
    · rw [hkind]
      cases v.isNone <;> rfl
    · simp only [hkind, false_and, if_false, decide_false, Bool.false_and, Bool.not_false]
  unfold admits isKept
  cases a.onlyIfAbsent with
  | false => exact hwanted
  | true =>
    simp only [if_true, run_bind, run_read]
    cases s.field target a.target with
    | error e => rfl
    | ok old =>
      simp only [run_pure, Except.map]
      cases old.isNone with
      | false => rfl
      | true => exact hwanted

/-- The conditions of the statements are the same checks. -/
theorem run_conditions (c : Scope) (a : FieldAction) (v : Value) (s : Store)
    (hs : IsAttributed s c.source) (ht : IsAttributed s c.target)
    (hv : s.field c.source a.source = .ok v) :
    (allHold c (conditions a)).run.run s = ((admits a c.target v s).mapError .live, s) := by
  have hwanted :
      (allHold c (if a.kind = .unwrapIfPresent then [.present a.source] else [])).run.run s =
        (.ok (!(decide (a.kind = .unwrapIfPresent) && v.isNone)), s) := by
    by_cases hkind : a.kind = .unwrapIfPresent
    · simp only [hkind, if_true, allHold, Condition.holds, run_bind, run_getAttribute _ _ _ hs, hv,
        mapError_ok, run_pure]
      cases v.isNone <;> rfl
    · simp only [hkind, if_false, allHold, run_pure, decide_false, Bool.false_and, Bool.not_false]
  unfold conditions admits
  cases a.onlyIfAbsent with
  | false => exact hwanted
  | true =>
    simp only [if_true, List.singleton_append, allHold, Condition.holds, run_bind,
      run_getAttribute _ _ _ ht]
    cases s.field c.target a.target with
    | error e => rfl
    | ok old =>
      simp only [mapError_ok, run_pure, Except.map]
      cases old.isNone with
      | false => rfl
      | true => exact hwanted

theorem run_storeIf (c : Scope) (a : FieldAction) (value : Operand) (v : Value) (s : Store)
    (hs : IsAttributed s c.source) (ht : IsAttributed s c.target)
    (hv : s.field c.source a.source = .ok v) :
    (Instruction.run c (.storeIf (conditions a) a.target value)).run.run s =
      match admits a c.target v s with
      | .error e => (.error (.live e), s)
      | .ok false => (.ok c, s)
      | .ok true => (Instruction.run c (.store a.target value)).run.run s := by
  unfold Instruction.run
  rw [run_bind, run_conditions c a v s hs ht hv]
  cases admits a c.target v s with
  | error e => rfl
  | ok wanted => cases wanted <;> rfl

/-- What a call comes to when it does what a step does, and ends with a scope. -/
def report (c : Scope) (r : Except LiveError Unit × Store) : Except CallError Scope × Store :=
  ((r.1.map fun _ => c).mapError .live, r.2)

theorem run_applyAction (a : FieldAction) (source target : ObjectId) (v : Value) (s : Store)
    (hv : s.field source a.source = .ok v) :
    (applyAction a source target).run.run s =
      match (copyIf a.eagerClone v).run.run s with
      | (.error e, s') => (.error e, s')
      | (.ok w, s') =>
        match admits a target w s' with
        | .error e => (.error e, s')
        | .ok false => (.ok (), s')
        | .ok true =>
          (copyIf (a.clone && !a.eagerClone) w >>= write target a.target).run.run s' := by
  unfold applyAction
  simp only [run_bind _ _ s, run_read, hv]
  cases (copyIf a.eagerClone v).run.run s with
  | mk r s' =>
    cases r with
    | error e => rfl
    | ok w => exact run_checks a target w _ s'

theorem run_write_call (c : Scope) (target : String) (v : Value) (s : Store)
    (ht : IsAttributed s c.target) :
    (setAttribute c.target target v >>= fun _ => pure c).run.run s =
      report c ((write c.target target v).run.run s) := by
  rw [run_bind, run_setAttribute _ _ _ _ ht, run_perform]
  cases (write c.target target v).run.run s with
  | mk r s' => cases r <;> rfl

theorem run_store (c : Scope) (a : FieldAction) (v : Value) (s : Store)
    (hs : IsAttributed s c.source) (ht : IsAttributed s c.target)
    (hv : s.field c.source a.source = .ok v) (himported : a.clone = true → c.imported = true) :
    (Instruction.run c (.store a.target (operand a))).run.run s =
      report c ((copyIf a.clone v >>= write c.target a.target).run.run s) := by
  unfold operand copyIf Instruction.run
  cases hclone : a.clone with
  | false =>
    simp only [Bool.false_eq_true, if_false, Operand.eval]
    rw [run_bind, run_getAttribute _ _ _ hs, hv, run_bind, run_pure]
    exact run_write_call c a.target v s ht
  | true =>
    simp only [if_true, Operand.eval, himported hclone, not_true, if_false]
    rw [run_bind, run_bind, run_getAttribute _ _ _ hs, hv]
    simp only [mapError_ok, run_perform]
    rw [run_bind, run_deepCopy]
    cases (s.heap.deepCopy v).1 with
    | error e => rfl
    | ok w => exact run_write_call c a.target w (s.afterCopy v) (isAttributed_afterCopy s v _ ht)

theorem runAll_one (c : Scope) (i : Instruction) : runAll c [i] = i.run c := by
  simp [runAll]

/-- An action that does not copy early has one statement, which looks at its conditions if it has any. -/
theorem runAll_lazy (c : Scope) (a : FieldAction) (s : Store) (hlazy : a.eagerClone = false) :
    (runAll c (instructions a)).run.run s =
      (Instruction.run c (.storeIf (conditions a) a.target (operand a))).run.run s := by
  unfold instructions
  rw [hlazy]
  cases conditions a with
  | nil => simp [runAll_one, Instruction.run, allHold]
  | cons condition rest => simp [runAll_one]

theorem run_lazy (c : Scope) (a : FieldAction) (v : Value) (s : Store)
    (hs : IsAttributed s c.source) (ht : IsAttributed s c.target)
    (hv : s.field c.source a.source = .ok v) (himported : a.clone = true → c.imported = true)
    (hlazy : a.eagerClone = false) :
    (runAll c (instructions a)).run.run s =
      report c ((applyAction a c.source c.target).run.run s) := by
  rw [runAll_lazy c a s hlazy, run_storeIf c a _ v s hs ht hv, run_applyAction a _ _ v s hv, hlazy]
  simp only [copyIf, Bool.false_eq_true, if_false, run_pure, Bool.not_false, Bool.and_true]
  cases admits a c.target v s with
  | error e => rfl
  | ok wanted =>
    cases wanted with
    | false => rfl
    | true => exact run_store c a v s hs ht hv himported

theorem admits_wrap (a : FieldAction) (target : ObjectId) (v w : Value) (s : Store)
    (hkind : a.kind = .wrap) : admits a target v s = admits a target w s := by
  simp [admits, hkind]

theorem run_eager (c : Scope) (a : FieldAction) (v : Value) (s : Store)
    (hs : IsAttributed s c.source) (ht : IsAttributed s c.target)
    (hv : s.field c.source a.source = .ok v) (himported : a.clone = true → c.imported = true)
    (heager : a.eagerClone = true) (hclone : a.clone = true) (hkind : a.kind = .wrap) :
    ∃ w, (runAll c (instructions a)).run.run s =
      report { c with value := w } ((applyAction a c.source c.target).run.run s) := by
  have hs' := isAttributed_afterCopy s v c.source hs
  have ht' := isAttributed_afterCopy s v c.target ht
  have hv' : (s.afterCopy v).field c.source a.source = .ok v :=
    (field_of_kept s _ (kept_afterCopy s v) _ (isObject_of_field s _ _ v hv) _).trans hv
  have hbind : (Instruction.run c (.bind (operand a))).run.run s =
      (((s.heap.deepCopy v).1.mapError .copy).mapError .live |>.map fun w => { c with value := some w },
        s.afterCopy v) := by
    simp only [operand, hclone, if_true, Instruction.run, Operand.eval, himported hclone, not_true,
      if_false, run_bind, run_getAttribute _ _ _ hs, hv, mapError_ok, run_perform, run_deepCopy]
    cases (s.heap.deepCopy v).1 <;> rfl
  have hall : runAll c (instructions a) =
      Instruction.run c (.bind (operand a)) >>= fun c' =>
        Instruction.run c' (.storeIf (conditions a) a.target .bound) := by
    simp [instructions, heager, runAll]
  rw [hall, run_bind, hbind, run_applyAction a _ _ v s hv, heager]
  simp only [copyIf, if_true, run_deepCopy]
  cases (s.heap.deepCopy v).1 with
  | error e => exact ⟨none, rfl⟩
  | ok w =>
    refine ⟨some w, ?_⟩
    simp only [mapError_ok, Except.map]
    rw [run_storeIf { c with value := some w } a .bound v (s.afterCopy v) hs' ht' hv',
      admits_wrap a c.target v w (s.afterCopy v) hkind]
    cases admits a c.target w (s.afterCopy v) with
    | error e => rfl
    | ok wanted =>
      cases wanted with
      | false => rfl
      | true =>
        simp only [Bool.not_true, Bool.and_false, Bool.false_eq_true, if_false, pure_bind]
        exact run_write_call { c with value := some w } a.target w (s.afterCopy v) ht'

/-! All actions -/

theorem runAll_append (c : Scope) (is js : List Instruction) :
    runAll c (is ++ js) = runAll c is >>= fun c' => runAll c' js := by
  induction is generalizing c with
  | nil => simp [runAll]
  | cons i rest ih => simp [runAll, ih]

/-- What the emitted statements of a plan's actions rely on: both objects are attributed, the source has
the fields that are read, and copies can be made where they are needed. -/
structure Ready (c : Scope) (actions : List FieldAction) (s : Store) : Prop where
  source : IsAttributed s c.source
  target : IsAttributed s c.target
  fields : ∀ a ∈ actions, ∃ v, s.field c.source a.source = .ok v
  imported : ∀ a ∈ actions, a.clone = true → c.imported = true
  eager : ∀ a ∈ actions, a.eagerClone = true → a.clone = true ∧ a.kind = .wrap

theorem ready_step (c : Scope) (a : FieldAction) (rest : List FieldAction) (s s' : Store)
    (w : Option Value) (h : s.Extends s') (hready : Ready c (a :: rest) s) :
    Ready { c with value := w } rest s' where
  source := isAttributed_of_extends s s' _ h hready.source
  target := isAttributed_of_extends s s' _ h hready.target
  fields b hb := by
    obtain ⟨v, hv⟩ := hready.fields b (List.mem_cons_of_mem a hb)
    exact field_of_extends s s' h c.source b.source v hv
  imported b hb := hready.imported b (List.mem_cons_of_mem a hb)
  eager b hb := hready.eager b (List.mem_cons_of_mem a hb)

/-- The statements of an action whose field is there do what the action does. -/
theorem run_of_field (c : Scope) (a : FieldAction) (v : Value) (s : Store)
    (hs : IsAttributed s c.source) (ht : IsAttributed s c.target)
    (hv : s.field c.source a.source = .ok v) (himported : a.clone = true → c.imported = true)
    (heager : a.eagerClone = true → a.clone = true ∧ a.kind = .wrap) :
    ∃ w, (runAll c (instructions a)).run.run s =
      report { c with value := w } ((applyAction a c.source c.target).run.run s) := by
  cases hearly : a.eagerClone with
  | false => exact ⟨c.value, run_lazy c a v s hs ht hv himported hearly⟩
  | true =>
    obtain ⟨hclone, hkind⟩ := heager hearly
    exact run_eager c a v s hs ht hv himported hearly hclone hkind

theorem run_instructions (c : Scope) (a : FieldAction) (rest : List FieldAction) (s : Store)
    (hready : Ready c (a :: rest) s) :
    ∃ w, (runAll c (instructions a)).run.run s =
      report { c with value := w } ((applyAction a c.source c.target).run.run s) := by
  have ha : a ∈ a :: rest := List.mem_cons_self
  obtain ⟨v, hv⟩ := hready.fields a ha
  exact run_of_field c a v s hready.source hready.target hv (hready.imported a ha) (hready.eager a ha)

/-- The statements of a list of actions do what the actions do. -/
theorem run_flatMap_instructions (c : Scope) (actions : List FieldAction) (s : Store)
    (hready : Ready c actions s) :
    ∃ w, (runAll c (actions.flatMap instructions)).run.run s =
      report { c with value := w } ((applyActions c.source c.target actions).run.run s) := by
  induction actions generalizing c s with
  | nil => exact ⟨c.value, rfl⟩
  | cons a rest ih =>
    obtain ⟨w, hw⟩ := run_instructions c a rest s hready
    have hextends := extends_applyAction a c.source c.target s
    rw [List.flatMap_cons, runAll_append, run_bind, hw, applyActions, run_bind]
    generalize (applyAction a c.source c.target).run.run s = result at hextends
    obtain ⟨r, s'⟩ := result
    cases r with
    | error e => exact ⟨w, rfl⟩
    | ok u => exact ih { c with value := w } s' (ready_step c a rest s s' w hextends hready)

/-! Plans -/

/-- Where the text of an update is code, its function comes to what its statements come to. -/
theorem run_callUpdate_of_report (p : Plan) (hmerge : p.mode.isMerge = true)
    (hshape : p.shapeValid = true)
    (hnames : ∀ x ∈ p.actions, x.source = x.target ∧ Code.canonicalName x.target = x.target)
    (a b : ObjectId) (s : Store) (c : Scope) (r : Except LiveError Unit × Store)
    (h : (runAll ⟨needsCopy [p], a, b, none⟩ (p.actions.flatMap instructions)).run.run s = report c r) :
    (callUpdate p a b).run.run s =
      if (EmittedPlan.ofPlan p).ReadableUpdate then (r.1.mapError .live, r.2)
      else (.error .unreadable, s) := by
  have hfunction : (EmittedPlan.ofPlan p).function =
      some ⟨functionName p, .update (p.actions.flatMap instructions)⟩ := by
    simp [EmittedPlan.ofPlan, hshape, body, hmerge]
  have hread : (p.actions.flatMap instructions).map Instruction.asRead = p.actions.flatMap instructions :=
    asRead_instructions p.actions fun x hx => by
      obtain ⟨hname, hcanonical⟩ := hnames x hx
      exact ⟨hname ▸ hcanonical, hcanonical⟩
  unfold callUpdate
  simp only [hfunction, hread]
  by_cases hreadable : (EmittedPlan.ofPlan p).ReadableUpdate
  · simp only [hreadable, not_true, if_false, if_true, run_bind, run_pure, h, report]
    obtain ⟨outcome, t⟩ := r
    cases outcome <;> rfl
  · simp only [hreadable, not_false_iff, if_true, if_false]
    rfl

theorem run_callUpdate (p : Plan) (hmerge : p.mode.isMerge = true) (hshape : p.shapeValid = true)
    (hnames : ∀ x ∈ p.actions, x.source = x.target ∧ Code.canonicalName x.target = x.target)
    (a b : ObjectId) (s : Store) (hready : Ready ⟨needsCopy [p], a, b, none⟩ p.actions s) :
    (callUpdate p a b).run.run s =
      if (EmittedPlan.ofPlan p).ReadableUpdate then
        (((applyActions a b p.actions).run.run s).1.mapError .live,
          ((applyActions a b p.actions).run.run s).2)
      else (.error .unreadable, s) := by
  obtain ⟨w, hw⟩ := run_flatMap_instructions _ p.actions s hready
  exact run_callUpdate_of_report p hmerge hshape hnames a b s _ _ hw

/-- The module of a plan imports what its actions need. -/
theorem needsCopy_of_clone (p : Plan) (a : FieldAction) (ha : a ∈ p.actions) (hclone : a.clone = true) :
    needsCopy [p] = true := by
  simp only [needsCopy, List.any_cons, List.any_nil, Bool.or_false]
  exact List.any_eq_true.mpr ⟨a, ha, hclone⟩

/-- The function of an update ends as the update does, in the same store: with the same objects and cells, and
after the same copies. But where its text is no code there is no function, whatever the update does. -/
theorem callUpdate_agrees (source target : Schema) (v : Variant) (path : Option TargetPath)
    (location : Option Location) (p : Plan) (hp : p = Plan.synthesize source target v path location)
    (hmerge : v.mode.isMerge = true) (herrors : p.errors = [])
    (hcanonical : ∀ x ∈ p.actions, Code.canonicalName x.target = x.target) (a b : ObjectId)
    (s : Store) (ha : IsAttributed s a) (hb : IsAttributed s b)
    (hfields : ∀ x ∈ p.actions, ∃ value, s.field a x.source = .ok value) :
    ∃ (outcome : Except LiveError Unit) (s' : Store),
      mergeInto p a b s = ((outcome.map fun _ => b).mapError .live, s') ∧
        ((EmittedPlan.ofPlan p).ReadableUpdate →
          (callUpdate p a b).run.run s = (outcome.mapError .live, s')) ∧
        (¬ (EmittedPlan.ofPlan p).ReadableUpdate →
          (callUpdate p a b).run.run s = (.error .unreadable, s)) := by
  have hmode : p.mode.isMerge = true := by
    rw [hp, Plan.mode_synthesize]
    exact hmerge
  have hvalid : ensureValid p = .ok () := by
    rw [ensureValid_eq_ok_iff, Plan.problems_of_merge p hmode, herrors]
  have hshape : p.shapeValid = true := by
    rw [hp] at herrors ⊢
    exact Plan.shapeValid_synthesize source target v path location
      (Plan.shapeError_of_errors_nil source target v path location herrors)
  have hnames : ∀ x ∈ p.actions, x.source = x.target ∧ Code.canonicalName x.target = x.target := by
    intro x hx
    refine ⟨?_, hcanonical x hx⟩
    rw [hp] at hx
    exact (Plan.action_fields source target v path location x hx).1
  have hready : Ready ⟨needsCopy [p], a, b, none⟩ p.actions s := {
    source := ha
    target := hb
    fields := hfields
    imported := fun x hx hclone => needsCopy_of_clone p x hx hclone
    eager := by
      intro x hx heager
      rw [hp] at hx
      obtain ⟨hclone, -, hkind⟩ := Plan.action_eager source target v path location x hx heager
      exact ⟨hclone, hkind⟩ }
  have hcall := run_callUpdate p hmode hshape hnames a b s hready
  refine ⟨_, _, run_mergeInto p hmode hvalid a b s, fun hread => ?_, fun hread => ?_⟩
  · rw [hcall, if_pos hread]
  · rw [hcall, if_neg hread]

/-- A class with the one field that cannot be set. -/
def debugged : Schema := Schema.ofTypes "Debugged" [("__debug__", TypeExpr.named "bytearray")]

def debuggedDesk : Store where
  heap := ⟨[.record (.plain .extensible [("__debug__", .scalar (.boolean true))]),
    .record (.plain .extensible [])]⟩

theorem callUpdate_agrees_article :
    (∃ (outcome : Except LiveError Unit) (s' : Store),
      mergeInto (Plan.synthesize article draft ⟨.mergeRef, true, by decide⟩) 0 1 desk =
          ((outcome.map fun _ => 1).mapError .live, s') ∧
        (callUpdate (Plan.synthesize article draft ⟨.mergeRef, true, by decide⟩) 0 1).run.run desk =
          (outcome.mapError .live, s')) ∧
      (mergeInto (Plan.synthesize debugged debugged (.hard .merge)) 0 1 debuggedDesk).1 = .ok 1 ∧
      (callUpdate (Plan.synthesize debugged debugged (.hard .merge)) 0 1).run.run debuggedDesk =
        (.error .unreadable, debuggedDesk) := by
  have hactions : (Plan.synthesize article draft ⟨.mergeRef, true, by decide⟩).actions =
      [⟨"tags", "tags", .wrap, true, true, true⟩, ⟨"size", "size", .wrap, true, true, false⟩] := rfl
  obtain ⟨outcome, s', hmerged, hcalled, -⟩ := callUpdate_agrees article draft
    ⟨.mergeRef, true, by decide⟩ none none _ rfl rfl rfl (by decide) 0 1 desk ⟨_, rfl, rfl⟩ ⟨_, rfl, rfl⟩ (by
      intro x hx
      rw [hactions, List.mem_cons, List.mem_singleton] at hx
      rcases hx with rfl | rfl
      · exact ⟨.ref 2, rfl⟩
      · exact ⟨.scalar (.integer 3), rfl⟩)
  obtain ⟨-, -, -, -, hrefused⟩ := callUpdate_agrees debugged debugged (.hard .merge) none none _ rfl
    rfl rfl (by decide) 0 1 debuggedDesk ⟨_, rfl, rfl⟩ ⟨_, rfl, rfl⟩ (by
      intro x hx
      rw [show (Plan.synthesize debugged debugged (.hard .merge)).actions =
        [⟨"__debug__", "__debug__", .assign, false, false, false⟩] from rfl, List.mem_singleton] at hx
      subst hx
      exact ⟨.scalar (.boolean true), rfl⟩)
  exact ⟨⟨outcome, s', hmerged, hcalled (by decide +kernel)⟩, rfl, hrefused (by decide +kernel)⟩

end Crosswalk.Emission

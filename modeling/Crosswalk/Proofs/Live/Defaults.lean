import Crosswalk.Proofs.FieldMapping.Fit
import Crosswalk.Proofs.Live.Construction
import Crosswalk.Proofs.Live.Separation

/-! Constructions with defaults. What no action writes is left to the class, which has a default for it or
has not. Whether it has is no matter of the plan: a valid plan can be carried out just where every field
that it leaves out has a default, and then the object holds the source's values and the defaults. -/

namespace Crosswalk

namespace FieldPair

/-- A construction with defaults leaves out the optionals that cannot be put into the target. -/
theorem left_out_iff (pair : FieldPair) (hnil : (pair.map (.hard .intoDefault)).errors = []) :
    (¬ ∃ a, pair.map (.hard .intoDefault) = .act a) ↔
      pair.fit = .demotion ∨ pair.fit = .narrowing := by
  revert hnil
  rw [map_eq_outcome]
  cases pair.fit <;> simp [Fit.outcome, demote, unwrap, act, Variant.hard]

end FieldPair

/-- A field is left out because the source has none of its name, or has only optionals of that name which
cannot be put into it. -/
theorem Plan.mem_uncovered_intoDefault (source target : Schema) (path : Option TargetPath)
    (location : Option Location)
    (herrors : (synthesize source target (.hard .intoDefault) path location).errors = [])
    (name : String) :
    name ∈ (synthesize source target (.hard .intoDefault) path location).uncovered ↔
      name ∈ target.fieldNames ∧ ∀ pair ∈ matchFields source target, pair.target.name = name →
        pair.fit = .demotion ∨ pair.fit = .narrowing := by
  have hshape := shapeError_of_errors_nil source target _ path location herrors
  have hactions := mem_actions source target (.hard .intoDefault) path location
  have hnil := pair_errors_nil source target _ path location herrors
  rw [mem_uncovered source target _ path location hshape]
  refine and_congr_right fun _ => ⟨fun h pair hpair hname => ?_, fun h a ha hname => ?_⟩
  · rw [← pair.left_out_iff (hnil pair hpair)]
    rintro ⟨a, hmap⟩
    exact h a ((hactions a).mpr ⟨hshape, pair, hpair, hmap⟩)
      ((pair.target_of_map _ a hmap).trans hname)
  · obtain ⟨-, pair, hpair, hmap⟩ := (hactions a).mp ha
    have hfit := h pair hpair ((pair.target_of_map _ a hmap).symm.trans hname)
    exact (pair.left_out_iff (hnil pair hpair)).mpr hfit ⟨a, hmap⟩

namespace Live

/-! Filling fields -/

namespace Declarations

/-- A class declares the fields of a schema, in their order, with a default where the schema has one. -/
def Declares (d : Declarations) (schema : Schema) : Prop :=
  d.map (fun field => (field.1, field.2.isSome)) = schema.fields.map fun f => (f.name, f.hasDefault)

/-- The default of the first field of a name. -/
def default? (d : Declarations) (name : String) : Option Value := (OrderedMap.find d name).join

variable (arguments : OrderedMap String Value) (fields : Declarations)

/-- Fields can be filled if each has an argument or a default. -/
theorem isSome_fill_iff :
    (fields.fill arguments).isSome = true ↔
      ∀ d ∈ fields, arguments.contains d.1 = true ∨ d.2.isSome = true := by
  induction fields with
  | nil => simp [fill]
  | cons first rest ih =>
    obtain ⟨name, default⟩ := first
    rw [List.forall_mem_cons, ← ih]
    simp only [fill, OrderedMap.contains]
    cases arguments.get? name <;> cases default <;> cases Declarations.fill arguments rest <;> simp

variable (filled : List (String × Value)) (hfill : fields.fill arguments = some filled)

include hfill

theorem map_fst_fill : filled.map (·.1) = fields.map (·.1) := by
  induction fields generalizing filled with
  | nil =>
    cases hfill
    rfl
  | cons first rest ih =>
    obtain ⟨name, default⟩ := first
    obtain ⟨v, tail, -, htail, rfl⟩ := exists_of_fill_cons arguments name default rest filled hfill
    rw [List.map_cons, List.map_cons, ih tail htail]

/-- Without an argument a field has its default. -/
theorem find_fill_default (name : String) (hnone : arguments.get? name = none) :
    OrderedMap.find filled name = (OrderedMap.find fields name).join := by
  induction fields generalizing filled with
  | nil =>
    cases hfill
    rfl
  | cons first rest ih =>
    obtain ⟨key, default⟩ := first
    obtain ⟨v, tail, hv, htail, rfl⟩ := exists_of_fill_cons arguments key default rest filled hfill
    by_cases hkey : key = name
    · subst hkey
      rw [hnone] at hv
      simpa [OrderedMap.find] using hv.symm
    · rw [OrderedMap.find, OrderedMap.find, if_neg hkey, if_neg hkey]
      exact ih tail htail

theorem get_filled_argument (kind : RecordKind) (name : String) (v : Value)
    (hname : name ∈ fields.map (·.1)) (hv : arguments.get? name = some v) :
    (Record.plain kind filled).get name = .ok v := by
  have hhas : fields.has name = true := by
    simpa [has] using hname
  have hfind : (Record.plain kind filled).fields.get? name = some v := by
    rw [Record.plain, OrderedMap.get?, find_fill arguments name v hv fields filled hfill, if_pos hhas]
  unfold Record.get
  rw [hfind]

theorem get_filled_default (kind : RecordKind) (name : String) (hname : name ∈ fields.map (·.1))
    (hnone : arguments.contains name = false) :
    ∃ v, (OrderedMap.find fields name).join = some v ∧
      (Record.plain kind filled).get name = .ok v := by
  rw [OrderedMap.contains, Option.isSome_eq_false_iff, Option.isNone_iff_eq_none] at hnone
  rw [← map_fst_fill arguments fields filled hfill, ← OrderedMap.isSome_find_iff] at hname
  obtain ⟨v, hv⟩ := Option.isSome_iff_exists.mp hname
  have hget : (Record.plain kind filled).fields.get? name = some v := hv
  refine ⟨v, (find_fill_default arguments fields filled hfill name hnone).symm.trans hv, ?_⟩
  unfold Record.get
  rw [hget]

end Declarations

section

variable (d : Declarations) (schema : Schema) (hd : d.Declares schema)

include hd

theorem map_fst_of_declares : d.map (·.1) = schema.fieldNames := by
  have hnames := congrArg (List.map Prod.fst) hd
  rw [List.map_map, List.map_map] at hnames
  exact hnames

theorem has_iff_mem (name : String) : d.has name = true ↔ name ∈ schema.fieldNames := by
  rw [← map_fst_of_declares d schema hd]
  simp [Declarations.has]

/-- Arguments for declared fields are enough if the schema has defaults for all others. -/
theorem isSome_fill_of_declares (arguments : OrderedMap String Value) :
    (d.fill arguments).isSome = true ↔
      ∀ f ∈ schema.fields, arguments.contains f.name = true ∨ f.hasDefault = true := by
  let filled : String × Bool → Prop := fun field => arguments.contains field.1 = true ∨ field.2 = true
  have hclass : (∀ field ∈ d.map (fun field => (field.1, field.2.isSome)), filled field) ↔
      ∀ field ∈ d, filled (field.1, field.2.isSome) := List.forall_mem_map
  have hschema : (∀ field ∈ schema.fields.map (fun f => (f.name, f.hasDefault)), filled field) ↔
      ∀ f ∈ schema.fields, filled (f.name, f.hasDefault) := List.forall_mem_map
  rw [Declarations.isSome_fill_iff, ← hschema, ← hd]
  exact hclass.symm

theorem run_strict_of_declares (arguments : OrderedMap String Value) (s : Store)
    (h : ∀ name, arguments.contains name = true → name ∈ schema.fieldNames) :
    ((RecordClass.strict d).build arguments).run.run s =
      match d.fill arguments with
      | some fields =>
        (.ok s.heap.size, { s with heap := (s.heap.alloc (.record (.plain .extensible fields))).1 })
      | none => (.error (.build .badArguments), s) := by
  have hall : arguments.keys.all d.has = true := by
    rw [List.all_eq_true]
    intro name hname
    exact (has_iff_mem d schema hd name).mpr
      (h name ((arguments.contains_iff_mem_keys name).mpr hname))
  have hrun := run_strict d arguments s
  rw [if_pos hall] at hrun
  exact hrun

end

/-! Constructions -/

section

variable (source target : Schema) (path : Option TargetPath) (location : Option Location) (p : Plan)
  (hp : p = Plan.synthesize source target (.hard .intoDefault) path location)
  (hvalid : ensureValid p = .ok ()) (d : Declarations) (hd : d.Declares target)

include hp hvalid

section

variable (arguments : OrderedMap String Value)
  (hnames : ∀ name, arguments.contains name = true ↔ ∃ a ∈ p.actions, a.target = name)

include hnames

/-- What a valid construction leaves out is what it has no argument for. -/
theorem mem_uncovered_iff_contains (name : String) :
    name ∈ p.uncovered ↔ name ∈ target.fieldNames ∧ arguments.contains name = false := by
  have herrors := (List.append_eq_nil_iff.mp ((ensureValid_eq_ok_iff p).mp hvalid)).1
  have hshape := Plan.shapeError_of_errors_nil source target _ path location (hp ▸ herrors)
  rw [← Bool.not_eq_true, hnames, hp, Plan.mem_uncovered source target _ path location hshape]
  simp

include hd

/-- The class can be filled just if there are defaults for all that is left out. -/
theorem isSome_fill_iff_defaults :
    (d.fill arguments).isSome = true ↔
      ∀ f ∈ target.fields, f.name ∈ p.uncovered → f.hasDefault = true := by
  rw [isSome_fill_of_declares d target hd arguments]
  refine forall_congr' fun f => forall_congr' fun hf => ?_
  have hname : f.name ∈ target.fieldNames := List.mem_map_of_mem hf
  rw [mem_uncovered_iff_contains source target path location p hp hvalid arguments hnames,
    and_iff_right hname]
  cases arguments.contains f.name <;> simp

/-- A field that is left out is filled with the default of the class. -/
theorem default_of_uncovered (filled : List (String × Value))
    (hfill : d.fill arguments = some filled) (kind : RecordKind) (name : String)
    (hname : name ∈ p.uncovered) :
    ∃ v, d.default? name = some v ∧ (Record.plain kind filled).get name = .ok v := by
  obtain ⟨hmem, hnone⟩ :=
    (mem_uncovered_iff_contains source target path location p hp hvalid arguments hnames name).mp hname
  rw [← map_fst_of_declares d target hd] at hmem
  exact Declarations.get_filled_default arguments d filled hfill kind name hmem hnone

end

include hd

/-- A valid construction with defaults is carried out just if the target has a default for every field that
is left out. The new object then has the target's fields, with the source's values where they are written
and with the class's defaults where not. Else the class refuses its arguments, and nothing is changed. -/
theorem intoDefault_carried_out (o : ObjectId) (s : Store)
    (hfields : ∀ name ∈ source.fieldNames, ∃ v, s.field o name = .ok v) :
    ((∀ f ∈ target.fields, f.name ∈ p.uncovered → f.hasDefault = true) →
      ∃ r, convert p o (.strict d) s =
          (.ok s.heap.size, { s with heap := (s.heap.alloc (.record r)).1 }) ∧
        r.fields.keys = target.fieldNames ∧
        (∀ a ∈ p.actions, ∃ v, s.field o a.source = .ok v ∧ r.get a.target = .ok v) ∧
        ∀ name ∈ p.uncovered, ∃ v, d.default? name = some v ∧ r.get name = .ok v) ∧
    (¬ (∀ f ∈ target.fields, f.name ∈ p.uncovered → f.hasDefault = true) →
      convert p o (.strict d) s = (.error (.live (.build .badArguments)), s)) := by
  have hmode : p.mode.isMerge = false := by
    rw [hp, Plan.mode_synthesize]
    rfl
  have haction : ∀ a ∈ p.actions,
      a.source = a.target ∧ a.source ∈ source.fieldNames ∧ a.target ∈ target.fieldNames := by
    intro a ha
    rw [hp] at ha
    exact Plan.action_fields source target _ path location a ha
  obtain ⟨arguments, hrun, hnames, hvalues⟩ :=
    gather_synthesized source target path location _ p hp o s
      fun a ha => hfields a.source (haction a ha).2.1
  have hbuild := run_strict_of_declares d target hd arguments s fun name hname => by
    obtain ⟨a, ha, rfl⟩ := (hnames name).mp hname
    exact (haction a ha).2.2
  have hconvert : convert p o (.strict d) s =
      Step.after (.ok ()) ((RecordClass.strict d).build arguments) s :=
    run_convert p hmode hvalid o (.strict d) s arguments hrun
  -- All fields are read before the class is built, so only the class can refuse.
  rw [← isSome_fill_iff_defaults source target path location p hp hvalid d hd arguments hnames, hconvert]
  simp only [Step.after, hbuild]
  cases hfill : d.fill arguments with
  | none => exact ⟨fun h => absurd h Bool.false_ne_true, fun _ => rfl⟩
  | some filled =>
    have hdeclared := map_fst_of_declares d target hd
    refine ⟨fun _ => ⟨.plain .extensible filled, rfl, ?keys, ?written, ?leftOut⟩, fun h => absurd rfl h⟩
    case keys =>
      exact (Declarations.map_fst_fill arguments d filled hfill).trans hdeclared
    case written =>
      intro a ha
      obtain ⟨hsame, -, htarget⟩ := haction a ha
      obtain ⟨v, hv⟩ := Option.isSome_iff_exists.mp ((hnames a.target).mpr ⟨a, ha, rfl⟩)
      exact ⟨v, hsame ▸ hvalues a.target v hv,
        Declarations.get_filled_argument arguments d filled hfill _ a.target v
          (hdeclared ▸ htarget) hv⟩
    case leftOut =>
      exact default_of_uncovered source target path location p hp hvalid d hd arguments hnames filled
        hfill .extensible

end

/-! A box with the size of an article, and with a label that an article has not -/

def box (hasDefault : Bool) : Schema where
  identifier := "Box"
  fields := article.fields.tail ++ [{ name := "label", type := .named "str", hasDefault }]

def boxFields (default : Option Value) : Declarations := [("size", none), ("label", default)]

def boxPlan (hasDefault : Bool) : Plan :=
  Plan.synthesize article (box hasDefault) (.hard .intoDefault)

theorem declares_box (default : Option Value) :
    (boxFields default).Declares (box default.isSome) := rfl

theorem field_desk (name : String) (h : name ∈ article.fieldNames) :
    ∃ v, desk.field 0 name = .ok v := by
  have hnames : article.fieldNames = ["tags", "size"] := rfl
  rw [hnames, List.mem_cons, List.mem_singleton] at h
  rcases h with rfl | rfl
  · exact ⟨.ref 2, rfl⟩
  · exact ⟨.scalar (.integer 3), rfl⟩

theorem left_out_box (hasDefault : Bool) : (boxPlan hasDefault).uncovered = ["label"] := rfl

theorem defaults_box (hasDefault : Bool) :
    (∀ f ∈ (box hasDefault).fields, f.name ∈ (boxPlan hasDefault).uncovered → f.hasDefault = true) ↔
      hasDefault = true := by
  simp [left_out_box, box, article, Schema.ofTypes]

theorem intoDefault_carried_out_box :
    (∃ r, convert (boxPlan true) 0 (.strict (boxFields (some (.scalar (.text "new"))))) desk =
        (.ok 3, { desk with heap := (desk.heap.alloc (.record r)).1 }) ∧
      r.fields.keys = ["size", "label"] ∧ r.get "size" = .ok (.scalar (.integer 3)) ∧
      r.get "label" = .ok (.scalar (.text "new"))) ∧
    convert (boxPlan false) 0 (.strict (boxFields none)) desk =
      (.error (.live (.build .badArguments)), desk) := by
  constructor
  · obtain ⟨hcarried, -⟩ := intoDefault_carried_out article (box true) none none (boxPlan true) rfl rfl
      _ (declares_box (some (.scalar (.text "new")))) 0 desk field_desk
    obtain ⟨r, hconvert, hkeys, hwritten, hleftOut⟩ := hcarried ((defaults_box true).mpr rfl)
    obtain ⟨v, hv, hsize⟩ :=
      hwritten ⟨"size", "size", .assign, false, false, false⟩ (List.mem_singleton.mpr rfl)
    obtain ⟨w, hw, hlabel⟩ := hleftOut "label" (by simp [left_out_box])
    cases hv
    cases hw
    exact ⟨r, hconvert, hkeys, hsize, hlabel⟩
  · obtain ⟨-, hrefused⟩ := intoDefault_carried_out article (box false) none none (boxPlan false) rfl rfl
      _ (declares_box none) 0 desk field_desk
    exact hrefused fun h => absurd ((defaults_box false).mp h) Bool.false_ne_true

/-- A valid plan leaves a field without a default to the class, which cannot be built. -/
theorem valid_refused_box :
    article.fieldNames.Nodup ∧ (box false).fieldNames.Nodup ∧
      ensureValid (boxPlan false) = .ok () ∧ (boxFields none).Declares (box false) ∧
      (∀ name ∈ article.fieldNames, ∃ v, desk.field 0 name = .ok v) ∧
      convert (boxPlan false) 0 (.strict (boxFields none)) desk =
        (.error (.live (.build .badArguments)), desk) :=
  ⟨by decide, by decide, rfl, declares_box none, field_desk, rfl⟩

end Live
end Crosswalk

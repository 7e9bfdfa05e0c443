import Crosswalk.Proofs.Live.Defaults
import Crosswalk.Proofs.Live.Repetition
import Crosswalk.Proofs.Plan.Identity

/-! Carrying out the plans of a schema onto itself. A construction makes an object with the very values of
the source, and an update gives them to the target one field after the other. The values read stay what they
are, even if the target is the source: what is written to a field of it is what was there. -/

namespace Crosswalk.Live

/-! What an update by moves leaves -/

/-- Fields of one object have the values of another's, and nothing else has changed. -/
structure Mirrors (names : List String) (a b : ObjectId) (s t : Store) : Prop where
  given : ∀ name ∈ names, t.field b name = s.field a name
  frame : ∀ o name, (o = b → name ∉ names) → t.field o name = s.field o name
  others : s.SameBut b t

section

variable (names : List String) (a b : ObjectId) (s t u : Store)

theorem mirrors_nil : Mirrors [] a b s s where
  given := nofun
  frame _ _ _ := rfl
  others := sameBut_refl b s

/-- The source's fields are what they were, even where it is the target. -/
theorem field_of_mirrors (h : Mirrors names a b s t) (name : String) :
    t.field a name = s.field a name := by
  by_cases hwritten : a = b ∧ name ∈ names
  · obtain ⟨rfl, hname⟩ := hwritten
    exact h.given name hname
  · exact h.frame a name fun hab hname => hwritten ⟨hab, hname⟩

theorem mirrors_cons (first : String) (h : Mirrors [first] a b s t) (hrest : Mirrors names a b t u) :
    Mirrors (first :: names) a b s u where
  given name hname := by
    by_cases hlater : name ∈ names
    · exact (hrest.given name hlater).trans (field_of_mirrors [first] a b s t h name)
    · have hfirst := (List.mem_cons.mp hname).resolve_right hlater
      exact (hrest.frame b name fun _ => hlater).trans (h.given name (List.mem_singleton.mpr hfirst))
  frame o name hname := by
    have hlater : o = b → name ∉ names := fun ho hmem => hname ho (List.mem_cons_of_mem first hmem)
    have hfirst : o = b → name ∉ [first] := fun ho hmem =>
      hname ho (List.mem_singleton.mp hmem ▸ List.mem_cons_self)
    exact (hrest.frame o name hlater).trans (h.frame o name hfirst)
  others := sameBut_trans b s t u h.others hrest.others

end

/-! Updates -/

section

variable (f : Field) (a b : ObjectId) (s : Store)

theorem admits_carried (w : Value) : Emission.admits (f.carried (.hard .merge)) b w s = .ok true := by
  unfold Emission.admits Field.carried
  cases f.isOptional <;> rfl

/-- A field that can be read and written is given the source's value. -/
theorem acts_carried (w : Value) (hread : s.field a f.name = .ok w) (hwritable : Writable s b f.name) :
    ∃ t, Acts (f.carried (.hard .merge)) a b s t (some w) ∧ Mirrors [f.name] a b s t := by
  obtain ⟨r, hr, hcheck⟩ := hwritable
  have hfield := field_afterWrite s b r f.name w hr
  refine ⟨s.afterWrite b r f.name w, .moved w r hread rfl (admits_carried f b s w) hr hcheck, ?_⟩
  constructor
  case given =>
    intro name hname
    rw [hfield, List.mem_singleton.mp hname, if_pos ⟨rfl, rfl⟩, hread]
  case frame =>
    intro o name hname
    rw [hfield, if_neg]
    rintro ⟨rfl, rfl⟩
    exact hname rfl (List.mem_singleton.mpr rfl)
  case others => exact sameBut_afterWrite b s r f.name w

/-- By induction on the fields: each finds its value where it was, whatever has been written before. -/
theorem runs_carried (fields : List Field)
    (hread : ∀ f ∈ fields, ∃ w, s.field a f.name = .ok w)
    (hwritable : ∀ f ∈ fields, Writable s b f.name) :
    ∃ t account, Runs a b (fields.map (·.carried (.hard .merge))) s t account ∧
      Mirrors (fields.map (·.name)) a b s t := by
  induction fields generalizing s with
  | nil => exact ⟨s, [], .nil s, mirrors_nil a b s⟩
  | cons f rest ih =>
    obtain ⟨w, hw⟩ := hread f List.mem_cons_self
    obtain ⟨t, hacts, hfirst⟩ := acts_carried f a b s w hw (hwritable f List.mem_cons_self)
    have hkeptRead : ∀ g ∈ rest, ∃ w, t.field a g.name = .ok w := by
      intro g hg
      rw [field_of_mirrors [f.name] a b s t hfirst]
      exact hread g (List.mem_cons_of_mem f hg)
    have hkeptWritable : ∀ g ∈ rest, Writable t b g.name := fun g hg =>
      writable_of_acts _ a b s t _ hacts g.name (hwritable g (List.mem_cons_of_mem f hg))
    obtain ⟨u, account, hruns, hrest⟩ := ih t hkeptRead hkeptWritable
    exact ⟨u, _, .cons _ _ s t u _ account hacts hruns, mirrors_cons _ a b s t u f.name hfirst hrest⟩

end

section

variable (schema : Schema) (hs : schema.Regular) (path : Option TargetPath)
  (location : Option Location)

include hs

theorem mergeInto_self (a b : ObjectId) (s : Store) (hb : s.IsObject b)
    (hread : ∀ name ∈ schema.fieldNames, ∃ w, s.field a name = .ok w)
    (hwritable : ∀ name ∈ schema.fieldNames, Writable s b name) :
    ∃ t, mergeInto (Plan.synthesize schema schema (.hard .merge) path location) a b s = (.ok b, t) ∧
      Mirrors schema.fieldNames a b s t := by
  have hcarries := Plan.carries_hard schema hs (.hard .merge) path location rfl
  obtain ⟨hmode, hvalid, -, hactions⟩ :=
    valid_of_errors_nil schema schema (.hard .merge) path location _ rfl rfl hcarries.errors
  obtain ⟨t, account, hruns, hmirrors⟩ := runs_carried a b s schema.fields
    (fun f hf => hread f.name (List.mem_map_of_mem hf))
    (fun f hf => hwritable f.name (List.mem_map_of_mem hf))
  refine ⟨t, ?_, hmirrors⟩
  rw [mergeInto_eq_ok_iff (.hard .merge) a b _ hmode hvalid hactions s t hb, hcarries.actions,
    Plan.variant_synthesize]
  exact ⟨account, hruns⟩

/-! Constructions -/

theorem convert_self (d : Declarations) (hd : d.Declares schema) (o : ObjectId) (s : Store)
    (hread : ∀ name ∈ schema.fieldNames, ∃ w, s.field o name = .ok w) :
    ∃ r : Record,
      convert (Plan.synthesize schema schema (.hard .into) path location) o (.strict d) s =
        (.ok s.heap.size, { s with heap := (s.heap.alloc (.record r)).1 }) ∧
      r.fields.keys = schema.fieldNames ∧
      ∀ name ∈ schema.fieldNames, ∃ w, s.field o name = .ok w ∧ r.get name = .ok w := by
  have hproblems := (Plan.carries_hard schema hs (.hard .into) path location rfl).problems
  have hmode : (Plan.synthesize schema schema (.hard .into) path location).mode.isMerge = false := by
    rw [Plan.mode_synthesize]
    rfl
  obtain ⟨arguments, hrun, hnames, hvalues⟩ :=
    into_arguments schema schema path location _ rfl hproblems o s fun x hx =>
      hread x.source (Plan.action_fields schema schema _ path location x hx).2.1
  have hfilled := (isSome_fill_of_declares d schema hd arguments).mpr fun f hf =>
    .inl ((hnames f.name).mpr (List.mem_map_of_mem hf))
  obtain ⟨filled, hfill⟩ := Option.isSome_iff_exists.mp hfilled
  have hbuild := run_strict_of_declares d schema hd arguments s fun name => (hnames name).mp
  have hdeclared := map_fst_of_declares d schema hd
  refine ⟨.plain .extensible filled, ?built, ?keys, ?values⟩
  case built =>
    rw [run_convert _ hmode ((ensureValid_eq_ok_iff _).mpr hproblems) o _ s arguments hrun]
    simp only [Step.after, hbuild, hfill]
    rfl
  case keys => exact (Declarations.map_fst_fill arguments d filled hfill).trans hdeclared
  case values =>
    intro name hname
    obtain ⟨v, hv⟩ := Option.isSome_iff_exists.mp ((hnames name).mpr hname)
    exact ⟨v, hvalues name v hv,
      Declarations.get_filled_argument arguments d filled hfill .extensible name v
        (hdeclared ▸ hname) hv⟩

/-- Onto itself a schema is mapped by the identity. A hard plan gives each field its own value, in their
order, and a soft one those that are optional. So what is made of an object has its very values, and what is
updated from it has them too, with nothing else changed. -/
theorem self_mapped :
    (∀ v : Variant, v.soft = false →
      (Plan.synthesize schema schema v path location).Carries schema.fields []) ∧
    (∀ v : Variant, v.soft = true →
      (Plan.synthesize schema schema v path location).Carries (schema.fields.filter (·.isOptional))
        (schema.fields.filter (!·.isOptional))) ∧
    (∀ (d : Declarations) (o : ObjectId) (s : Store), d.Declares schema →
      (∀ name ∈ schema.fieldNames, ∃ w, s.field o name = .ok w) →
      ∃ r : Record,
        convert (Plan.synthesize schema schema (.hard .into) path location) o (.strict d) s =
          (.ok s.heap.size, { s with heap := (s.heap.alloc (.record r)).1 }) ∧
        r.fields.keys = schema.fieldNames ∧
        ∀ name ∈ schema.fieldNames, ∃ w, s.field o name = .ok w ∧ r.get name = .ok w) ∧
    ∀ (a b : ObjectId) (s : Store), s.IsObject b →
      (∀ name ∈ schema.fieldNames, ∃ w, s.field a name = .ok w) →
      (∀ name ∈ schema.fieldNames, Writable s b name) →
      ∃ t, mergeInto (Plan.synthesize schema schema (.hard .merge) path location) a b s = (.ok b, t) ∧
        Mirrors schema.fieldNames a b s t :=
  ⟨fun v => Plan.carries_hard schema hs v path location,
    fun v => Plan.carries_soft schema hs v path location,
    fun d o s hd => convert_self schema hs path location d hd o s,
    mergeInto_self schema hs path location⟩

end

/-! An article onto articles: the one it is built into, and one of no size -/

theorem regular_article : article.Regular where
  named := rfl
  distinct := by decide
  typed f hf d h := by
    have hfields : ∀ f ∈ article.fields,
        f.type = (TypeExpr.named "list").wrapped ∨ f.type = TypeExpr.named "int" := by
      simp [article, Schema.ofTypes]
    rcases hfields f hf with htype | htype <;> (rw [htype] at h; cases h)

theorem self_mapped_article :
    (∃ r : Record,
      convert (Plan.synthesize article article (.hard .into)) 0 (.strict articleFields) desk =
        (.ok 3, { desk with heap := (desk.heap.alloc (.record r)).1 }) ∧
      r.get "tags" = .ok (.ref 2) ∧ r.get "size" = .ok (.scalar (.integer 3))) ∧
    ∃ t, mergeInto (Plan.synthesize article article (.hard .merge)) 0 1 desk = (.ok 1, t) ∧
      t.field 1 "tags" = .ok (.ref 2) ∧ t.field 1 "size" = .ok (.scalar (.integer 3)) := by
  obtain ⟨-, -, hconvert, hmerge⟩ := self_mapped article regular_article none none
  constructor
  · obtain ⟨r, hrun, -, hvalues⟩ := hconvert articleFields 0 desk rfl field_desk
    obtain ⟨tags, htags, hgetTags⟩ := hvalues "tags" (by decide)
    obtain ⟨size, hsize, hgetSize⟩ := hvalues "size" (by decide)
    cases htags
    cases hsize
    exact ⟨r, hrun, hgetTags, hgetSize⟩
  · have hwritable : ∀ name ∈ article.fieldNames, Writable desk 1 name := by
      intro name hname
      have hnames : article.fieldNames = ["tags", "size"] := rfl
      rw [hnames, List.mem_cons, List.mem_singleton] at hname
      rcases hname with rfl | rfl <;> exact ⟨_, rfl, rfl⟩
    obtain ⟨t, hrun, hmirrors⟩ := hmerge 0 1 desk ⟨_, rfl⟩ field_desk hwritable
    exact ⟨t, hrun, hmirrors.given "tags" (by decide), hmirrors.given "size" (by decide)⟩

end Crosswalk.Live

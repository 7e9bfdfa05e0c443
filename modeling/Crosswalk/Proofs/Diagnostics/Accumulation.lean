import Crosswalk.Proofs.Diagnostics

/-! Histories of a collection of diagnostics. Each call puts a list of diagnostics into it, so what a history
leaves is what one list of all of them leaves: these in the order they came, each where it came first. -/

namespace Crosswalk

/-! Lists without their repeats -/

section

variable {α : Type} [DecidableEq α]

theorem eraseDups_concat (l : List α) (a : α) :
    (l ++ [a]).eraseDups = if a ∈ l then l.eraseDups else l.eraseDups ++ [a] := by
  rw [List.eraseDups_append]
  by_cases h : a ∈ l
  · have hnothing : [a].removeAll l = [] := by simp [List.removeAll, h]
    rw [if_pos h, hnothing, List.eraseDups_nil, List.append_nil]
  · have hall : [a].removeAll l = [a] := by simp [List.removeAll, h]
    rw [if_neg h, hall]
    rfl

/-- It does not matter whether repeats are left out before or after a filter. -/
theorem filter_eraseDups (p : α → Bool) (l : List α) :
    l.eraseDups.filter p = (l.filter p).eraseDups := by
  induction l using List.reverseRecOn with
  | nil => rfl
  | append_singleton l a ih =>
    rw [eraseDups_concat, List.filter_append]
    cases hp : p a with
    | true =>
      have hlast : [a].filter p = [a] := by simp [hp]
      have hkept : a ∈ l.filter p ↔ a ∈ l := by simp [hp]
      rw [hlast, eraseDups_concat, ← ih]
      by_cases h : a ∈ l
      · rw [if_pos h, if_pos (hkept.mpr h)]
      · rw [if_neg h, if_neg (mt hkept.mp h), List.filter_append, hlast]
    | false =>
      have hlast : [a].filter p = [] := by simp [hp]
      rw [hlast, List.append_nil, ← ih]
      split
      · rfl
      · rw [List.filter_append, hlast, List.append_nil]

end

/-- Diagnostics are the same if they say the same of the same place. -/
theorem Diagnostic.eq_iff (d e : Diagnostic) :
    d = e ↔ d.kind = e.kind ∧ d.message = e.message ∧ d.location.file = e.location.file ∧
      d.location.line = e.location.line ∧ d.location.column = e.location.column ∧
      d.location.field = e.location.field := by
  constructor
  · rintro rfl
    exact ⟨rfl, rfl, rfl, rfl, rfl, rfl⟩
  · obtain ⟨kind, message, file, line, column, field⟩ := d
    obtain ⟨kind', message', file', line', column', field'⟩ := e
    rintro ⟨rfl, rfl, rfl, rfl, rfl, rfl⟩
    rfl

namespace Diagnostics

/-! Histories -/

inductive Call
  | add (d : Diagnostic)
  | error (kind : ErrorKind) (message : String) (location : Location := {})
  | extend (items : List Diagnostic)

def Call.apply (ds : Diagnostics) : Call → Diagnostics
  | add d => ds.add d
  | error kind message location => (ds.error kind message location).2
  | extend items => ds.extend items

/-- What a call puts in. -/
def Call.items : Call → List Diagnostic
  | add d => [d]
  | error kind message location => [⟨kind, message, location⟩]
  | extend items => items

/-- The collection that a history of calls leaves of one made of a list. -/
def after (items : List Diagnostic) (calls : List Call) : Diagnostics :=
  calls.foldl Call.apply (ofList items)

/-- All that is put into a collection, in the order it is. -/
def given (items : List Diagnostic) (calls : List Call) : List Diagnostic :=
  items ++ calls.flatMap Call.items

theorem apply_eq_extend (ds : Diagnostics) (call : Call) : call.apply ds = ds.extend call.items := by
  cases call <;> rfl

theorem foldl_apply (ds : Diagnostics) (calls : List Call) :
    calls.foldl Call.apply ds = ds.extend (calls.flatMap Call.items) := by
  induction calls generalizing ds with
  | nil => rfl
  | cons call rest ih =>
    rw [List.foldl_cons, ih, apply_eq_extend, List.flatMap_cons, extend_append]

theorem after_eq_ofList (items : List Diagnostic) (calls : List Call) :
    after items calls = ofList (given items calls) := by
  rw [after, foldl_apply, ofList, ofList, given, extend_append]

theorem toList_ofList (items : List Diagnostic) : (ofList items).toList = items.eraseDups := by
  induction items using List.reverseRecOn with
  | nil => rfl
  | append_singleton items d ih =>
    rw [ofList_append_singleton, eraseDups_concat, ih]

theorem ofKind_ofList (items : List Diagnostic) (kind : ErrorKind) :
    (ofList items).ofKind kind = (items.filter (·.kind = kind)).eraseDups := by
  rw [ofKind, toList_ofList, filter_eraseDups]

theorem raiseIfErrors_ofList (items : List Diagnostic) :
    (ofList items).raiseIfErrors = if items = [] then .ok () else .error ⟨items.eraseDups⟩ := by
  unfold raiseIfErrors hasErrors
  rw [toList_ofList]
  cases items with
  | nil => rfl
  | cons first rest => simp [List.eraseDups_cons]

/-- After any history a collection holds what was put into it, each where it came first and no more: nothing
is there twice, nothing is lost, lists can be put in one by one, and its own contents change nothing. Those
of a kind are found in the same order, and all are raised just if anything was put in. -/
theorem accumulates (items : List Diagnostic) (calls : List Call) :
    let all := given items calls
    let ds := after items calls
    ds.toList = all.eraseDups ∧
    (∀ d e : Diagnostic, d = e ↔ d.kind = e.kind ∧ d.message = e.message ∧
      d.location.file = e.location.file ∧ d.location.line = e.location.line ∧
      d.location.column = e.location.column ∧ d.location.field = e.location.field) ∧
    ds.toList.Nodup ∧
    (∀ d, d ∈ ds.toList ↔ d ∈ all) ∧
    (∀ xs ys, (ds.extend xs).extend ys = ds.extend (xs ++ ys)) ∧
    ds.extend ds.toList = ds ∧
    (∀ kind, ds.ofKind kind = ds.toList.filter (·.kind = kind) ∧
      ds.ofKind kind = (all.filter (·.kind = kind)).eraseDups) ∧
    ds.raiseIfErrors = if all = [] then .ok () else .error ⟨ds.toList⟩ := by
  intro all ds
  have hds : ds = ofList all := after_eq_ofList items calls
  have hlist : ds.toList = all.eraseDups := by rw [hds, toList_ofList]
  refine ⟨hlist, Diagnostic.eq_iff, ds.nodup, fun d => ?_, fun xs ys => (extend_append ds xs ys).symm,
    extend_of_subset ds ds.toList fun d hd => hd, fun kind => ⟨rfl, ?_⟩, ?_⟩
  · rw [hds, mem_ofList]
  · rw [hds, ofKind_ofList]
  · rw [hlist, hds, raiseIfErrors_ofList]

end Diagnostics
end Crosswalk

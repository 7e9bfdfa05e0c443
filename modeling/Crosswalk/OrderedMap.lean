/-! Maps that keep the order in which their keys came. Inserting at a key that is there replaces its value
and leaves it in its place. The main facts say what a look-up finds after each operation. -/

namespace Crosswalk

structure OrderedMap (α β : Type) where
  toList : List (α × β)
  deriving DecidableEq, Repr

namespace OrderedMap

variable {α β : Type} [DecidableEq α]

def empty : OrderedMap α β := ⟨[]⟩

def keys (m : OrderedMap α β) : List α := m.toList.map (·.1)

def size (m : OrderedMap α β) : Nat := m.toList.length

def find : List (α × β) → α → Option β
  | [], _ => none
  | (k, v) :: rest, key => if k = key then some v else find rest key

def get? (m : OrderedMap α β) (key : α) : Option β := find m.toList key

def contains (m : OrderedMap α β) (key : α) : Bool := (m.get? key).isSome

def put (key : α) (value : β) : List (α × β) → List (α × β)
  | [] => [(key, value)]
  | (k, v) :: rest => if k = key then (k, value) :: rest else (k, v) :: put key value rest

def insert (m : OrderedMap α β) (key : α) (value : β) : OrderedMap α β := ⟨put key value m.toList⟩

/-- Inserts only where nothing is. -/
def insertNew (m : OrderedMap α β) (key : α) (value : β) : OrderedMap α β :=
  if m.contains key then m else m.insert key value

def erase (m : OrderedMap α β) (key : α) : OrderedMap α β := ⟨m.toList.filter (·.1 ≠ key)⟩

theorem find_eq_none (l : List (α × β)) (key : α) (h : key ∉ l.map (·.1)) : find l key = none := by
  induction l with
  | nil => rfl
  | cons e rest ih =>
    rw [List.map_cons, List.mem_cons, not_or] at h
    rw [find, if_neg (Ne.symm h.1)]
    exact ih h.2

theorem mem_of_find (l : List (α × β)) (key : α) (value : β) (h : find l key = some value) :
    (key, value) ∈ l := by
  induction l with
  | nil => cases h
  | cons e rest ih =>
    unfold find at h
    split at h
    · rename_i hkey
      cases h
      rw [← hkey]
      exact List.mem_cons_self
    · exact List.mem_cons_of_mem e (ih h)

theorem find_of_mem (l : List (α × β)) (hnodup : (l.map (·.1)).Nodup) (key : α) (value : β)
    (h : (key, value) ∈ l) : find l key = some value := by
  induction l with
  | nil => cases h
  | cons e rest ih =>
    obtain ⟨hfresh, hrest⟩ := List.nodup_cons.mp hnodup
    rcases List.mem_cons.mp h with rfl | h
    · rw [find, if_pos rfl]
    · have hmem : key ∈ rest.map (·.1) := List.mem_map.mpr ⟨(key, value), h, rfl⟩
      have hne : e.1 ≠ key := by
        rintro rfl
        exact hfresh hmem
      rw [find, if_neg hne]
      exact ih hrest h

theorem find_put (l : List (α × β)) (key k : α) (value : β) :
    find (put key value l) k = if key = k then some value else find l k := by
  induction l with
  | nil => simp [put, find]
  | cons p rest ih =>
    obtain ⟨q, v⟩ := p
    by_cases h : q = key
    · subst h
      by_cases hk : q = k <;> simp [put, find, hk]
    · by_cases hk : q = k
      · subst hk
        simp [put, find, h, Ne.symm h]
      · simp [put, find, h, hk, ih]

theorem get?_insert (m : OrderedMap α β) (key k : α) (value : β) :
    (m.insert key value).get? k = if key = k then some value else m.get? k :=
  find_put m.toList key k value

theorem get?_insert_self (m : OrderedMap α β) (key : α) (value : β) :
    (m.insert key value).get? key = some value := by
  simp [get?_insert]

theorem get?_insert_of_ne (m : OrderedMap α β) (key k : α) (value : β) (h : key ≠ k) :
    (m.insert key value).get? k = m.get? k := by
  simp [get?_insert, h]

theorem contains_insert (m : OrderedMap α β) (key k : α) (value : β) :
    (m.insert key value).contains k = true ↔ key = k ∨ m.contains k = true := by
  unfold contains
  rw [get?_insert]
  by_cases h : key = k <;> simp [h]

theorem isSome_find_iff (l : List (α × β)) (key : α) :
    (find l key).isSome = true ↔ key ∈ l.map (·.1) := by
  induction l with
  | nil => simp [find]
  | cons p rest ih =>
    obtain ⟨k, v⟩ := p
    by_cases h : k = key
    · simp [find, h]
    · simp [find, h, ih, Ne.symm h]

theorem contains_iff_mem_keys (m : OrderedMap α β) (key : α) :
    m.contains key = true ↔ key ∈ m.keys := isSome_find_iff m.toList key

theorem map_fst_put (l : List (α × β)) (key : α) (value : β) :
    (put key value l).map (·.1) =
      if key ∈ l.map (·.1) then l.map (·.1) else l.map (·.1) ++ [key] := by
  induction l with
  | nil => rfl
  | cons p rest ih =>
    obtain ⟨q, v⟩ := p
    by_cases h : q = key
    · simp [put, h]
    · rw [put, if_neg h, List.map_cons, List.map_cons, ih]
      by_cases hkey : key ∈ rest.map (·.1)
      · rw [if_pos hkey, if_pos (List.mem_cons_of_mem q hkey)]
      · have hcons : key ∉ q :: rest.map (·.1) := by simpa [Ne.symm h] using hkey
        rw [if_neg hkey, if_neg hcons, List.cons_append]

theorem put_of_find (l : List (α × β)) (key : α) (value : β) (h : find l key = some value) :
    put key value l = l := by
  induction l with
  | nil => cases h
  | cons p rest ih =>
    obtain ⟨q, v⟩ := p
    by_cases hq : q = key
    · rw [find, if_pos hq] at h
      cases h
      rw [put, if_pos hq]
    · rw [find, if_neg hq] at h
      rw [put, if_neg hq, ih h]

/-- Writing the value that is there changes nothing. -/
theorem insert_of_get? (m : OrderedMap α β) (key : α) (value : β) (h : m.get? key = some value) :
    m.insert key value = m := by
  unfold insert
  rw [put_of_find m.toList key value h]

theorem put_of_not_mem (l : List (α × β)) (key : α) (value : β) (h : key ∉ l.map (·.1)) :
    put key value l = l ++ [(key, value)] := by
  induction l with
  | nil => rfl
  | cons p rest ih =>
    rw [List.map_cons, List.mem_cons, not_or] at h
    rw [put, if_neg (Ne.symm h.1), ih h.2, List.cons_append]

/-- A key that is there stays in its place, and one that is not comes last. -/
theorem keys_insert (m : OrderedMap α β) (key : α) (value : β) :
    (m.insert key value).keys = if key ∈ m.keys then m.keys else m.keys ++ [key] :=
  map_fst_put m.toList key value

theorem keys_insert_of_get? (m : OrderedMap α β) (key : α) (old value : β)
    (h : m.get? key = some old) : (m.insert key value).keys = m.keys := by
  have hmem : key ∈ m.keys := List.mem_map_of_mem (mem_of_find m.toList key old h)
  rw [keys_insert, if_pos hmem]

theorem nodup_keys_insert (m : OrderedMap α β) (key : α) (value : β) (h : m.keys.Nodup) :
    (m.insert key value).keys.Nodup := by
  rw [keys_insert]
  split
  · exact h
  · rename_i hkey
    rw [List.nodup_append]
    refine ⟨h, by simp, ?_⟩
    intro k hk last hlast heq
    rw [List.mem_singleton.mp hlast] at heq
    exact hkey (heq ▸ hk)

theorem get?_insertNew (m : OrderedMap α β) (key k : α) (value : β) :
    (m.insertNew key value).get? k = if key = k then some ((m.get? k).getD value) else m.get? k := by
  unfold insertNew contains
  cases hm : m.get? key with
  | some v =>
    by_cases h : key = k
    · subst h
      simp [hm]
    · simp [h]
  | none =>
    by_cases h : key = k
    · subst h
      simp [hm, get?_insert]
    · simp [h, get?_insert]

theorem toList_insertNew (m : OrderedMap α β) (key : α) (value : β) :
    (m.insertNew key value).toList =
      if key ∈ m.keys then m.toList else m.toList ++ [(key, value)] := by
  unfold insertNew
  by_cases hkey : key ∈ m.keys
  · rw [if_pos ((m.contains_iff_mem_keys key).mpr hkey), if_pos hkey]
  · rw [if_neg (mt (m.contains_iff_mem_keys key).mp hkey), if_neg hkey]
    exact put_of_not_mem m.toList key value hkey

theorem find_filter (l : List (α × β)) (key k : α) :
    find (l.filter (·.1 ≠ key)) k = if key = k then none else find l k := by
  induction l with
  | nil => simp [find]
  | cons p rest ih =>
    obtain ⟨q, v⟩ := p
    by_cases h : q = key
    · subst h
      by_cases hk : q = k
      · simpa [hk] using ih
      · simpa [find, hk] using ih
    · by_cases hk : q = k
      · subst hk
        simp [find, h, Ne.symm h]
      · simp only [ne_eq, decide_not] at ih
        simp [find, h, hk, ih]

theorem get?_erase (m : OrderedMap α β) (key k : α) :
    (m.erase key).get? k = if key = k then none else m.get? k := find_filter m.toList key k

end OrderedMap
end Crosswalk

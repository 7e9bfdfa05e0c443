import Crosswalk.Files.Tree

/-! Where paths lead. A path whose last name is no step back leads where its directory has an entry of
that name, unless it is too long; and whatever leads somewhere has a directory before its last name. The
descendants of a node are the names that lead somewhere below it. -/

namespace Crosswalk

/-! Steps that succeed -/

section

variable {ε α β : Type}

theorem exists_of_bind_ok (x : Except ε α) (f : α → Except ε β) (b : β) (h : x >>= f = .ok b) :
    ∃ a, x = .ok a ∧ f a = .ok b := by
  cases x with
  | error e => cases h
  | ok a => exact ⟨a, rfl, h⟩

theorem exists_of_isOk (x : Except ε α) (h : x.isOk = true) : ∃ a, x = .ok a := by
  cases x with
  | error e => cases h
  | ok a => exact ⟨a, rfl⟩

theorem exists_of_map_ok (x : Except ε α) (f : α → β) (b : β) (h : x.map f = .ok b) :
    ∃ a, x = .ok a ∧ f a = b := by
  cases x with
  | error e => cases h
  | ok a => exact ⟨a, rfl, Except.ok.inj h⟩

theorem exists_of_mapM_cons (f : α → Except ε β) (a : α) (rest : List α) (l : List β)
    (h : (a :: rest).mapM f = .ok l) :
    ∃ b others, f a = .ok b ∧ rest.mapM f = .ok others ∧ l = b :: others := by
  rw [List.mapM_cons] at h
  obtain ⟨b, hb, h⟩ := exists_of_bind_ok _ _ _ h
  obtain ⟨others, hothers, h⟩ := exists_of_bind_ok _ _ _ h
  cases h
  exact ⟨b, others, hb, hothers, rfl⟩

theorem exists_of_mem_mapM (f : α → Except ε β) (items : List α) (l : List β)
    (h : items.mapM f = .ok l) (b : β) (hb : b ∈ l) : ∃ a ∈ items, f a = .ok b := by
  induction items generalizing l with
  | nil =>
    cases h
    cases hb
  | cons a rest ih =>
    obtain ⟨first, others, hfirst, hothers, rfl⟩ := exists_of_mapM_cons f a rest l h
    rcases List.mem_cons.mp hb with rfl | hb
    · exact ⟨a, List.mem_cons_self, hfirst⟩
    · obtain ⟨c, hc, hcb⟩ := ih others hothers hb
      exact ⟨c, List.mem_cons_of_mem a hc, hcb⟩

end

namespace Files

/-! Names below a node -/

theorem at?_append (names rest : List String) (n : Node) :
    Node.at? (names ++ rest) n = (Node.at? names n).bind (Node.at? rest) := by
  induction names generalizing n with
  | nil => rfl
  | cons name names ih =>
    simp only [List.cons_append, Node.at?, Option.bind_assoc]
    cases n.entry? name with
    | none => rfl
    | some m => exact ih m

theorem at?_singleton (name : String) (n : Node) : Node.at? [name] n = n.entry? name := by
  simp [Node.at?]

mutual

/-- No directory has two entries of one name. -/
def Node.Distinct : Node → Prop
  | .file _ => True
  | .directory entries => (entries.map (·.1)).Nodup ∧ Node.EntriesDistinct entries

def Node.EntriesDistinct : List (String × Node) → Prop
  | [] => True
  | (_, n) :: rest => n.Distinct ∧ Node.EntriesDistinct rest

end

theorem distinct_of_entry? (n m : Node) (name : String) (h : n.Distinct)
    (hm : n.entry? name = some m) : m.Distinct := by
  cases n with
  | file bytes => cases hm
  | directory entries =>
    have hentries := h.2
    unfold Node.entry? Node.entries at hm
    clear h
    induction entries with
    | nil => cases hm
    | cons e rest ih =>
      obtain ⟨k, d⟩ := e
      rw [List.lookup_cons] at hm
      split at hm
      · cases hm
        exact hentries.1
      · exact ih hm hentries.2

mutual

/-- The descendants of a node are the names that lead somewhere below it. -/
theorem Node.mem_descendants (n : Node) (h : n.Distinct) (names : List String) :
    names ∈ n.descendants ↔ names ≠ [] ∧ (Node.at? names n).isSome = true := by
  match n with
  | .file bytes => cases names <;> simp [Node.descendants, Node.at?, Node.entry?, Node.entries]
  | .directory entries =>
    rw [Node.descendants, Node.mem_entryDescendants entries h.1 h.2]
    constructor
    · rintro ⟨name, rest, m, rfl, hm, hrest⟩
      exact ⟨List.cons_ne_nil _ _, by simpa [Node.at?, Node.entry?, Node.entries, hm] using hrest⟩
    · rintro ⟨hne, hsome⟩
      obtain ⟨name, rest, rfl⟩ := List.exists_cons_of_ne_nil hne
      unfold Node.at? Node.entry? Node.entries at hsome
      cases hm : entries.lookup name with
      | none => simp [hm] at hsome
      | some m => exact ⟨name, rest, m, rfl, hm, by simpa [hm] using hsome⟩

theorem Node.mem_entryDescendants (entries : List (String × Node))
    (hnodup : (entries.map (·.1)).Nodup) (h : Node.EntriesDistinct entries) (names : List String) :
    names ∈ Node.entryDescendants entries ↔
      ∃ name rest m, names = name :: rest ∧ entries.lookup name = some m ∧
        (Node.at? rest m).isSome = true := by
  match entries with
  | [] => simp [Node.entryDescendants]
  | (k, n) :: tail =>
    obtain ⟨hk, htail⟩ := List.nodup_cons.mp hnodup
    have ihNode := Node.mem_descendants n h.1
    have ihTail := Node.mem_entryDescendants tail htail h.2 names
    rw [Node.entryDescendants, List.mem_append, List.mem_cons, List.mem_map, ihTail]
    constructor
    · rintro ((rfl | ⟨rest, hrest, rfl⟩) | ⟨name, rest, m, rfl, hm, hrest⟩)
      · exact ⟨k, [], n, rfl, List.lookup_cons_self, rfl⟩
      · exact ⟨k, rest, n, rfl, List.lookup_cons_self, ((ihNode rest).mp hrest).2⟩
      · have hname : (name == k) = false := by
          rw [beq_eq_false_iff_ne]
          rintro rfl
          obtain ⟨before, after, rfl, -⟩ := List.lookup_eq_some_iff.mp hm
          simp at hk
        exact ⟨name, rest, m, rfl, by rw [List.lookup_cons, hname]; exact hm, hrest⟩
    · rintro ⟨name, rest, m, rfl, hm, hrest⟩
      rw [List.lookup_cons] at hm
      by_cases hname : name = k
      · subst hname
        rw [beq_self_eq_true] at hm
        cases hm
        cases rest with
        | nil => exact .inl (.inl rfl)
        | cons r rs => exact .inl (.inr ⟨r :: rs, (ihNode _).mpr ⟨List.cons_ne_nil _ _, hrest⟩, rfl⟩)
      · rw [beq_eq_false_iff_ne.mpr hname] at hm
        exact .inr ⟨name, rest, m, rfl, hm, hrest⟩

end

/-! Steps of a look-up -/

/-- A look-up that leads somewhere goes on from there. -/
theorem walk_append (n : Node) (above : List Node) (names : List String) (m : Node)
    (h : walk n above names = .ok m) :
    ∃ others, ∀ rest, walk n above (names ++ rest) = walk m others rest := by
  fun_induction walk n above names with
  | case1 n above =>
    cases h
    exact ⟨above, fun rest => rfl⟩
  | case2 | case4 | case6 => cases h
  | case3 n above names hfile ih =>
    obtain ⟨others, hrest⟩ := ih h
    refine ⟨others, fun rest => ?_⟩
    rw [List.cons_append, walk, if_neg hfile, if_pos rfl]
    exact hrest rest
  | case5 n above name names hfile hup hlong next hnext ih =>
    obtain ⟨others, hrest⟩ := ih h
    refine ⟨others, fun rest => ?_⟩
    rw [List.cons_append, walk, if_neg hfile, if_neg hup, if_neg hlong, hnext]
    exact hrest rest

theorem ok_of_walk_append (n : Node) (above : List Node) (names rest : List String) (m : Node)
    (h : walk n above (names ++ rest) = .ok m) : ∃ before, walk n above names = .ok before := by
  fun_induction walk n above names with
  | case1 => exact ⟨_, rfl⟩
  | case2 n above name names hfile =>
    rw [List.cons_append, walk, if_pos hfile] at h
    cases h
  | case3 n above names hfile ih =>
    rw [List.cons_append, walk, if_neg hfile, if_pos rfl] at h
    exact ih h
  | case4 n above name names hfile hup hlong =>
    rw [List.cons_append, walk, if_neg hfile, if_neg hup, if_pos hlong] at h
    cases h
  | case5 n above name names hfile hup hlong next hnext ih =>
    rw [List.cons_append, walk, if_neg hfile, if_neg hup, if_neg hlong, hnext] at h
    exact ih h
  | case6 n above name names hfile hup hlong hnext =>
    rw [List.cons_append, walk, if_neg hfile, if_neg hup, if_neg hlong, hnext] at h
    cases h

/-- A path goes on where its beginning leads. -/
theorem names_child (files : System) (p : Path) (name : String) :
    files.names (p.child name) = files.names p ++ [name] := by
  unfold System.names Path.child
  by_cases h : p.anchor = "" <;> simp [h]

/-- Whether a path is too long to be looked up below a directory. -/
def Path.TooLong (p : Path) : Prop :=
  pathLimit < p.toString.utf8ByteSize ∨ nameLimit < p.name.utf8ByteSize

instance (p : Path) : Decidable p.TooLong := inferInstanceAs (Decidable (_ ∨ _))

theorem tooLong_child (p : Path) (name : String) :
    (p.child name).TooLong ↔
      pathLimit < (p.child name).toString.utf8ByteSize ∨ nameLimit < name.utf8ByteSize := by
  have hname : (p.child name).name = name := by simp [Path.name, Path.child]
  unfold Path.TooLong
  rw [hname]

theorem walk_singleton (n : Node) (above : List Node) (name : String) (hup : name ≠ "..")
    (hdir : n.isDirectory = true) :
    walk n above [name] =
      if nameLimit < name.utf8ByteSize then .error .nameTooLong
      else match n.entry? name with
        | some m => .ok m
        | none => .error .notFound := by
  have hopen : ¬ n.isFile = true := by simpa [Node.isDirectory] using hdir
  rw [walk, if_neg hopen, if_neg hup]
  by_cases hlong : nameLimit < name.utf8ByteSize
  · rw [if_pos hlong, if_pos hlong]
  · rw [if_neg hlong, if_neg hlong]
    cases n.entry? name <;> rfl

/-- One step from a directory. -/
theorem locate_child (files : System) (p : Path) (name : String) (n : Node)
    (hplace : locate files p = .ok n) (hdir : n.isDirectory = true) (hup : name ≠ "..") :
    locate files (p.child name) =
      if (p.child name).TooLong then .error .nameTooLong
      else match n.entry? name with
        | some m => .ok m
        | none => .error .notFound := by
  unfold locate at hplace ⊢
  split at hplace
  · cases hplace
  obtain ⟨above, hrest⟩ := walk_append _ _ _ _ hplace
  rw [names_child, hrest [name], walk_singleton n above name hup hdir]
  by_cases hpath : pathLimit < (p.child name).toString.utf8ByteSize
  · rw [if_pos hpath, if_pos ((tooLong_child p name).mpr (.inl hpath))]
  · rw [if_neg hpath]
    by_cases hname : nameLimit < name.utf8ByteSize
    · rw [if_pos hname, if_pos ((tooLong_child p name).mpr (.inr hname))]
    · rw [if_neg hname, if_neg (fun h => ((tooLong_child p name).mp h).elim hpath hname)]

/-- The text before the last name of a path. -/
def Path.lead (p : Path) : String :=
  if p.parts.isEmpty then p.anchor else p.anchor ++ "/".intercalate p.parts ++ "/"

theorem toString_child (p : Path) (name : String) : (p.child name).toString = p.lead ++ name := by
  unfold Path.toString Path.child Path.lead
  cases hparts : p.parts with
  | nil => simp
  | cons first rest =>
    rw [String.intercalate_append_of_ne_nil (List.cons_ne_nil _ _) (List.cons_ne_nil _ _)]
    simp [String.append_assoc]

/-- A path that is short enough is still so without its last name. -/
theorem short_of_child (p : Path) (name : String)
    (h : ¬ pathLimit < (p.child name).toString.utf8ByteSize) :
    ¬ pathLimit < p.toString.utf8ByteSize := by
  rw [toString_child] at h
  unfold Path.lead at h
  unfold Path.toString
  cases hparts : p.parts with
  | nil =>
    rw [hparts] at h
    by_cases hanchor : p.anchor = ""
    · simp only [hanchor, List.isEmpty_nil, and_self, if_true, pathLimit]
      decide
    · simp [hanchor] at h ⊢
      omega
  | cons first rest =>
    rw [hparts] at h
    simp at h ⊢
    omega

/-- A longer name makes a longer path. -/
theorem tooLong_child_append (p : Path) (name ending : String) (h : (p.child name).TooLong) :
    (p.child (name ++ ending)).TooLong := by
  rw [tooLong_child, toString_child] at h ⊢
  simp only [String.utf8ByteSize_append] at h ⊢
  omega

/-- What leads somewhere has a directory before its last name. -/
theorem directory_of_locate_child (files : System) (p : Path) (name : String) (n : Node)
    (h : locate files (p.child name) = .ok n) :
    ∃ before, locate files p = .ok before ∧ before.isDirectory = true := by
  unfold locate at h ⊢
  split at h
  · cases h
  rename_i hshort
  rw [names_child] at h
  rw [if_neg (short_of_child p name hshort)]
  obtain ⟨before, hbefore⟩ := ok_of_walk_append _ _ _ [name] n h
  refine ⟨before, hbefore, ?_⟩
  obtain ⟨above, hrest⟩ := walk_append _ _ _ _ hbefore
  rw [hrest [name]] at h
  unfold walk at h
  split at h
  · cases h
  · rename_i hfile
    simpa [Node.isDirectory] using hfile

theorem distinct_of_walk (n : Node) (above : List Node) (names : List String) (m : Node)
    (hn : n.Distinct) (habove : ∀ d ∈ above, d.Distinct) (h : walk n above names = .ok m) :
    m.Distinct := by
  fun_induction walk n above names with
  | case1 =>
    cases h
    exact hn
  | case2 | case4 | case6 => cases h
  | case3 n above names hfile ih =>
    refine ih ?_ (fun d hd => habove d (List.mem_of_mem_tail hd)) h
    cases above with
    | nil => exact hn
    | cons d rest => exact habove d List.mem_cons_self
  | case5 n above name names hfile hup hlong next hnext ih =>
    have hdistinct := distinct_of_entry? n next name hn hnext
    refine ih hdistinct (fun d hd => ?_) h
    rcases List.mem_cons.mp hd with rfl | hd
    · exact hn
    · exact habove d hd

theorem distinct_of_locate (files : System) (p : Path) (n : Node) (hfiles : files.root.Distinct)
    (h : locate files p = .ok n) : n.Distinct := by
  unfold locate at h
  split at h
  · cases h
  · exact distinct_of_walk _ _ _ n hfiles (fun d hd => absurd hd List.not_mem_nil) h

/-! Questions -/

theorem isDirectory?_eq_true_iff (files : System) (p : Path) :
    isDirectory? files p = .ok true ↔
      hasNull p = false ∧ ∃ n, locate files p = .ok n ∧ n.isDirectory = true := by
  unfold isDirectory? node?
  cases hasNull p with
  | true => simp [Except.map]
  | false =>
    simp only [Bool.false_eq_true, if_false, true_and]
    cases locate files p with
    | error e => cases e <;> simp [Except.map]
    | ok n => simp [Except.map]

theorem isFile?_eq_true_iff (files : System) (p : Path) :
    isFile? files p = .ok true ↔
      hasNull p = false ∧ ∃ bytes, locate files p = .ok (.file bytes) := by
  unfold isFile? node?
  cases hasNull p with
  | true => simp [Except.map]
  | false =>
    simp only [Bool.false_eq_true, if_false, true_and]
    cases locate files p with
    | error e => cases e <;> simp [Except.map]
    | ok n => cases n <;> simp [Except.map, Node.isFile]

/-- Only a null character keeps a path from being read, or from an error of the file system. -/
theorem exists_read (files : System) (p : Path) (hnull : hasNull p = false) :
    ∃ found, read files p = .ok found := by
  unfold read
  rw [hnull, if_neg Bool.false_ne_true]
  split <;> exact ⟨_, rfl⟩

theorem isFile?_of_isDirectory? (files : System) (p : Path) (h : isDirectory? files p = .ok true) :
    isFile? files p = .ok false := by
  obtain ⟨hnull, n, hn, hdir⟩ := (isDirectory?_eq_true_iff files p).mp h
  unfold isFile? node?
  rw [hnull, hn]
  simpa [Except.map, Node.isDirectory] using hdir

theorem isDirectory?_of_isFile? (files : System) (p : Path) (h : isFile? files p = .ok true) :
    isDirectory? files p = .ok false := by
  obtain ⟨hnull, bytes, hplace⟩ := (isFile?_eq_true_iff files p).mp h
  unfold isDirectory? node?
  rw [hnull, hplace]
  rfl

theorem hasNull_child (p : Path) (name : String) :
    hasNull (p.child name) = false ↔ hasNull p = false ∧ '\x00' ∉ name.toList := by
  simp [hasNull, Path.child]

/-- What is there below a directory, if its path is not too long. -/
theorem node?_child (files : System) (p : Path) (name : String)
    (hdir : isDirectory? files p = .ok true) (hup : name ≠ "..") (hnull : '\x00' ∉ name.toList) :
    ∃ entry : Option Node, node? files (p.child name) =
      if (p.child name).TooLong then .error .nameTooLong else .ok entry := by
  obtain ⟨hnullp, place, hplace, hplacedir⟩ := (isDirectory?_eq_true_iff files p).mp hdir
  refine ⟨place.entry? name, ?_⟩
  unfold node?
  rw [(hasNull_child p name).mpr ⟨hnullp, hnull⟩, if_neg Bool.false_ne_true,
    locate_child files p name place hplace hplacedir hup]
  by_cases hlong : (p.child name).TooLong
  · rw [if_pos hlong, if_pos hlong]
  · rw [if_neg hlong, if_neg hlong]
    cases place.entry? name <;> rfl

/-- The questions about what is below a directory have an answer if its path is not too long. -/
theorem questions_child (files : System) (p : Path) (name : String)
    (hdir : isDirectory? files p = .ok true) (hup : name ≠ "..") (hnull : '\x00' ∉ name.toList) :
    ((p.child name).TooLong → isDirectory? files (p.child name) = .error .nameTooLong ∧
      isFile? files (p.child name) = .error .nameTooLong) ∧
    (¬ (p.child name).TooLong → (∃ b, isDirectory? files (p.child name) = .ok b) ∧
      ∃ b, isFile? files (p.child name) = .ok b) := by
  obtain ⟨entry, hplace⟩ := node?_child files p name hdir hup hnull
  unfold isDirectory? isFile?
  rw [hplace]
  constructor
  · intro hlong
    rw [if_pos hlong]
    exact ⟨rfl, rfl⟩
  · intro hlong
    rw [if_neg hlong]
    exact ⟨⟨_, rfl⟩, ⟨_, rfl⟩⟩

end Files
end Crosswalk

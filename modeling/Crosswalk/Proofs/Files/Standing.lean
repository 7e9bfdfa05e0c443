import Crosswalk.Proofs.Registry.Units

/-! What stands at names below a directory: a file with its bytes, a directory, or nothing. All that is
asked of a path below a directory is told by that and by the length of the path, and writing or deleting a
file changes it at the name of the file only. -/

namespace Crosswalk.Files

open Registry (under under_nil under_append)

inductive Standing
  | nothing
  | directory
  | file (bytes : List UInt8)
  deriving DecidableEq

def Standing.of : Option Node → Standing
  | none => nothing
  | some (.directory _) => directory
  | some (.file bytes) => file bytes

def Standing.isFile : Standing → Bool
  | file _ => true
  | nothing | directory => false

/-- What stands at names from a node. -/
def Node.standing (n : Node) (names : List String) : Standing := .of (n.at? names)

/-- The tree that a path leads to. -/
def treeAt (files : System) (root : Path) : Node :=
  match locate files root with
  | .ok place => place
  | .error _ => .emptyDirectory

theorem standing_ne_nothing_iff (n : Node) (names : List String) :
    n.standing names ≠ .nothing ↔ (n.at? names).isSome = true := by
  unfold Node.standing Standing.of
  cases n.at? names with
  | none => simp
  | some m => cases m <;> simp

theorem of_eq_directory_iff (m : Node) : Standing.of (some m) = .directory ↔ m.isDirectory = true := by
  cases m <;> simp [Standing.of, Node.isDirectory, Node.isFile]

/-! One name below a directory -/

section

variable (files : System) (root : Path) (names : List String) (name : String)

theorem treeAt_eq (top : Node) (htop : locate files root = .ok top) : treeAt files root = top := by
  unfold treeAt
  rw [htop]

variable (hroot : isDirectory? files root = .ok true) (hnames : ∀ s ∈ names, s ≠ "..")
  (hdir : isDirectory? files (under root names) = .ok true) (hup : name ≠ "..")

include hroot hnames hdir hup

/-- Where a name below a directory leads. -/
theorem locate_below :
    locate files (under root (names ++ [name])) =
      if (under root (names ++ [name])).TooLong then .error .nameTooLong
      else match (treeAt files root).at? (names ++ [name]) with
        | some m => .ok m
        | none => .error .notFound := by
  obtain ⟨-, top, htop, -⟩ := (isDirectory?_eq_true_iff files root).mp hroot
  obtain ⟨-, place, hplace, hplacedir⟩ := (isDirectory?_eq_true_iff files _).mp hdir
  have hat := Registry.at?_of_locate files root top htop names hnames place hplace
  rw [treeAt_eq files root top htop, at?_append, hat, Option.bind_some, at?_singleton, under_append]
  exact locate_child files _ name place hplace hplacedir hup

variable (hnull : hasNull (under root (names ++ [name])) = false)

include hnull

theorem isDirectory?_below :
    isDirectory? files (under root (names ++ [name])) =
      if (under root (names ++ [name])).TooLong then .error .nameTooLong
      else .ok (decide ((treeAt files root).standing (names ++ [name]) = .directory)) := by
  unfold isDirectory? node?
  rw [hnull, if_neg Bool.false_ne_true, locate_below files root names name hroot hnames hdir hup]
  by_cases hlong : (under root (names ++ [name])).TooLong
  · rw [if_pos hlong, if_pos hlong]
    rfl
  · rw [if_neg hlong, if_neg hlong]
    unfold Node.standing
    cases (treeAt files root).at? (names ++ [name]) with
    | none => rfl
    | some m => cases m <;> rfl

theorem isFile?_below :
    isFile? files (under root (names ++ [name])) =
      if (under root (names ++ [name])).TooLong then .error .nameTooLong
      else .ok ((treeAt files root).standing (names ++ [name])).isFile := by
  unfold isFile? node?
  rw [hnull, if_neg Bool.false_ne_true, locate_below files root names name hroot hnames hdir hup]
  by_cases hlong : (under root (names ++ [name])).TooLong
  · rw [if_pos hlong, if_pos hlong]
    rfl
  · rw [if_neg hlong, if_neg hlong]
    unfold Node.standing
    cases (treeAt files root).at? (names ++ [name]) with
    | none => rfl
    | some m => cases m <;> rfl

theorem read_below :
    read files (under root (names ++ [name])) = .ok (
      if (under root (names ++ [name])).TooLong then .error .nameTooLong
      else match (treeAt files root).standing (names ++ [name]) with
        | .nothing => .error .notFound
        | .directory => .error .isDirectory
        | .file bytes => .ok bytes) := by
  unfold read
  rw [hnull, if_neg Bool.false_ne_true, locate_below files root names name hroot hnames hdir hup]
  by_cases hlong : (under root (names ++ [name])).TooLong
  · rw [if_pos hlong, if_pos hlong]
  · rw [if_neg hlong, if_neg hlong]
    unfold Node.standing
    cases (treeAt files root).at? (names ++ [name]) with
    | none => rfl
    | some m => cases m <;> rfl

end

/-! Names that lead somewhere -/

/-- Whether a path below a root is too long as a whole, or has too long a name. -/
def LongBelow (root : Path) (names : List String) : Prop :=
  pathLimit < (under root names).toString.utf8ByteSize ∨ ∃ s ∈ names, nameLimit < s.utf8ByteSize

instance (root : Path) (names : List String) : Decidable (LongBelow root names) :=
  inferInstanceAs (Decidable (_ ∨ _))

theorem walk_of_at? (top : Node) (above : List Node) (names : List String) (hne : names ≠ [])
    (hup : ∀ s ∈ names, s ≠ "..") (n : Node) (h : top.at? names = some n) :
    walk top above names =
      if ∃ s ∈ names, nameLimit < s.utf8ByteSize then .error .nameTooLong else .ok n := by
  induction names generalizing top above with
  | nil => exact absurd rfl hne
  | cons name rest ih =>
    obtain ⟨m, hentry, hrest⟩ := Option.bind_eq_some_iff.mp h
    have hname := hup name List.mem_cons_self
    have hopen : ¬ top.isFile = true := by
      cases top with
      | file bytes => cases hentry
      | directory entries => exact Bool.false_ne_true
    rw [walk, if_neg hopen, if_neg hname]
    by_cases hlong : nameLimit < name.utf8ByteSize
    · rw [if_pos hlong, if_pos ⟨name, List.mem_cons_self, hlong⟩]
    rw [if_neg hlong, hentry]
    dsimp only
    have hsame : (∃ s ∈ name :: rest, nameLimit < s.utf8ByteSize) ↔
        ∃ s ∈ rest, nameLimit < s.utf8ByteSize := by simp [hlong]
    rw [if_congr hsame rfl rfl]
    cases rest with
    | nil =>
      cases hrest
      rw [if_neg (by simp)]
      rfl
    | cons next rest =>
      exact ih m (top :: above) (List.cons_ne_nil _ _)
        (fun s hs => hup s (List.mem_cons_of_mem name hs)) hrest

theorem names_under (files : System) (root : Path) (names : List String) :
    files.names (under root names) = files.names root ++ names := by
  unfold System.names under
  by_cases h : root.anchor = "" <;> simp [h]

/-- What stands somewhere is found by its path, unless that is too long. -/
theorem locate_of_at? (files : System) (root : Path) (top : Node) (htop : locate files root = .ok top)
    (names : List String) (hne : names ≠ []) (hup : ∀ s ∈ names, s ≠ "..") (n : Node)
    (h : top.at? names = some n) :
    locate files (under root names) =
      if LongBelow root names then .error .nameTooLong else .ok n := by
  unfold LongBelow
  unfold locate at htop ⊢
  split at htop
  · cases htop
  obtain ⟨above, hrest⟩ := walk_append _ _ _ _ htop
  rw [names_under, hrest names, walk_of_at? top above names hne hup n h]
  by_cases hpath : pathLimit < (under root names).toString.utf8ByteSize
  · simp [hpath]
  · simp [hpath]

/-- What is read of names that lead somewhere is told by what stands there. -/
theorem read_of_standing (files files' : System) (root : Path)
    (hroot : isDirectory? files root = .ok true) (hroot' : isDirectory? files' root = .ok true)
    (names : List String) (hne : names ≠ []) (hup : ∀ s ∈ names, s ≠ "..")
    (hsome : (treeAt files root).standing names ≠ .nothing)
    (hsame : (treeAt files root).standing names = (treeAt files' root).standing names) :
    read files (under root names) = read files' (under root names) := by
  obtain ⟨-, top, htop, -⟩ := (isDirectory?_eq_true_iff files root).mp hroot
  obtain ⟨-, top', htop', -⟩ := (isDirectory?_eq_true_iff files' root).mp hroot'
  rw [treeAt_eq files root top htop] at hsome hsame
  rw [treeAt_eq files' root top' htop'] at hsame
  obtain ⟨n, hn⟩ := Option.isSome_iff_exists.mp ((standing_ne_nothing_iff _ _).mp hsome)
  obtain ⟨n', hn'⟩ := Option.isSome_iff_exists.mp ((standing_ne_nothing_iff _ _).mp (hsame ▸ hsome))
  unfold read
  rw [locate_of_at? files root top htop names hne hup n hn,
    locate_of_at? files' root top' htop' names hne hup n' hn']
  unfold Node.standing at hsame
  rw [hn, hn'] at hsame
  by_cases hlong : LongBelow root names
  · rw [if_pos hlong, if_pos hlong]
  · rw [if_neg hlong, if_neg hlong]
    cases n <;> cases n' <;> cases hsame <;> rfl

/-! Files written and deleted -/

theorem lookup_cons_eq (key k : String) (n : Node) (rest : List (String × Node)) :
    ((k, n) :: rest).lookup key = if key = k then some n else rest.lookup key := by
  rw [List.lookup_cons]
  by_cases h : key = k
  · rw [if_pos h, beq_iff_eq.mpr h]
  · rw [if_neg h, beq_eq_false_iff_ne.mpr h]

theorem lookup_putEntry (name key : String) (n : Node) (entries : List (String × Node)) :
    (Node.putEntry name n entries).lookup key =
      if key = name then some n else entries.lookup key := by
  induction entries with
  | nil => exact lookup_cons_eq key name n []
  | cons e rest ih =>
    obtain ⟨k, old⟩ := e
    unfold Node.putEntry
    by_cases hk : k = name
    · subst hk
      rw [if_pos rfl, lookup_cons_eq, lookup_cons_eq]
      by_cases h : key = k <;> simp [h]
    · rw [if_neg hk, lookup_cons_eq, lookup_cons_eq, ih]
      by_cases h : key = name
      · subst h
        rw [if_neg (Ne.symm hk), if_pos rfl, if_pos rfl]
      · rw [if_neg h, if_neg h]

theorem lookup_filter_ne (name key : String) (entries : List (String × Node)) :
    (entries.filter fun e => e.1 ≠ name).lookup key =
      if key = name then none else entries.lookup key := by
  induction entries with
  | nil => simp
  | cons e rest ih =>
    obtain ⟨k, n⟩ := e
    rw [lookup_cons_eq]
    by_cases hk : k = name
    · subst hk
      rw [List.filter_cons_of_neg (by simp), ih]
      by_cases h : key = k <;> simp [h]
    · rw [List.filter_cons_of_pos (by simp [hk]), lookup_cons_eq, ih]
      by_cases h : key = name
      · subst h
        rw [if_neg (Ne.symm hk)]
        simp
      · rw [if_neg h, if_neg h]

theorem standing_nil_of_isDirectory (n : Node) (h : n.isDirectory = true) :
    n.standing [] = .directory :=
  (of_eq_directory_iff n).mpr h

theorem standing_cons (n : Node) (name : String) (rest : List String) :
    n.standing (name :: rest) = .of ((n.entry? name).bind (Node.at? rest)) := rfl

theorem standing_cons_of_lookup (n m : Node) (name : String) (rest : List String)
    (h : n.entry? name = some m) : n.standing (name :: rest) = m.standing rest := by
  rw [standing_cons, h]
  rfl

theorem standing_putEntry (name : String) (n : Node) (entries : List (String × Node))
    (rest : List String) :
    (Node.directory (Node.putEntry name n entries)).standing (name :: rest) = n.standing rest := by
  refine standing_cons_of_lookup _ n name rest ?_
  rw [Node.entry?, Node.entries, lookup_putEntry, if_pos rfl]

/-- Nothing stands below what has no entries. -/
theorem standing_of_entries_eq_nil (n : Node) (h : n.entries = []) (rest : List String)
    (hrest : rest ≠ []) : n.standing rest = .nothing := by
  cases rest with
  | nil => exact absurd rfl hrest
  | cons key rest =>
    rw [standing_cons, Node.entry?, h]
    rfl

/-- Nothing stands below what is no directory. -/
theorem standing_append_of_ne_directory (n : Node) (names rest : List String) (hrest : rest ≠ [])
    (h : n.standing names ≠ .directory) : n.standing (names ++ rest) = .nothing := by
  unfold Node.standing at h ⊢
  rw [at?_append]
  cases hat : n.at? names with
  | none => rfl
  | some m =>
    rw [hat] at h
    cases m with
    | directory entries => exact absurd rfl h
    | file bytes => exact standing_of_entries_eq_nil (.file bytes) rfl rest hrest

theorem isDirectory_of_lookup (n m : Node) (name : String) (h : n.entry? name = some m) :
    n.isDirectory = true := by
  cases n with
  | directory entries => rfl
  | file bytes => cases h

theorem exists_entry (n : Node) (name : String) (rest : List String)
    (h : n.standing (name :: rest) = .directory) : ∃ m, n.entry? name = some m := by
  cases hentry : n.entry? name with
  | some m => exact ⟨m, rfl⟩
  | none =>
    rw [standing_cons, hentry] at h
    cases h

/-- A directory with other entries of one name only. -/
theorem standing_of_lookup (n : Node) (entries : List (String × Node)) (name : String)
    (names : List String) (hn : n.isDirectory = true)
    (hothers : ∀ key, key ≠ name → entries.lookup key = n.entry? key)
    (hname : ∀ rest, name :: rest ≠ names →
      (Node.directory entries).standing (name :: rest) = n.standing (name :: rest))
    (other : List String) (hother : other ≠ names) :
    (Node.directory entries).standing other = n.standing other := by
  cases other with
  | nil => exact (standing_nil_of_isDirectory n hn).symm
  | cons key rest =>
    by_cases hkey : key = name
    · subst hkey
      exact hname rest hother
    · rw [standing_cons, standing_cons]
      exact congrArg (fun m => Standing.of (m.bind (Node.at? rest))) (hothers key hkey)

/-- Where something can be put or deleted: in a directory, and at no directory. -/
structure Node.Open (n : Node) (names : List String) : Prop where
  ne_nil : names ≠ []
  inside : n.standing names.dropLast = .directory
  outside : n.standing names ≠ .directory

theorem Node.Open.below {n m : Node} {name next : String} {rest : List String}
    (h : n.Open (name :: next :: rest)) (hentry : n.entry? name = some m) :
    m.Open (next :: rest) := by
  refine ⟨List.cons_ne_nil _ _, ?_, ?_⟩
  · rw [← standing_cons_of_lookup n m name _ hentry]
    exact h.inside
  · rw [← standing_cons_of_lookup n m name _ hentry]
    exact h.outside

theorem standing_put_self (leaf : Node) (names : List String) (n : Node) :
    (Node.put leaf names n).standing names = .of (some leaf) := by
  induction names generalizing n with
  | nil => rfl
  | cons name rest ih =>
    unfold Node.put
    rw [standing_putEntry]
    exact ih _

theorem standing_put_of_ne (leaf : Node) (hleaf : leaf.entries = []) (names : List String) (n : Node)
    (h : n.Open names) (other : List String) (hother : other ≠ names) :
    (Node.put leaf names n).standing other = n.standing other := by
  induction names generalizing n other with
  | nil => exact absurd rfl h.ne_nil
  | cons name rest ih =>
    have hothers : ∀ m key, key ≠ name →
        (Node.putEntry name m n.entries).lookup key = n.entry? key := fun m key hkey => by
      rw [lookup_putEntry, if_neg hkey]
      rfl
    unfold Node.put
    cases rest with
    | nil =>
      have hn : n.isDirectory = true := (of_eq_directory_iff n).mp h.inside
      refine standing_of_lookup n _ name [name] hn (hothers _) (fun below hbelow => ?_) other hother
      have hne : below ≠ [] := fun hnil => hbelow (by rw [hnil])
      rw [standing_putEntry, show name :: below = [name] ++ below from rfl,
        standing_append_of_ne_directory n [name] below hne h.outside]
      exact standing_of_entries_eq_nil leaf hleaf below hne
    | cons next rest =>
      obtain ⟨m, hm⟩ := exists_entry n name _ h.inside
      refine standing_of_lookup n _ name (name :: next :: rest) (isDirectory_of_lookup n m name hm)
        (hothers _) (fun below hbelow => ?_) other hother
      rw [standing_putEntry, standing_cons_of_lookup n m name below hm, hm]
      exact ih m (h.below hm) below fun heq => hbelow (by rw [heq])

theorem standing_remove_self (names : List String) (n : Node) (hne : names ≠ []) :
    (Node.remove names n).standing names = .nothing := by
  induction names generalizing n with
  | nil => exact absurd rfl hne
  | cons name rest ih =>
    cases rest with
    | nil =>
      rw [Node.remove, standing_cons, Node.entry?, Node.entries, lookup_filter_ne, if_pos rfl]
      rfl
    | cons next rest =>
      unfold Node.remove
      cases hentry : n.entry? name with
      | none =>
        dsimp only
        rw [standing_cons, hentry]
        rfl
      | some m =>
        dsimp only
        rw [standing_putEntry]
        exact ih m (List.cons_ne_nil _ _)

theorem standing_remove_of_ne (names : List String) (n : Node) (h : n.Open names)
    (other : List String) (hother : other ≠ names) :
    (Node.remove names n).standing other = n.standing other := by
  induction names generalizing n other with
  | nil => exact absurd rfl h.ne_nil
  | cons name rest ih =>
    cases rest with
    | nil =>
      have hn : n.isDirectory = true := (of_eq_directory_iff n).mp h.inside
      refine standing_of_lookup n _ name [name] hn (fun key hkey => ?_) (fun below hbelow => ?_)
        other hother
      · rw [lookup_filter_ne, if_neg hkey]
        rfl
      · have hne : below ≠ [] := fun hnil => hbelow (by rw [hnil])
        rw [show name :: below = [name] ++ below from rfl,
          standing_append_of_ne_directory n [name] below hne h.outside, List.singleton_append,
          standing_cons, Node.entry?, Node.entries, lookup_filter_ne, if_pos rfl]
        rfl
    | cons next rest =>
      obtain ⟨m, hm⟩ := exists_entry n name _ h.inside
      unfold Node.remove
      rw [hm]
      refine standing_of_lookup n _ name (name :: next :: rest) (isDirectory_of_lookup n m name hm)
        (fun key hkey => ?_) (fun below hbelow => ?_) other hother
      · rw [lookup_putEntry, if_neg hkey]
        rfl
      · rw [standing_putEntry, standing_cons_of_lookup n m name below hm]
        exact ih m (h.below hm) below fun heq => hbelow (by rw [heq])

end Crosswalk.Files

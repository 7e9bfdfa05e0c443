import Crosswalk.Proofs.Request

/-! How decorators are read, one after the other. A decorator that asks for a mode makes one request or is
reported once as misused. Every element that is written in a request is a path of the request or is reported
where it stands. Other decorators add nothing, and places are told but never looked at. -/

namespace Crosswalk

open Code (Constant Expr Name Position)

/-! Places -/

namespace Code.Expr

mutual

/-- An expression without the places where it and its parts stand. -/
def unplaced : Expr → Expr
  | name _ id => name {} id
  | constant _ value => constant {} value
  | interpolated _ parts => interpolated {} (allUnplaced parts)
  | hole value conversion format => hole value.unplaced conversion (anyUnplaced format)
  | member _ value id => member {} value.unplaced id
  | subscript _ value index => subscript {} value.unplaced index.unplaced
  | slice _ lower upper step =>
    slice {} (anyUnplaced lower) (anyUnplaced upper) (anyUnplaced step)
  | call _ callee arguments keywords =>
    call {} callee.unplaced (allUnplaced arguments) (allUnplaced keywords)
  | keyword id value => keyword id value.unplaced
  | tuple _ elements => tuple {} (allUnplaced elements)
  | list _ elements => list {} (allUnplaced elements)
  | set _ elements => set {} (allUnplaced elements)
  | dict _ entries => dict {} (allUnplaced entries)
  | entry key value => entry (anyUnplaced key) value.unplaced
  | starred _ value => starred {} value.unplaced
  | unary _ op operand => unary {} op operand.unplaced
  | binary _ op left right => binary {} op left.unplaced right.unplaced
  | logical _ op operands => logical {} op (allUnplaced operands)
  | compare _ first ops others => compare {} first.unplaced ops (allUnplaced others)
  | conditional _ test body otherwise =>
    conditional {} test.unplaced body.unplaced otherwise.unplaced
  | lambda _ parameters body => lambda {} (allUnplaced parameters) body.unplaced
  | parameter mark id default => parameter mark id (anyUnplaced default)
  | named _ target value => named {} target.unplaced value.unplaced
  | comprehension _ kind element clauses =>
    comprehension {} kind element.unplaced (allUnplaced clauses)
  | dictComprehension _ key value clauses =>
    dictComprehension {} key.unplaced value.unplaced (allUnplaced clauses)
  | clause asynchronous target source conditions =>
    clause asynchronous target.unplaced source.unplaced (allUnplaced conditions)
  | await _ value => await {} value.unplaced
  | yield _ value => yield {} (anyUnplaced value)
  | yieldFrom _ value => yieldFrom {} value.unplaced

def allUnplaced : List Expr → List Expr
  | [] => []
  | e :: rest => e.unplaced :: allUnplaced rest

def anyUnplaced : Option Expr → Option Expr
  | none => none
  | some e => some e.unplaced

end

theorem allUnplaced_eq (elements : List Expr) : allUnplaced elements = elements.map unplaced := by
  induction elements with
  | nil => rfl
  | cons e rest ih => rw [allUnplaced, ih, List.map_cons]

end Code.Expr

theorem Mode.ofWord?_eq_some_iff (name : String) (mode : Mode) :
    ofWord? name = some mode ↔ name = mode.word := by
  constructor
  · intro h
    have hword := List.find?_some h
    exact (beq_iff_eq.mp hword).symm
  · rintro rfl
    cases mode <;> rfl

namespace Request

/-! Decorators that ask -/

/-- The name of a mode, by itself or in the package. -/
inductive Names : Expr → Mode → Prop
  | bare (p : Position) (id : Name) (mode : Mode) (hword : id.text = mode.word) :
    Names (.name p id) mode
  | qualified (p q : Position) (owner id : Name) (mode : Mode) (howner : owner.text = package)
    (hword : id.text = mode.word) : Names (.member p (.name q owner) id) mode

/-- A decorator that is the name of a mode, or a call of it. -/
inductive Asks : Expr → Mode → Prop
  | bare (e : Expr) (mode : Mode) (h : Names e mode) : Asks e mode
  | called (p : Position) (callee : Expr) (arguments keywords : List Expr) (mode : Mode)
    (h : Names callee mode) : Asks (.call p callee arguments keywords) mode

theorem modeOf?_eq_some_iff (e : Expr) (mode : Mode) : modeOf? e = some mode ↔ Names e mode := by
  constructor
  · intro h
    unfold modeOf? at h
    split at h
    · exact .bare _ _ mode ((Mode.ofWord?_eq_some_iff _ mode).mp h)
    · split at h
      · rename_i howner
        exact .qualified _ _ _ _ mode howner ((Mode.ofWord?_eq_some_iff _ mode).mp h)
      · cases h
    · cases h
  · intro h
    cases h with
    | bare p id mode hword => exact (Mode.ofWord?_eq_some_iff _ mode).mpr hword
    | qualified p q owner id mode howner hword =>
      rw [modeOf?, if_pos howner]
      exact (Mode.ofWord?_eq_some_iff _ mode).mpr hword

theorem decoratorMode?_eq_some_iff (e : Expr) (mode : Mode) :
    decoratorMode? e = some mode ↔ Asks e mode := by
  constructor
  · intro h
    unfold decoratorMode? at h
    split at h
    · exact .called _ _ _ _ mode ((modeOf?_eq_some_iff _ mode).mp h)
    · exact .bare _ mode ((modeOf?_eq_some_iff _ mode).mp h)
  · intro h
    cases h with
    | bare e mode h =>
      have hmode := (modeOf?_eq_some_iff e mode).mpr h
      cases h <;> exact hmode
    | called p callee arguments keywords mode h => exact (modeOf?_eq_some_iff callee mode).mpr h

def IsOwn (e : Expr) : Prop := ∃ mode, Asks e mode

theorem isOwn_iff (e : Expr) : (decoratorMode? e).isSome = true ↔ IsOwn e := by
  simp only [Option.isSome_iff_exists, decoratorMode?_eq_some_iff, IsOwn]

instance (e : Expr) : Decidable (IsOwn e) := decidable_of_iff _ (isOwn_iff e)

/-! Elements -/

/-- Elements in sequence: each of them gives a path, or a problem at its own place. -/
inductive Sorted (file : Option Files.Path) :
    List Expr → List TargetPath → List Diagnostic → Prop
  | nil : Sorted file [] [] []
  | path (e : Expr) (path : TargetPath) {elements : List Expr} {paths : List TargetPath}
    {problems : List Diagnostic} (h : ReadsAs e (.ok path))
    (hrest : Sorted file elements paths problems) :
    Sorted file (e :: elements) (path :: paths) problems
  | problem (e : Expr) (problem : Problem) {elements : List Expr} {paths : List TargetPath}
    {problems : List Diagnostic} (h : ReadsAs e (.error problem))
    (hrest : Sorted file elements paths problems) :
    Sorted file (e :: elements) paths
      (problem.diagnostic (Location.ofPosition e.position file) :: problems)

variable (file : Option Files.Path)

/-- No element is lost. -/
theorem Sorted.length {elements : List Expr} {paths : List TargetPath} {problems : List Diagnostic}
    (h : Sorted file elements paths problems) :
    paths.length + problems.length = elements.length := by
  induction h with
  | nil => rfl
  | path e path h hrest ih =>
    simp only [List.length_cons]
    omega
  | problem e problem h hrest ih =>
    simp only [List.length_cons]
    omega

theorem sorted_iff (elements : List Expr) (paths : List TargetPath) (problems : List Diagnostic) :
    Sorted file elements paths problems ↔
      paths = elements.filterMap (fun e => (path e).toOption) ∧
        problems = elements.filterMap (elementError? file) := by
  constructor
  · intro h
    induction h with
    | nil => exact ⟨rfl, rfl⟩
    | path e found h hrest ih =>
      have hpath := (readsAs_iff e _).mp h
      simp only [List.filterMap_cons, elementError?, hpath, Except.toOption]
      exact ⟨congrArg _ ih.1, ih.2⟩
    | problem e problem h hrest ih =>
      have hpath := (readsAs_iff e _).mp h
      simp only [List.filterMap_cons, elementError?, hpath, Except.toOption]
      exact ⟨ih.1, congrArg _ ih.2⟩
  · rintro ⟨rfl, rfl⟩
    induction elements with
    | nil => exact .nil
    | cons e rest ih =>
      cases hpath : path e with
      | ok found =>
        simp only [List.filterMap_cons, elementError?, hpath, Except.toOption]
        exact .path e found ((readsAs_iff e _).mpr hpath) ih
      | error problem =>
        simp only [List.filterMap_cons, elementError?, hpath, Except.toOption]
        exact .problem e problem ((readsAs_iff e _).mpr hpath) ih

/-! Decorators in sequence -/

/-- The elements that a decorator lists: it is called with one constant or one sequence, and nothing else. -/
def Lists (e : Expr) (elements : List Expr) : Prop :=
  ∃ p callee argument, e = .call p callee [argument] [] ∧ Written argument elements

/-- What each decorator adds to what those after it add. -/
inductive Reads (file : Option Files.Path) : List Expr → List Request → List Diagnostic → Prop
  | nil : Reads file [] [] []
  | foreign (e : Expr) {rest : List Expr} {requests : List Request} {problems : List Diagnostic}
    (h : ¬ IsOwn e) (hrest : Reads file rest requests problems) :
    Reads file (e :: rest) requests problems
  | misused (e : Expr) (mode : Mode) {rest : List Expr} {requests : List Request}
    {problems : List Diagnostic} (h : Asks e mode) (hnone : ∀ elements, ¬ Lists e elements)
    (hrest : Reads file rest requests problems) :
    Reads file (e :: rest) requests
      (Problem.usage.diagnostic (Location.ofPosition e.position file) :: problems)
  | request (e : Expr) (mode : Mode) (elements : List Expr) (paths : List TargetPath)
    (own : List Diagnostic) {rest : List Expr} {requests : List Request}
    {problems : List Diagnostic} (h : Asks e mode) (hlists : Lists e elements)
    (hsorted : Sorted file elements paths own) (hrest : Reads file rest requests problems) :
    Reads file (e :: rest) (⟨mode, paths, Location.ofPosition e.position file⟩ :: requests)
      (own ++ problems)

section

variable (e : Expr)

theorem ofDecorator_of_foreign (h : ¬ IsOwn e) : ofDecorator file e = (none, []) := by
  have hnone : decoratorMode? e = none := by
    rwa [← isOwn_iff, Option.not_isSome_iff_eq_none] at h
  rw [ofDecorator, hnone]

variable (mode : Mode) (h : Asks e mode)

include h

theorem ofDecorator_of_misused (hnone : ∀ elements, ¬ Lists e elements) :
    ofDecorator file e = (none, [Problem.usage.diagnostic (Location.ofPosition e.position file)]) := by
  have hmode := (decoratorMode?_eq_some_iff e mode).mpr h
  have helements : elements? e = none := by
    rw [Option.eq_none_iff_forall_ne_some]
    exact fun elements heq => hnone elements ((elements?_eq_some_iff e elements).mp heq)
  rw [ofDecorator, hmode]
  dsimp only
  rw [helements]

theorem ofDecorator_of_lists (elements : List Expr) (hlists : Lists e elements)
    (paths : List TargetPath) (own : List Diagnostic) (hsorted : Sorted file elements paths own) :
    ofDecorator file e = (some ⟨mode, paths, Location.ofPosition e.position file⟩, own) := by
  have hmode := (decoratorMode?_eq_some_iff e mode).mpr h
  have helements := (elements?_eq_some_iff e elements).mpr hlists
  obtain ⟨rfl, rfl⟩ := (sorted_iff file elements paths own).mp hsorted
  rw [ofDecorator, hmode]
  dsimp only
  rw [helements]
  rfl

end

theorem ofDecorators_cons (e : Expr) (rest : List Expr) :
    ofDecorators file (e :: rest) =
      ((ofDecorator file e).1.toList ++ (ofDecorators file rest).1,
        (ofDecorator file e).2 ++ (ofDecorators file rest).2) := by
  unfold ofDecorators
  dsimp only
  rw [List.map_cons, List.flatMap_cons, List.filterMap_cons]
  cases (ofDecorator file e).1 <;> rfl

/-- By induction on the decorators, along the cases of the first one. -/
theorem reads_ofDecorators (decorators : List Expr) :
    Reads file decorators (ofDecorators file decorators).1 (ofDecorators file decorators).2 := by
  induction decorators with
  | nil => exact .nil
  | cons e rest ih =>
    rw [ofDecorators_cons]
    by_cases hown : IsOwn e
    · obtain ⟨mode, hasks⟩ := hown
      by_cases hlists : ∃ elements, Lists e elements
      · obtain ⟨elements, hlists⟩ := hlists
        have hsorted := (sorted_iff file elements _ _).mpr ⟨rfl, rfl⟩
        rw [ofDecorator_of_lists file e mode hasks elements hlists _ _ hsorted]
        exact .request e mode elements _ _ hasks hlists hsorted ih
      · rw [not_exists] at hlists
        rw [ofDecorator_of_misused file e mode hasks hlists]
        exact .misused e mode hasks hlists ih
    · rw [ofDecorator_of_foreign file e hown]
      exact .foreign e hown ih

theorem ofDecorators_eq_iff (decorators : List Expr) (requests : List Request)
    (problems : List Diagnostic) :
    ofDecorators file decorators = (requests, problems) ↔ Reads file decorators requests problems := by
  constructor
  · intro h
    have hreads := reads_ofDecorators file decorators
    rwa [h] at hreads
  · intro h
    induction h with
    | nil => rfl
    | foreign e h _ ih =>
      rw [ofDecorators_cons, ofDecorator_of_foreign file e h, ih]
      rfl
    | misused e mode h hnone _ ih =>
      rw [ofDecorators_cons, ofDecorator_of_misused file e mode h hnone, ih]
      rfl
    | request e mode elements paths own h hlists hsorted _ ih =>
      rw [ofDecorators_cons, ofDecorator_of_lists file e mode h elements hlists paths own hsorted, ih]
      rfl

/-! Misused decorators -/

/-- Whether it is told that a decorator is misused. -/
def TellsUsage (d : Diagnostic) : Prop := d.message = Problem.usage.message

instance (d : Diagnostic) : Decidable (TellsUsage d) :=
  inferInstanceAs (Decidable (d.message = Problem.usage.message))

/-- The problems of elements are told in other words. -/
theorem not_tellsUsage_of_sorted {elements : List Expr} {paths : List TargetPath}
    {problems : List Diagnostic} (h : Sorted file elements paths problems) :
    ∀ d ∈ problems, ¬ TellsUsage d := by
  induction h with
  | nil => exact nofun
  | path e path h hrest ih => exact ih
  | problem e problem h hrest ih =>
    refine List.forall_mem_cons.mpr ⟨?_, ih⟩
    intro htells
    have husage : problem = .usage := eq_usage_of_message problem htells
    subst husage
    cases h

/-- Every decorator that asks for a mode makes a request or is told to be misused. -/
theorem count_of_reads {decorators : List Expr} {requests : List Request} {problems : List Diagnostic}
    (h : Reads file decorators requests problems) :
    (decorators.filter (IsOwn ·)).length =
      requests.length + (problems.filter (TellsUsage ·)).length := by
  induction h with
  | nil => rfl
  | foreign e h _ ih => rwa [List.filter_cons_of_neg (by simpa using h)]
  | misused e mode h hnone _ ih =>
    have hown : IsOwn e := ⟨mode, h⟩
    have htells : TellsUsage (Problem.usage.diagnostic (Location.ofPosition e.position file)) := rfl
    rw [List.filter_cons_of_pos (by simpa using hown), List.filter_cons_of_pos (by simpa using htells),
      List.length_cons, List.length_cons, ih, Nat.add_assoc]
  | request e mode elements paths own h hlists hsorted _ ih =>
    have hown : IsOwn e := ⟨mode, h⟩
    have hquiet : own.filter (TellsUsage ·) = [] := by
      rw [List.filter_eq_nil_iff]
      simpa using not_tellsUsage_of_sorted file hsorted
    rw [List.filter_cons_of_pos (by simpa using hown), List.filter_append, hquiet, List.nil_append,
      List.length_cons, List.length_cons, ih, Nat.add_right_comm]

/-! Foreign decorators and places -/

theorem ofDecorators_filter (decorators : List Expr) :
    ofDecorators file (decorators.filter (IsOwn ·)) = ofDecorators file decorators := by
  induction decorators with
  | nil => rfl
  | cons e rest ih =>
    by_cases hown : IsOwn e
    · rw [List.filter_cons_of_pos (by simpa using hown), ofDecorators_cons, ofDecorators_cons, ih]
    · rw [List.filter_cons_of_neg (by simpa using hown), ih, ofDecorators_cons,
        ofDecorator_of_foreign file e hown]
      rfl

theorem modeOf?_unplaced (e : Expr) : modeOf? e.unplaced = modeOf? e := by
  cases e with
  | member p value id => cases value <;> rfl
  | _ => rfl

theorem decoratorMode?_unplaced (e : Expr) : decoratorMode? e.unplaced = decoratorMode? e := by
  cases e with
  | call p callee arguments keywords => exact modeOf?_unplaced callee
  | member p value id => exact modeOf?_unplaced (.member p value id)
  | _ => rfl

theorem elements?_unplaced (e : Expr) :
    elements? e.unplaced = (elements? e).map Expr.allUnplaced := by
  cases e with
  | call p callee arguments keywords =>
    match arguments, keywords with
    | [], _ => rfl
    | [argument], [] => cases argument <;> rfl
    | [argument], _ :: _ => cases argument <;> rfl
    | first :: _ :: _, _ => cases first <;> rfl
  | _ => rfl

theorem path_unplaced (e : Expr) : path e.unplaced = path e := by
  cases e with
  | constant p value => cases value <;> rfl
  | _ => rfl

/-- A request without its place. -/
def asked (r : Request) : Mode × List TargetPath := (r.mode, r.paths)

/-- A diagnostic without its place. -/
def told (d : Diagnostic) : ErrorKind × String := (d.kind, d.message)

theorem told_elementError (e : Expr) :
    (elementError? file e).map told = (elementError? none e.unplaced).map told := by
  unfold elementError?
  rw [path_unplaced]
  cases path e <;> rfl

theorem ofDecorator_unplaced (e : Expr) :
    (ofDecorator file e).1.map asked = (ofDecorator none e.unplaced).1.map asked ∧
      (ofDecorator file e).2.map told = (ofDecorator none e.unplaced).2.map told := by
  unfold ofDecorator
  rw [decoratorMode?_unplaced, elements?_unplaced]
  cases decoratorMode? e with
  | none => exact ⟨rfl, rfl⟩
  | some mode =>
    cases elements? e with
    | none => exact ⟨rfl, rfl⟩
    | some elements =>
      dsimp only [Option.map_some]
      rw [Expr.allUnplaced_eq]
      constructor
      · simp only [asked, ofElements, List.filterMap_map, Function.comp_def, path_unplaced]
      · simp only [List.map_filterMap, List.filterMap_map, Function.comp_def, told_elementError file]

/-- What is asked and told depends on the decorators as they are without their places. -/
theorem ofDecorators_unplaced (decorators : List Expr) :
    (ofDecorators file decorators).1.map asked =
        (decorators.map Expr.unplaced).filterMap (fun e => (ofDecorator none e).1.map asked) ∧
      (ofDecorators file decorators).2.map told =
        (decorators.map Expr.unplaced).flatMap (fun e => (ofDecorator none e).2.map told) := by
  unfold ofDecorators
  simp only [List.filterMap_map, List.map_filterMap, List.flatMap_map, List.map_flatMap,
    Function.comp_def, (ofDecorator_unplaced file _).1, (ofDecorator_unplaced file _).2, and_self]

/-- The decorators of a class are read one after the other: those that ask for a mode make a request each or
are told to be misused, and no others count. A request has a path or a problem for each element that is
written. What is asked and told stays as it is where foreign decorators come or go, though its places may
move. -/
theorem requests_accounted (s : Schema) :
    (∀ requests problems,
      s.requests = (requests, problems) ↔ Reads s.file s.decorators requests problems) ∧
    (s.decorators.filter (IsOwn ·)).length =
      s.requests.1.length + (s.requests.2.filter (TellsUsage ·)).length ∧
    (∀ e request problems, ofDecorator s.file e = (some request, problems) →
      ∃ elements, Lists e elements ∧ Sorted s.file elements request.paths problems ∧
        request.paths.length + problems.length = elements.length) ∧
    ∀ s' : Schema,
      (s'.file = s.file →
        s'.decorators.filter (IsOwn ·) = s.decorators.filter (IsOwn ·) → s'.requests = s.requests) ∧
      ((s'.decorators.filter (IsOwn ·)).map Expr.unplaced =
          (s.decorators.filter (IsOwn ·)).map Expr.unplaced →
        s'.requests.1.map asked = s.requests.1.map asked ∧
          s'.requests.2.map told = s.requests.2.map told) := by
  refine ⟨ofDecorators_eq_iff s.file s.decorators,
    count_of_reads s.file (reads_ofDecorators s.file s.decorators), ?_, fun s' => ⟨?_, ?_⟩⟩
  · intro e request problems h
    by_cases hown : IsOwn e
    · obtain ⟨mode, hasks⟩ := hown
      by_cases hlists : ∃ elements, Lists e elements
      · obtain ⟨elements, hlists⟩ := hlists
        have hsorted := (sorted_iff s.file elements _ _).mpr ⟨rfl, rfl⟩
        rw [ofDecorator_of_lists s.file e mode hasks elements hlists _ _ hsorted] at h
        cases h
        exact ⟨elements, hlists, hsorted, hsorted.length⟩
      · rw [not_exists] at hlists
        rw [ofDecorator_of_misused s.file e mode hasks hlists] at h
        cases h
    · rw [ofDecorator_of_foreign s.file e hown] at h
      cases h
  · intro hfile hsame
    unfold Schema.requests
    rw [← ofDecorators_filter, ← ofDecorators_filter s.file, hfile, hsame]
  · intro hsame
    unfold Schema.requests
    rw [← ofDecorators_filter, ← ofDecorators_filter s.file, (ofDecorators_unplaced s.file _).1,
      (ofDecorators_unplaced s.file _).2, (ofDecorators_unplaced s'.file _).1,
      (ofDecorators_unplaced s'.file _).2, hsame]
    exact ⟨rfl, rfl⟩

/-! A class with a decorator, and the same one below a foreign decorator -/

def mergeName : Name := ⟨"merge", "merge", by decide, by decide +kernel⟩

def foreignName : Name := ⟨"dataclass", "dataclass", by decide, by decide +kernel⟩

/-- A request with a path and a number in place of a path. -/
def stamp (line : Nat) : Expr :=
  .call ⟨line, 2⟩ (.name ⟨line, 2⟩ mergeName)
    [.list ⟨line, 8⟩ [.constant ⟨line, 9⟩ (.text (Text.codePoints "crate.a.A") false),
      .constant ⟨line, 22⟩ (.integer 3)]] []

def letter : Schema := { identifier := "S", fields := [], decorators := [stamp 1] }

def wrappedLetter : Schema :=
  { identifier := "S", fields := [], decorators := [.name ⟨1, 2⟩ foreignName, stamp 2] }

theorem requests_accounted_letter :
    (wrappedLetter.decorators.filter (IsOwn ·)).map Expr.unplaced =
        (letter.decorators.filter (IsOwn ·)).map Expr.unplaced ∧
      wrappedLetter.requests.1.map asked = letter.requests.1.map asked ∧
      wrappedLetter.requests.2.map told = letter.requests.2.map told ∧
      ∃ request problems elements, ofDecorator none (stamp 1) = (some request, problems) ∧
        Lists (stamp 1) elements ∧ request.paths.length + problems.length = elements.length := by
  have hstamp : ∀ line, IsOwn (stamp line) := fun line =>
    ⟨.merge, .called _ _ _ _ .merge (.bare _ mergeName .merge rfl)⟩
  have hforeign : ¬ IsOwn (.name ⟨1, 2⟩ foreignName) := by decide +kernel
  have hsame : (wrappedLetter.decorators.filter (IsOwn ·)).map Expr.unplaced =
      (letter.decorators.filter (IsOwn ·)).map Expr.unplaced := by
    simp only [wrappedLetter, letter, List.filter_cons, List.filter_nil, hstamp, hforeign,
      decide_true, decide_false, if_true, Bool.false_eq_true, if_false]
    rfl
  obtain ⟨-, -, hbalance, hframe⟩ := requests_accounted letter
  obtain ⟨-, hasked⟩ := hframe wrappedLetter
  obtain ⟨request, problems, hread⟩ :
      ∃ request problems, ofDecorator none (stamp 1) = (some request, problems) := ⟨_, _, rfl⟩
  obtain ⟨elements, hlists, -, hlength⟩ := hbalance (stamp 1) request problems hread
  exact ⟨hsame, (hasked hsame).1, (hasked hsame).2, request, problems, elements, hread, hlists, hlength⟩

end Request
end Crosswalk

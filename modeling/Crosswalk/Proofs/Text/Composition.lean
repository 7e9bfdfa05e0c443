import Crosswalk.Code.Token
import Crosswalk.Proofs.Text.Tables

/-! Composition around the characters of ASCII. They are no marks, none composes with what stands before it, and
the underscore composes with nothing that follows; so words that are joined by underscores are composed one
by one. -/

namespace Crosswalk.Text

def Ascii (t : List CodePoint) : Prop := ∀ c ∈ t, c < 0x80

/-- An entry of no underscore, and of a second character beyond ASCII. -/
def composesOutside (e : List Char) : Bool :=
  Nat.ble 0x80 (compositionOf e).1.2 && !Nat.beq (compositionOf e).1.1 0x5f

set_option maxRecDepth 100000 in
theorem composedTexts_outside :
    ∀ t ∈ composedTexts, ∀ e ∈ entries t, composesOutside e = true := by
  unfold composedTexts
  repeat' refine entries_cons _ _ _ composesOutside rfl (by decide +kernel) ?_
  exact List.forall_mem_nil _

/-! Single characters -/

/-- A character of ASCII composes with nothing before it, and an underscore with nothing after it. -/
theorem outside_of_compose (a b d : Nat) (h : compose? a b = some d) : 0x80 ≤ b ∧ a ≠ 0x5f := by
  unfold compose? at h
  split at h
  · rename_i hsyllable
    have hb : 0x1161 ≤ b := hsyllable.2.2.1
    have ha : 0x1100 ≤ a := hsyllable.1
    omega
  split at h
  · rename_i hsyllable
    have hb : 0x11a8 ≤ b := hsyllable.2.2.2.1
    have ha : 0xac00 ≤ a := hsyllable.1
    omega
  · obtain ⟨t, ht, e, he, heq⟩ := exists_entry_of_composed a b d h
    have houtside := composedTexts_outside t ht e he
    unfold composesOutside at houtside
    rw [heq, Bool.and_eq_true, Bool.not_eq_true'] at houtside
    exact ⟨Nat.ble_eq.mp houtside.1, Nat.ne_of_beq_eq_false houtside.2⟩

theorem compose?_ascii (a b : Nat) (hb : b < 0x80) : compose? a b = none := by
  cases h : compose? a b with
  | none => rfl
  | some d =>
    have houtside := (outside_of_compose a b d h).1
    omega

theorem compose?_underscore (b : Nat) : compose? 0x5f b = none := by
  cases h : compose? 0x5f b with
  | none => rfl
  | some d => exact absurd rfl (outside_of_compose 0x5f b d h).2

theorem markClass_ascii (c : Nat) (hc : c < 0x80) : markClass c = 0 :=
  if_pos (Nat.lt_trans hc (by decide : 0x80 < 0x300))

theorem flatMap_decompose_ascii (t : List CodePoint) (h : Ascii t) : t.flatMap decompose = t := by
  induction t with
  | nil => rfl
  | cons c rest ih =>
    obtain ⟨hc, hrest⟩ := List.forall_mem_cons.mp h
    rw [List.flatMap_cons, ih hrest, decompose, if_pos hc]
    rfl

/-! Order -/

theorem insertMark_starter (c : CodePoint) (t : List CodePoint) (hc : markClass c = 0) :
    insertMark c t = c :: t := by
  cases t with
  | nil => rfl
  | cons d rest => exact if_neg fun h => h.1 hc

/-- A mark stays after the starter before it. -/
theorem insertMark_append (c d : CodePoint) (t rest : List CodePoint) (hd : markClass d = 0) :
    insertMark c (t ++ d :: rest) = insertMark c t ++ d :: rest := by
  induction t with
  | nil => exact if_neg fun h => by omega
  | cons x t ih =>
    rw [List.cons_append, insertMark, insertMark, ih]
    split <;> rfl

theorem foldl_insertMark_append (u t : List CodePoint) (d : CodePoint) (rest : List CodePoint)
    (hd : markClass d = 0) :
    u.foldl (fun acc c => insertMark c acc) (t ++ d :: rest) =
      u.foldl (fun acc c => insertMark c acc) t ++ d :: rest := by
  induction u generalizing t with
  | nil => rfl
  | cons c u ih => rw [List.foldl_cons, List.foldl_cons, insertMark_append c d t rest hd, ih]

/-- Marks are ordered between starters. -/
theorem orderMarks_append (t u : List CodePoint) (d : CodePoint) (hd : markClass d = 0) :
    orderMarks (t ++ d :: u) = orderMarks t ++ d :: orderMarks u := by
  have hfold := foldl_insertMark_append u [] d (t.foldl (fun acc c => insertMark c acc) []) hd
  unfold orderMarks
  rw [List.foldl_append, List.foldl_cons, insertMark_starter d _ hd]
  rw [List.nil_append] at hfold
  rw [hfold, List.reverse_append, List.reverse_cons, List.append_assoc]
  rfl

/-! Composition -/

/-- What composes with nothing is left as it is, and so are the marks passed over. -/
theorem composeFrom_of_none (starter : CodePoint) (skipped t : List CodePoint)
    (h : ∀ b, compose? starter b = none) :
    composeFrom starter skipped t = starter :: skipped.reverse ++ composeAll t := by
  induction t generalizing skipped with
  | nil => rw [composeFrom, composeAll, List.append_nil]
  | cons c rest ih =>
    unfold composeFrom composeAll
    dsimp only
    rw [h c, ite_self]
    dsimp only
    split
    · rfl
    · rw [ih, List.reverse_cons, List.cons_append, List.cons_append, List.append_assoc]
      rfl

/-- Composition ends before a starter that composes with nothing before it. -/
theorem composeFrom_append (starter : CodePoint) (skipped t u : List CodePoint) (d : CodePoint)
    (hd : markClass d = 0) (h : ∀ a, compose? a d = none) :
    composeFrom starter skipped (t ++ d :: u) =
      composeFrom starter skipped t ++ composeFrom d [] u := by
  induction t generalizing starter skipped with
  | nil =>
    rw [List.nil_append, composeFrom.eq_def starter skipped (d :: u)]
    dsimp only
    rw [h starter, ite_self]
    exact if_pos hd
  | cons c rest ih =>
    rw [List.cons_append, composeFrom.eq_def starter skipped (c :: (rest ++ d :: u)),
      composeFrom.eq_def starter skipped (c :: rest)]
    dsimp only
    split
    · exact ih _ _
    · split
      · rw [ih, List.append_assoc]
      · exact ih _ _

theorem composeAll_append (t u : List CodePoint) (d : CodePoint) (hd : markClass d = 0)
    (h : ∀ a, compose? a d = none) :
    composeAll (t ++ d :: u) = composeAll t ++ composeFrom d [] u := by
  induction t with
  | nil => exact if_pos hd
  | cons c rest ih =>
    rw [List.cons_append, composeAll, composeAll]
    split
    · exact composeFrom_append c [] rest u d hd h
    · rw [ih]
      rfl

theorem orderMarks_ascii (t : List CodePoint) (h : Ascii t) : orderMarks t = t := by
  induction t with
  | nil => rfl
  | cons c rest ih =>
    obtain ⟨hc, hrest⟩ := List.forall_mem_cons.mp h
    have hcons := orderMarks_append [] rest c (markClass_ascii c hc)
    rw [List.nil_append] at hcons
    rw [hcons, ih hrest]
    rfl

theorem composeAll_ascii (t : List CodePoint) (h : Ascii t) : composeAll t = t := by
  have hfrom : ∀ (t : List CodePoint) (c : CodePoint), Ascii t → composeFrom c [] t = c :: t := by
    intro t
    induction t with
    | nil => exact fun _ _ => rfl
    | cons d rest ih =>
      intro c ht
      obtain ⟨hd, hrest⟩ := List.forall_mem_cons.mp ht
      have hcut := composeFrom_append c [] [] rest d (markClass_ascii d hd) fun a =>
        compose?_ascii a d hd
      rw [List.nil_append] at hcut
      rw [hcut, ih d hrest]
      rfl
  cases t with
  | nil => rfl
  | cons c rest =>
    obtain ⟨hc, hrest⟩ := List.forall_mem_cons.mp h
    rw [composeAll, if_pos (markClass_ascii c hc), hfrom rest c hrest]

/-- The short way for texts of ASCII is no other. -/
theorem compatible_eq (t : List CodePoint) :
    compatible t = composeAll (orderMarks (t.flatMap decompose)) := by
  unfold compatible
  split
  · rename_i hall
    have hascii : Ascii t := fun c hc => of_decide_eq_true (List.all_eq_true.mp hall c hc)
    rw [flatMap_decompose_ascii t hascii, orderMarks_ascii t hascii, composeAll_ascii t hascii]
  · rfl

/-- What an underscore parts is composed apart. -/
theorem compatible_underscore (t u : List CodePoint) :
    compatible (t ++ 0x5f :: u) = compatible t ++ 0x5f :: compatible u := by
  have hmark := markClass_ascii 0x5f (by decide)
  have hdecompose : decompose 0x5f = [0x5f] := if_pos (by decide)
  rw [compatible_eq, compatible_eq t, compatible_eq u, List.flatMap_append, List.flatMap_cons,
    hdecompose, List.singleton_append, orderMarks_append _ _ _ hmark,
    composeAll_append _ _ _ hmark fun a => compose?_ascii a 0x5f (by decide),
    composeFrom_of_none _ _ _ compose?_underscore]
  rfl

end Crosswalk.Text

namespace Crosswalk.Code

theorem canonicalName_underscore (a b : String) :
    canonicalName (a ++ "_" ++ b) = canonicalName a ++ "_" ++ canonicalName b := by
  have hparts : Text.codePoints (a ++ "_" ++ b) =
      Text.codePoints a ++ 0x5f :: Text.codePoints b := by
    simp [Text.codePoints]
  unfold canonicalName
  rw [hparts, Text.compatible_underscore]
  simp [Text.ofCodePoints, String.ofList_append, String.append_assoc]

end Crosswalk.Code

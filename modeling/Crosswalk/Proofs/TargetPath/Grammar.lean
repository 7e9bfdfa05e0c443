import Mathlib.Data.List.DropRight
import Crosswalk.Proofs.TargetPath
import Crosswalk.Proofs.Text.Quoting

/-! Which texts are paths, and what is told of the others. A path is made of names with a dot or two colons
between each and the next, and blanks may stand around the whole. A line feed may stand behind a name that is
not the last one. -/

namespace Crosswalk

open Text (CodePoint codePoints ofCodePoints isAsciiLetter isAsciiDigit isBlank strip)

/-! What is stripped -/

namespace Text

section

variable {α : Type} (p : α → Bool)

theorem dropWhile_append_of_head (lead body : List α) (hlead : ∀ c ∈ lead, p c = true)
    (hbody : ∀ c ∈ body.head?, p c = false) : (lead ++ body).dropWhile p = body := by
  rw [List.dropWhile_append_of_pos hlead]
  cases body with
  | nil => rfl
  | cons c rest => exact List.dropWhile_cons_of_neg (by simp [hbody c rfl])

theorem trim_append (lead body trail : List α) (hlead : ∀ c ∈ lead, p c = true)
    (htrail : ∀ c ∈ trail, p c = true) (hne : body ≠ []) (hhead : ∀ c ∈ body.head?, p c = false)
    (hlast : ∀ c ∈ body.getLast?, p c = false) : trim p (lead ++ body ++ trail) = body := by
  have hfront : trimLeft p (lead ++ body ++ trail) = body ++ trail := by
    rw [List.append_assoc]
    refine dropWhile_append_of_head p lead _ hlead ?_
    rwa [List.head?_append_of_ne_nil body hne]
  have hback : trimLeft p (body ++ trail).reverse = body.reverse := by
    rw [List.reverse_append]
    refine dropWhile_append_of_head p trail.reverse _ (by simpa using htrail) ?_
    rwa [List.head?_reverse]
  rw [trim, hfront, hback, List.reverse_reverse]

theorem exists_trim (l : List α) :
    ∃ lead trail, l = lead ++ trim p l ++ trail ∧ (∀ c ∈ lead, p c = true) ∧
      ∀ c ∈ trail, p c = true := by
  refine ⟨l.takeWhile p, (l.dropWhile p).rtakeWhile p, ?_, fun _ hc => List.mem_takeWhile_imp hc,
    fun _ hc => List.mem_rtakeWhile_imp hc⟩
  calc l = l.takeWhile p ++ l.dropWhile p := List.takeWhile_append_dropWhile.symm
    _ = l.takeWhile p ++ ((l.dropWhile p).rdropWhile p ++ (l.dropWhile p).rtakeWhile p) := by
      rw [List.rdropWhile_append_rtakeWhile]
    _ = _ := (List.append_assoc ..).symm

theorem last_of_trim (l : List α) (c : α) (hc : c ∈ (trim p l).getLast?) : p c = false := by
  obtain ⟨hne, rfl⟩ := List.mem_getLast?_eq_getLast hc
  exact Bool.eq_false_iff.mpr (List.rdropWhile_last_not p (l.dropWhile p) hne)

end

theorem strip_ne_append_feed (t front : List CodePoint) : strip t ≠ front ++ [0xa] := by
  intro h
  have hfeed := last_of_trim isBlank t 0xa (by
    rw [show trim isBlank t = front ++ [0xa] from h]
    exact List.getLast?_concat)
  cases hfeed

theorem strip_eq_nil_iff (t : List CodePoint) : strip t = [] ↔ ∀ c ∈ t, isBlank c = true := by
  constructor
  · intro h
    obtain ⟨lead, trail, heq, hlead, htrail⟩ := exists_trim isBlank t
    rw [show trim isBlank t = [] from h, List.append_nil] at heq
    intro c hc
    rw [heq] at hc
    exact (List.mem_append.mp hc).elim (hlead c) (htrail c)
  · intro h
    have hnil : trimLeft isBlank t = [] := List.dropWhile_eq_nil_iff.mpr h
    rw [strip, trim, hnil]
    rfl

/-! What is glued -/

theorem mem_glue_iff {α : Type} (sep c : α) (hc : c ≠ sep) (ps : List (List α)) :
    c ∈ glue sep ps ↔ ∃ p ∈ ps, c ∈ p := by
  induction ps with
  | nil => simp [glue]
  | cons p rest ih =>
    cases rest with
    | nil => simp [glue]
    | cons q rest =>
      rw [glue, List.mem_append, List.mem_cons, ih, List.exists_mem_cons_iff]
      simp [hc]

theorem glue_eq_cons {α : Type} (sep c : α) (ps : List (List α)) (t : List α)
    (h : glue sep ps = c :: t) :
    (c = sep ∧ ∃ rest, rest ≠ [] ∧ ps = [] :: rest ∧ glue sep rest = t) ∨
      ∃ p rest, ps = (c :: p) :: rest ∧ glue sep (p :: rest) = t := by
  match ps with
  | [[]] => cases h
  | [d :: p] =>
    obtain ⟨rfl, rfl⟩ := List.cons.inj h
    exact .inr ⟨p, [], rfl, rfl⟩
  | [] :: q :: rest =>
    obtain ⟨rfl, rfl⟩ := List.cons.inj h
    exact .inl ⟨rfl, q :: rest, List.cons_ne_nil _ _, rfl, rfl⟩
  | (d :: p) :: q :: rest =>
    obtain ⟨rfl, rfl⟩ := List.cons.inj h
    exact .inr ⟨p, q :: rest, rfl, rfl⟩

theorem eq_nil_of_glue_eq_nil {α : Type} (sep : α) (ps : List (List α)) (hne : ps ≠ [])
    (h : glue sep ps = []) : ps = [[]] := by
  match ps with
  | [p] => exact congrArg (fun q => [q]) h
  | p :: q :: rest => exact absurd h (List.append_ne_nil_of_right_ne_nil p (List.cons_ne_nil _ _))

theorem codePoints_ofCodePoints (t : List CodePoint) (h : ∀ c ∈ t, c < 0x80) :
    codePoints (ofCodePoints t) = t := by
  rw [codePoints, ofCodePoints, String.toList_ofList, List.map_map]
  exact (List.map_congr_left fun c hc => Quoted.toNat_ofNat c (h c hc)).trans (List.map_id t)

theorem ofCodePoints_codePoints (s : String) : ofCodePoints (codePoints s) = s := by
  simp [codePoints, ofCodePoints, Function.comp_def]

end Text

/-! Names -/

/-- Letters, digits and underscores, at least one of them, and no digit first. -/
structure PathName (t : List CodePoint) : Prop where
  nonempty : t ≠ []
  points : ∀ c ∈ t, isAsciiLetter c = true ∨ isAsciiDigit c = true ∨ c = 0x5f
  start : ∀ c ∈ t.head?, isAsciiDigit c = false

/-- What the parser takes for a name: one with a line feed behind it, too. -/
def LooseName (t : List CodePoint) : Prop := PathName t ∨ ∃ name, PathName name ∧ t = name ++ [0xa]

theorem isAsciiIdentifier_iff (t : List CodePoint) : isAsciiIdentifier t = true ↔ PathName t := by
  constructor
  · intro h
    cases t with
    | nil => cases h
    | cons c rest =>
      refine ⟨List.cons_ne_nil _ _, mem_of_isAsciiIdentifier _ h, ?_⟩
      rintro d ⟨⟩
      simp only [isAsciiIdentifier, isAsciiLetter, CodePoint, Bool.and_eq_true, Bool.or_eq_true,
        decide_eq_true_eq, beq_iff_eq] at h
      simp only [isAsciiDigit, CodePoint, Bool.and_eq_false_iff, decide_eq_false_iff_not]
      omega
  · rintro ⟨hne, hpoints, hstart⟩
    cases t with
    | nil => exact absurd rfl hne
    | cons c rest =>
      have hdigit := hstart c rfl
      have hfirst := hpoints c List.mem_cons_self
      simp only [isAsciiIdentifier, Bool.and_eq_true, Bool.or_eq_true, List.all_eq_true, beq_iff_eq]
      refine ⟨?_, fun d hd => or_assoc.mpr (hpoints d (List.mem_cons_of_mem c hd))⟩
      simpa [hdigit] using hfirst

theorem isSegment_iff (t : List CodePoint) : isSegment t = true ↔ LooseName t := by
  unfold isSegment LooseName
  rw [Bool.or_eq_true, Bool.and_eq_true, beq_iff_eq, isAsciiIdentifier_iff, isAsciiIdentifier_iff,
    List.getLast?_eq_some_iff]
  refine or_congr_right ⟨?_, ?_⟩
  · rintro ⟨⟨front, rfl⟩, hname⟩
    exact ⟨front, by simpa using hname, rfl⟩
  · rintro ⟨name, hname, rfl⟩
    exact ⟨⟨name, rfl⟩, by simpa using hname⟩

theorem PathName.bounds {t : List CodePoint} (h : PathName t) (c : Nat) (hc : c ∈ t) :
    0x30 ≤ c ∧ c ≤ 0x7a ∧ c ≠ 0x3a := by
  have hkind := h.points c hc
  simp only [isAsciiLetter, isAsciiDigit, CodePoint, Bool.or_eq_true, Bool.and_eq_true,
    decide_eq_true_eq] at hkind
  omega

theorem PathName.not_blank {t : List CodePoint} (h : PathName t) (c : Nat) (hc : c ∈ t) :
    isBlank c = false := by
  have houtside : ∀ b ∈ Text.blankPoints, b < 0x30 ∨ 0x7a < b := by decide
  have hbounds := h.bounds c hc
  rw [isBlank, List.contains_eq_mem, decide_eq_false_iff_not]
  intro hblank
  have hpoint : c < 0x30 ∨ 0x7a < c := houtside c hblank
  omega

theorem LooseName.bounds {t : List CodePoint} (h : LooseName t) (c : Nat) (hc : c ∈ t) :
    c < 0x80 ∧ c ≠ 0x2e ∧ c ≠ 0x3a := by
  rcases h with h | ⟨name, h, rfl⟩
  · have := h.bounds c hc
    omega
  · rcases List.mem_append.mp hc with hc | hc
    · have := h.bounds c hc
      omega
    · have := List.mem_singleton.mp hc
      omega

theorem LooseName.head {t : List CodePoint} (h : LooseName t) (c : CodePoint) (hc : c ∈ t.head?) :
    isBlank c = false := by
  rcases h with h | ⟨name, h, rfl⟩
  · exact h.not_blank c (List.mem_of_mem_head? hc)
  · rw [List.head?_append_of_ne_nil name h.nonempty] at hc
    exact h.not_blank c (List.mem_of_mem_head? hc)

theorem LooseName.nonempty {t : List CodePoint} (h : LooseName t) : t ≠ [] := by
  rcases h with h | ⟨name, -, rfl⟩
  · exact h.nonempty
  · exact List.append_ne_nil_of_right_ne_nil _ (List.cons_ne_nil _ _)

namespace TargetPath

/-! Segments that are joined -/

def marks : List (List CodePoint) := [[0x2e], [0x3a, 0x3a]]

/-- Segments with a dot or two colons between each and the next. -/
inductive Joined : List CodePoint → List (List CodePoint) → Prop
  | last (segment : List CodePoint) : Joined segment [segment]
  | next (segment : List CodePoint) {mark rest : List CodePoint} {segments : List (List CodePoint)}
      (hmark : mark ∈ marks) (h : Joined rest segments) :
      Joined (segment ++ mark ++ rest) (segment :: segments)

namespace Joined

variable {body : List CodePoint} {segments : List (List CodePoint)}

theorem ne_nil (h : Joined body segments) : segments ≠ [] := by
  cases h <;> exact List.cons_ne_nil _ _

theorem eq_of_singleton {segment : List CodePoint} (h : Joined body [segment]) : body = segment := by
  cases h with
  | last => rfl
  | next _ _ h => exact absurd rfl h.ne_nil

theorem first (h : Joined body segments) : ∃ s rest, s ∈ segments.head? ∧ body = s ++ rest := by
  cases h with
  | last => exact ⟨body, [], rfl, (List.append_nil _).symm⟩
  | next segment hmark h => exact ⟨segment, _, rfl, List.append_assoc ..⟩

theorem final (h : Joined body segments) : ∃ front s, s ∈ segments.getLast? ∧ body = front ++ s := by
  induction h with
  | last segment => exact ⟨[], segment, rfl, rfl⟩
  | @next segment mark _ _ hmark h ih =>
    obtain ⟨front, s, hs, rfl⟩ := ih
    exact ⟨segment ++ mark ++ front, s, List.mem_getLast?_cons hs, (List.append_assoc ..).symm⟩

theorem cons_first (c : CodePoint) {segment : List CodePoint}
    (h : Joined body (segment :: segments)) : Joined (c :: body) ((c :: segment) :: segments) := by
  cases h with
  | last => exact .last (c :: body)
  | next _ hmark h => exact .next (c :: segment) hmark h

end Joined

theorem dotColons_append (t rest : List CodePoint) (h : 0x3a ∉ t) :
    dotColons (t ++ rest) = t ++ dotColons rest := by
  induction t with
  | nil => rfl
  | cons c t ih =>
    rw [List.mem_cons, not_or] at h
    rw [List.cons_append, dotColons, ih h.2, List.cons_append]
    exact fun _ hc => absurd hc.symm h.1

theorem dotColons_mark (mark rest : List CodePoint) (h : mark ∈ marks) :
    dotColons (mark ++ rest) = 0x2e :: dotColons rest := by
  simp only [marks, List.mem_cons, List.not_mem_nil, or_false] at h
  rcases h with rfl | rfl <;> rfl

theorem glue_of_joined {body : List CodePoint} {segments : List (List CodePoint)}
    (h : Joined body segments) (hfree : ∀ s ∈ segments, 0x3a ∉ s) :
    Text.glue 0x2e segments = dotColons body := by
  induction h with
  | last segment =>
    have hsame := dotColons_append segment [] (hfree segment List.mem_cons_self)
    rw [List.append_nil, dotColons, List.append_nil] at hsame
    exact hsame.symm
  | @next segment mark rest segments hmark h ih =>
    have hrest := ih fun s hs => hfree s (List.mem_cons_of_mem _ hs)
    obtain ⟨s, segments, rfl⟩ := List.exists_cons_of_ne_nil h.ne_nil
    rw [List.append_assoc, dotColons_append segment _ (hfree segment List.mem_cons_self),
      dotColons_mark mark rest hmark, Text.glue, hrest]

theorem joined_of_glue (body : List CodePoint) (segments : List (List CodePoint))
    (hne : segments ≠ []) (hfree : ∀ s ∈ segments, 0x2e ∉ s)
    (h : Text.glue 0x2e segments = dotColons body) : Joined body segments := by
  -- along the text, two colons or a point at a time; the first segment loses its first point
  induction body using dotColons.induct generalizing segments with
  | case1 rest ih =>
    rcases Text.glue_eq_cons _ _ _ _ h with ⟨-, more, hmore, rfl, hrest⟩ | ⟨p, more, rfl, -⟩
    · have hjoined := ih more hmore (fun s hs => hfree s (List.mem_cons_of_mem _ hs)) hrest
      exact @Joined.next [] [0x3a, 0x3a] _ _ (by decide) hjoined
    · exact absurd List.mem_cons_self (hfree _ List.mem_cons_self)
  | case2 c rest hcolons ih =>
    rw [dotColons.eq_2 c rest hcolons] at h
    rcases Text.glue_eq_cons _ _ _ _ h with ⟨rfl, more, hmore, rfl, hrest⟩ | ⟨p, more, rfl, hrest⟩
    · have hjoined := ih more hmore (fun s hs => hfree s (List.mem_cons_of_mem _ hs)) hrest
      exact @Joined.next [] [0x2e] _ _ (by decide) hjoined
    · refine (ih (p :: more) (List.cons_ne_nil _ _) ?_ hrest).cons_first c
      rw [List.forall_mem_cons] at hfree ⊢
      exact hfree.imp_left fun hp hdot => hp (List.mem_cons_of_mem c hdot)
  | case3 =>
    rw [Text.eq_nil_of_glue_eq_nil _ segments hne h]
    exact .last []

/-- Joined segments are those that are left when two colons are read as a dot. -/
theorem joined_iff (body : List CodePoint) (segments : List (List CodePoint)) (hne : segments ≠ [])
    (hloose : ∀ s ∈ segments, LooseName s) :
    Joined body segments ↔ Text.glue 0x2e segments = dotColons body := by
  constructor
  · exact fun h => glue_of_joined h fun s hs hcolon => ((hloose s hs).bounds _ hcolon).2.2 rfl
  · exact joined_of_glue body segments hne fun s hs hdot => ((hloose s hs).bounds _ hdot).2.1 rfl

theorem mem_dotColons (t : List CodePoint) (c : CodePoint) (hdot : c ≠ 0x2e) (hcolon : c ≠ 0x3a) :
    c ∈ dotColons t ↔ c ∈ t := by
  induction t using dotColons.induct with
  | case1 rest ih => simp [dotColons, ih, hdot, hcolon]
  | case2 d rest hcolons ih => rw [dotColons.eq_2 d rest hcolons, List.mem_cons, List.mem_cons, ih]
  | case3 => rfl

theorem glue_segmentsOf (text : List CodePoint) :
    Text.glue 0x2e (segmentsOf text) = dotColons (strip text) := Text.glue_pieces _ _

theorem segmentsOf_eq (text : List CodePoint) (segments : List (List CodePoint))
    (hne : segments ≠ []) (hloose : ∀ s ∈ segments, LooseName s)
    (h : Text.glue 0x2e segments = dotColons (strip text)) : segmentsOf text = segments := by
  rw [segmentsOf, ← h]
  exact Text.pieces_glue _ _ hne fun s hs hdot => ((hloose s hs).bounds _ hdot).2.1 rfl

theorem segmentsOf_eq_singleton_iff (text segment : List CodePoint) :
    segmentsOf text = [segment] ∧ LooseName segment ↔ strip text = segment ∧ PathName segment := by
  constructor
  · rintro ⟨hcut, hloose⟩
    have hjoined : Joined (strip text) [segment] := by
      refine (joined_iff _ _ (List.cons_ne_nil _ _) (by simpa using hloose)).mpr ?_
      rw [← hcut, glue_segmentsOf]
    have hstrip := hjoined.eq_of_singleton
    refine ⟨hstrip, hloose.resolve_right ?_⟩
    rintro ⟨name, -, hfeed⟩
    exact Text.strip_ne_append_feed text name (hstrip.trans hfeed)
  · rintro ⟨rfl, hname⟩
    have hloose : ∀ s ∈ [strip text], LooseName s := by
      rw [List.forall_mem_singleton]
      exact .inl hname
    refine ⟨segmentsOf_eq text _ (List.cons_ne_nil _ _) hloose ?_, .inl hname⟩
    exact (joined_iff _ _ (List.cons_ne_nil _ _) hloose).mp (.last _)

/-! The grammar -/

/-- What the documentation says of a path: without the white space around it, and with two colons read as a
dot, it is a sequence of two names or more with a dot between each and the next. -/
structure IsDocumented (text : List CodePoint) (segments : List (List CodePoint)) : Prop where
  two : 2 ≤ segments.length
  names : ∀ s ∈ segments, PathName s
  dots : Text.glue 0x2e segments = dotColons (strip text)

/-- What the parser takes for a path. A line feed behind the last name is white space around the path. -/
structure Spells (text : List CodePoint) (segments : List (List CodePoint)) : Prop where
  two : 2 ≤ segments.length
  inner : ∀ s ∈ segments.dropLast, LooseName s
  last : ∀ s ∈ segments.getLast?, PathName s
  joined : ∃ lead body trail, text = lead ++ body ++ trail ∧ (∀ c ∈ lead, isBlank c = true) ∧
    (∀ c ∈ trail, isBlank c = true) ∧ Joined body segments

theorem Spells.loose {text : List CodePoint} {segments : List (List CodePoint)}
    (h : Spells text segments) (s : List CodePoint) (hs : s ∈ segments) : LooseName s := by
  have hne : segments ≠ [] := List.ne_nil_of_length_pos (Nat.zero_lt_of_lt h.two)
  rw [← List.dropLast_concat_getLast hne, List.mem_append, List.mem_singleton] at hs
  rcases hs with hs | rfl
  · exact h.inner s hs
  · exact .inl (h.last _ (List.getLast?_eq_some_getLast hne))

/-- Blanks around a path cannot be taken for a part of it. -/
theorem Spells.strip_joined {text : List CodePoint} {segments : List (List CodePoint)}
    (h : Spells text segments) : Joined (strip text) segments := by
  obtain ⟨lead, body, trail, rfl, hlead, htrail, hjoined⟩ := h.joined
  obtain ⟨s, rest, hs, hfront⟩ := hjoined.first
  obtain ⟨front, t, ht, hback⟩ := hjoined.final
  have hfirst := h.loose s (List.mem_of_mem_head? hs)
  have hname := h.last t ht
  have hbody : body ≠ [] := by
    rw [hfront]
    exact List.append_ne_nil_of_left_ne_nil hfirst.nonempty _
  have hstrip : strip (lead ++ body ++ trail) = body := by
    refine Text.trim_append isBlank lead body trail hlead htrail hbody ?_ ?_
    · rw [hfront, List.head?_append_of_ne_nil s hfirst.nonempty]
      exact hfirst.head
    · rw [hback, List.getLast?_append_of_ne_nil front hname.nonempty]
      exact fun c hc => hname.not_blank c (List.mem_of_mem_getLast? hc)
  rwa [hstrip]

theorem spells_iff (text : List CodePoint) (segments : List (List CodePoint)) :
    Spells text segments ↔
      segmentsOf text = segments ∧ 2 ≤ segments.length ∧ ∀ s ∈ segments, LooseName s := by
  constructor
  · intro h
    have hne := h.strip_joined.ne_nil
    exact ⟨segmentsOf_eq text segments hne h.loose ((joined_iff _ _ hne h.loose).mp h.strip_joined),
      h.two, h.loose⟩
  · rintro ⟨rfl, htwo, hloose⟩
    have hne : segmentsOf text ≠ [] := Text.pieces_ne_nil _ _
    have hjoined := (joined_iff _ _ hne hloose).mpr (glue_segmentsOf text)
    obtain ⟨lead, trail, heq, hlead, htrail⟩ := Text.exists_trim isBlank text
    refine ⟨htwo, fun s hs => hloose s (List.dropLast_subset _ hs), fun s hs => ?_,
      lead, strip text, trail, heq, hlead, htrail, hjoined⟩
    rcases hloose s (List.mem_of_mem_getLast? hs) with hname | ⟨name, -, rfl⟩
    · exact hname
    · -- the line feed would end the text, which is stripped
      obtain ⟨front, t, ht, hback⟩ := hjoined.final
      obtain rfl : t = name ++ [0xa] := Option.some_inj.mp (ht.symm.trans hs)
      rw [← List.append_assoc] at hback
      exact absurd hback (Text.strip_ne_append_feed text _)

/-- The documented paths are the texts that are taken for paths and hold no line feed. -/
theorem isDocumented_iff (text : List CodePoint) (segments : List (List CodePoint)) :
    IsDocumented text segments ↔ Spells text segments ∧ 0xa ∉ strip text := by
  have hfeed : 0xa ∈ strip text ↔ ∃ s ∈ segmentsOf text, 0xa ∈ s := by
    rw [← mem_dotColons _ _ (by decide) (by decide), ← glue_segmentsOf,
      Text.mem_glue_iff _ _ (by decide)]
  rw [spells_iff, hfeed]
  constructor
  · intro h
    have hne : segments ≠ [] := List.ne_nil_of_length_pos (Nat.zero_lt_of_lt h.two)
    have hcut := segmentsOf_eq text segments hne (fun s hs => .inl (h.names s hs)) h.dots
    rw [hcut]
    refine ⟨⟨rfl, h.two, fun s hs => .inl (h.names s hs)⟩, ?_⟩
    rintro ⟨s, hs, hfeed⟩
    exact absurd ((h.names s hs).bounds _ hfeed).1 (by decide)
  · rintro ⟨⟨rfl, htwo, hloose⟩, hfree⟩
    refine ⟨htwo, fun s hs => ?_, glue_segmentsOf text⟩
    rcases hloose s hs with hname | ⟨name, -, rfl⟩
    · exact hname
    · exact absurd ⟨_, hs, List.mem_append_right name List.mem_cons_self⟩ hfree

/-! What the parser answers -/

/-- The answers to a text: the path that it spells, or what keeps it from being one. -/
inductive Answers (text : List CodePoint) : Except PathError TargetPath → Prop
  | path {path : TargetPath} (spelt : Spells text (path.segments.map codePoints)) :
      Answers text (.ok path)
  | empty (blank : ∀ c ∈ text, isBlank c = true) : Answers text (.error .empty)
  | badSegment {before after : List (List CodePoint)} {segment : List CodePoint}
      (filled : ∃ c ∈ text, isBlank c = false) (cut : segmentsOf text = before ++ segment :: after)
      (good : ∀ s ∈ before, LooseName s) (bad : ¬ LooseName segment) :
      Answers text (.error (.badSegment segment text))
  | tooShort (name : PathName (strip text)) : Answers text (.error (.tooShort text))

theorem find?_bad_eq_none_iff (segments : List (List CodePoint)) :
    segments.find? (!isSegment ·) = none ↔ ∀ s ∈ segments, LooseName s := by
  simp [List.find?_eq_none, isSegment_iff]

theorem find?_bad_eq_some_iff (segments : List (List CodePoint)) (segment : List CodePoint) :
    segments.find? (!isSegment ·) = some segment ↔
      ¬ LooseName segment ∧ ∃ before after, segments = before ++ segment :: after ∧
        ∀ s ∈ before, LooseName s := by
  simp [List.find?_eq_some_iff_append, ← isSegment_iff]

theorem codePoints_names (segments : List (List CodePoint)) (h : ∀ s ∈ segments, LooseName s) :
    (segments.map ofCodePoints).map codePoints = segments := by
  rw [List.map_map]
  refine (List.map_congr_left fun s hs => ?_).trans (List.map_id segments)
  exact Text.codePoints_ofCodePoints s fun c hc => ((h s hs).bounds c hc).1

theorem isSegment_of_names (segments : List (List CodePoint)) (h : ∀ s ∈ segments, LooseName s) :
    ∀ s ∈ segments.map ofCodePoints, isSegment (codePoints s) = true := by
  intro s hs
  have hmem := List.mem_map_of_mem (f := codePoints) hs
  rw [codePoints_names segments h] at hmem
  exact (isSegment_iff _).mpr (h _ hmem)

theorem strip_ne_nil_of_good (text : List CodePoint) (h : ∀ s ∈ segmentsOf text, LooseName s) :
    strip text ≠ [] := by
  intro hblank
  have hcut : segmentsOf text = [[]] := by
    rw [segmentsOf, hblank]
    rfl
  exact (h [] (hcut ▸ List.mem_singleton_self _)).nonempty rfl

theorem parse_of_good (text : List CodePoint) (h : ∀ s ∈ segmentsOf text, LooseName s) :
    parse text =
      if hpath : 2 ≤ ((segmentsOf text).map ofCodePoints).length ∧
          ∀ s ∈ (segmentsOf text).map ofCodePoints, isSegment (codePoints s) = true then
        .ok ⟨(segmentsOf text).map ofCodePoints, hpath.1, hpath.2⟩
      else .error (.tooShort text) := by
  unfold parse
  simp only [List.isEmpty_iff, strip_ne_nil_of_good text h, if_false, (find?_bad_eq_none_iff _).mpr h]

theorem answers_parse (text : List CodePoint) : Answers text (parse text) := by
  by_cases hgood : ∀ s ∈ segmentsOf text, LooseName s
  · rw [parse_of_good text hgood]
    split
    · next hpath =>
      refine .path ((spells_iff _ _).mpr ?_)
      rw [codePoints_names _ hgood]
      exact ⟨rfl, by simpa using hpath.1, hgood⟩
    · next hshort =>
      have hone : (segmentsOf text).length < 2 := by
        rw [← List.length_map ofCodePoints]
        exact Nat.lt_of_not_le fun htwo => hshort ⟨htwo, isSegment_of_names _ hgood⟩
      have hne : segmentsOf text ≠ [] := Text.pieces_ne_nil _ _
      obtain ⟨segment, hcut⟩ := List.length_eq_one_iff.mp
        (Nat.le_antisymm (Nat.le_of_lt_succ hone) (List.length_pos_iff.mpr hne))
      have hloose := hgood segment (hcut ▸ List.mem_singleton_self segment)
      obtain ⟨rfl, hname⟩ := (segmentsOf_eq_singleton_iff text segment).mp ⟨hcut, hloose⟩
      exact .tooShort hname
  · unfold parse
    by_cases hblank : strip text = []
    · rw [hblank]
      exact .empty ((Text.strip_eq_nil_iff text).mp hblank)
    · obtain ⟨segment, hfind⟩ := Option.ne_none_iff_exists'.mp (mt (find?_bad_eq_none_iff _).mp hgood)
      obtain ⟨hbad, before, after, hcut, hbefore⟩ := (find?_bad_eq_some_iff _ _).mp hfind
      simp only [List.isEmpty_iff, hblank, if_false, hfind]
      refine .badSegment ?_ hcut hbefore hbad
      simpa [Text.strip_eq_nil_iff] using hblank

/-- No text has two answers. -/
theorem parse_eq_iff (text : List CodePoint) (answer : Except PathError TargetPath) :
    parse text = answer ↔ Answers text answer := by
  refine ⟨fun h => h ▸ answers_parse text, fun h => ?_⟩
  cases h with
  | @path path hspelt =>
    obtain ⟨hcut, -, hgood⟩ := (spells_iff _ _).mp hspelt
    have hnames : (segmentsOf text).map ofCodePoints = path.segments := by
      rw [hcut, List.map_map]
      exact (List.map_congr_left fun s _ => Text.ofCodePoints_codePoints s).trans (List.map_id _)
    rw [parse_of_good text (hcut ▸ hgood), dif_pos (by rw [hnames]; exact ⟨path.two, path.valid⟩)]
    simp only [hnames]
  | empty hblank =>
    unfold parse
    simp only [(Text.strip_eq_nil_iff text).mpr hblank, List.isEmpty_nil, if_true]
  | badSegment hfilled hcut hgood hbad =>
    have hne : strip text ≠ [] := by simpa [Text.strip_eq_nil_iff] using hfilled
    unfold parse
    simp only [List.isEmpty_iff, hne, if_false,
      (find?_bad_eq_some_iff _ _).mpr ⟨hbad, _, _, hcut, hgood⟩]
  | tooShort hname =>
    obtain ⟨hcut, hloose⟩ := (segmentsOf_eq_singleton_iff text _).mpr ⟨rfl, hname⟩
    rw [parse_of_good text (by simpa [hcut] using hloose), dif_neg]
    simp [hcut]

def Accepts (text : List CodePoint) (segments : List (List CodePoint)) : Prop :=
  ∃ path, parse text = .ok path ∧ path.segments.map codePoints = segments

theorem accepts_iff (text : List CodePoint) (segments : List (List CodePoint)) :
    Accepts text segments ↔ Spells text segments := by
  constructor
  · rintro ⟨path, hparse, rfl⟩
    cases (parse_eq_iff text _).mp hparse with
    | path hspelt => exact hspelt
  · intro hspelt
    have hnames := codePoints_names segments hspelt.loose
    let path : TargetPath := ⟨segments.map ofCodePoints, by simpa using hspelt.two,
      isSegment_of_names segments hspelt.loose⟩
    exact ⟨path, (parse_eq_iff text _).mpr (.path (hnames ▸ hspelt)), hnames⟩

/-- The parser accepts the texts that spell a path, with the segments that they spell, and answers every other
text with the error that tells what is wrong. The documented paths are the accepted ones without a line feed. -/
theorem parse_exact (text : List CodePoint) :
    (∀ segments, Accepts text segments ↔ Spells text segments) ∧
    ((∃ e, parse text = .error e ∧ Answers text (.error e)) ↔ ∀ segments, ¬ Spells text segments) ∧
    ∀ segments, IsDocumented text segments ↔ Accepts text segments ∧ 0xa ∉ strip text := by
  refine ⟨accepts_iff text, ⟨?_, ?_⟩, fun segments => ?_⟩
  · rintro ⟨e, herror, -⟩ segments hspelt
    obtain ⟨path, hpath, -⟩ := (accepts_iff text segments).mpr hspelt
    rw [herror] at hpath
    cases hpath
  · intro hnone
    cases hparse : parse text with
    | ok path => exact absurd ((accepts_iff text _).mp ⟨path, hparse, rfl⟩) (hnone _)
    | error e => exact ⟨e, rfl, (parse_eq_iff text _).mp hparse⟩
  · rw [accepts_iff]
    exact isDocumented_iff text segments

/-- Two colons are a dot, and a line feed behind a name is let through. -/
example : parse (codePoints " crate::t\n.T\n") =
    .ok ⟨["crate", "t\n", "T"], by decide, by decide⟩ := by decide

end TargetPath
end Crosswalk

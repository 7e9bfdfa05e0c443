import Crosswalk.Code.Printer
import Crosswalk.Proofs.Text.Lines

/-! Texts of expressions and lines. A string on its own is escaped, so that it is on one line. Inside a hole of
an interpolated string it is shown as it is; an expression without line ends there is on one line. -/

namespace Crosswalk.Code

open Text

def holdsLineEnd (t : List CodePoint) : Bool := t.contains 0xa || t.contains 0xd

mutual

/-- Whether a string in a hole of an interpolated string holds a line end. The flag says that the expression
itself stands in a hole. -/
def Expr.isBroken (inside : Bool) : Expr → Bool
  | .constant _ (.text t _) => inside && holdsLineEnd t
  | .constant .. | .name .. => false
  | .interpolated _ parts => anyPartBroken inside parts
  | .hole value _ format => value.isBroken true || anyBroken? true format
  | .member _ value _ | .keyword _ value | .starred _ value | .unary _ _ value | .await _ value
  | .yieldFrom _ value => value.isBroken inside
  | .subscript _ first second | .binary _ _ first second | .named _ first second =>
    first.isBroken inside || second.isBroken inside
  | .slice _ lower upper step =>
    anyBroken? inside lower || anyBroken? inside upper || anyBroken? inside step
  | .call _ callee arguments keywords =>
    callee.isBroken inside || anyBroken inside arguments || anyBroken inside keywords
  | .tuple _ elements | .list _ elements | .set _ elements | .dict _ elements
  | .logical _ _ elements => anyBroken inside elements
  | .entry key value => anyBroken? inside key || value.isBroken inside
  | .compare _ first _ others => first.isBroken inside || anyBroken inside others
  | .conditional _ test body otherwise =>
    test.isBroken inside || body.isBroken inside || otherwise.isBroken inside
  | .lambda _ parameters body => anyBroken inside parameters || body.isBroken inside
  | .parameter _ _ value | .yield _ value => anyBroken? inside value
  | .comprehension _ _ element clauses => element.isBroken inside || anyBroken inside clauses
  | .dictComprehension _ key value clauses =>
    key.isBroken inside || value.isBroken inside || anyBroken inside clauses
  | .clause _ target source conditions =>
    target.isBroken inside || source.isBroken inside || anyBroken inside conditions

def anyBroken (inside : Bool) : List Expr → Bool
  | [] => false
  | e :: rest => e.isBroken inside || anyBroken inside rest

def anyBroken? (inside : Bool) : Option Expr → Bool
  | none => false
  | some e => e.isBroken inside

/-- The parts of an interpolated string: its own text, and what stands in its holes. -/
def anyPartBroken (inside : Bool) : List Expr → Bool
  | [] => false
  | .constant _ (.text t _) :: rest => (inside && holdsLineEnd t) || anyPartBroken inside rest
  | e :: rest => e.isBroken true || anyPartBroken inside rest

end

/-! Results -/

/-- Whatever a computation returns has a property. -/
def Yields {ε α : Type} (P : α → Prop) (r : Except ε α) : Prop := ∀ a, r = .ok a → P a

section

variable {ε α β : Type} {P : α → Prop} {Q : β → Prop}

@[simp] theorem yields_ok (a : α) : Yields P (.ok a : Except ε α) ↔ P a :=
  ⟨fun h => h a rfl, fun h _ heq => Except.ok.inj heq ▸ h⟩

@[simp] theorem yields_pure (a : α) : Yields P (pure a : Except ε α) ↔ P a := yields_ok a

theorem yields_error (reason : ε) : Yields P (.error reason : Except ε α) := nofun

theorem yields_bind (r : Except ε α) (f : α → Except ε β) (hr : Yields P r)
    (hf : ∀ a, P a → Yields Q (f a)) : Yields Q (r >>= f) := by
  cases r with
  | error reason => exact nofun
  | ok a => exact hf a (hr a rfl)

end

/-! Constants -/

theorem lineFree_trimZeros (digits : List Char) (h : LineFree digits) :
    LineFree (Decimal.trimZeros digits) := by
  unfold Decimal.trimZeros
  split
  · decide
  · refine lineFree_subset digits _ (fun c hc => ?_) h
    rw [List.mem_reverse] at hc
    exact List.mem_reverse.mp ((List.dropWhile_sublist _).subset hc)

theorem oneLine_exponentText (e : Int) : OneLine (Decimal.Layout.exponentText e) := by
  have hzero : '0' ≠ '\n' ∧ '0' ≠ '\r' := by decide
  unfold Decimal.Layout.exponentText
  rw [oneLine_append, oneLine_ofList]
  constructor
  · split <;> decide
  · split
    · exact (lineFree_cons _ _).mpr ⟨hzero, lineFree_toDigits _ _⟩
    · exact lineFree_toDigits _ _

theorem oneLine_decimal (layout : Decimal.Layout) (x : Decimal.Scientific)
    (hwhole : OneLine layout.whole) : OneLine (layout.text x) := by
  have hdigits := lineFree_trimZeros _ (lineFree_toDigits 10 x.digits)
  have hexponent := oneLine_exponentText (x.exponent + (Nat.toDigits 10 x.digits).length - 1)
  have hzero : '0' ≠ '\n' ∧ '0' ≠ '\r' := by decide
  unfold Decimal.Layout.text
  dsimp only
  generalize Decimal.trimZeros (Nat.toDigits 10 x.digits) = digits at *
  split
  · exact (oneLine_append _ _).mpr ⟨by decide, hwhole⟩
  split
  · split
    · decide
    · rw [oneLine_append, oneLine_ofList]
      exact ⟨hdigits, hexponent⟩
    · rw [lineFree_cons] at hdigits
      rw [oneLine_append, oneLine_ofList, lineFree_cons, lineFree_cons]
      exact ⟨⟨hdigits.1, by decide, hdigits.2⟩, hexponent⟩
  split
  · rw [oneLine_ofList, lineFree_append, lineFree_append]
    exact ⟨⟨by decide, lineFree_replicate _ _ hzero⟩, hdigits⟩
  split
  · rw [oneLine_append, oneLine_ofList, lineFree_append]
    exact ⟨⟨hdigits, lineFree_replicate _ _ hzero⟩, hwhole⟩
  · rw [oneLine_ofList, lineFree_append, lineFree_cons]
    exact ⟨lineFree_subset _ _ (List.take_subset _ _) hdigits, by decide,
      lineFree_subset _ _ (List.drop_subset _ _) hdigits⟩

theorem oneLine_realText (layout : Decimal.Layout) (x : Decimal.Binary64)
    (hwhole : OneLine layout.whole) : OneLine (realText layout x) := by
  cases x with
  | infinite => exact (by decide : OneLine "1e309")
  | finite m scale => exact oneLine_decimal layout _ hwhole

theorem oneLine_integerText (n : Nat) : Yields OneLine (integerText n) := by
  unfold integerText
  split
  · exact yields_error _
  · rw [yields_ok, oneLine_ofList]
    exact lineFree_toDigits 10 n

/-! Strings -/

namespace StringStyle

/-- A literal that stays on its line, between whichever of its quotes. -/
structure Tidy (s : Shown) : Prop where
  body : OneLine s.body
  quotes : ∀ q ∈ s.quotes, OneLine q

theorem oneLine_visibleForm (visible : Bool) (c : CodePoint) (h : visible = true ∨ c ≠ 0xa) :
    OneLine (visibleForm visible c) := by
  unfold visibleForm
  split
  · rename_i hshown
    have hc : c = 0x9 := by
      rcases h with h | h
      · exact absurd h hshown.1
      · exact hshown.2.resolve_left h
    rw [hc]
    decide
  · exact Quoted.oneLine_escape 0x5c c (by decide) (by decide)

theorem tidy_fallback (quotes : List String) (t : List CodePoint)
    (hquotes : ∀ q ∈ quotes, OneLine q) : Tidy (fallback quotes t) := by
  have hmark := Quoted.oneLine_mark t
  have hfree := ofNat_free _ (Quoted.quoteFor_free t).1 (Quoted.quoteFor_free t).2
  unfold fallback
  dsimp only
  generalize Char.ofNat (Quoted.quoteFor t) = mark at *
  constructor
  · exact Quoted.oneLine_body _ t (fun h => hfree.1 (Char.toNat_inj.mp h))
      (fun h => hfree.2 (Char.toNat_inj.mp h))
  · intro q hq
    rw [List.mem_singleton.mp hq]
    cases hfind : quotes.find? fun q => q.toList.contains mark with
    | none => exact hmark
    | some q => exact hquotes q (List.mem_of_find?_eq_some hfind)

theorem tidy_literal (quotes : List String) (visible : Bool) (t : List CodePoint)
    (hquotes : ∀ q ∈ quotes, OneLine q) (h : visible = true ∨ ∀ c ∈ t, c ≠ 0xa) :
    Tidy (literal quotes visible t) := by
  have hbody : LineFree (String.join (t.map (visibleForm visible))).toList := by
    refine oneLine_join _ fun s hs => ?_
    obtain ⟨c, hc, rfl⟩ := List.mem_map.mp hs
    exact oneLine_visibleForm visible c (h.imp id fun h => h c hc)
  unfold literal
  dsimp only
  generalize (String.join (t.map (visibleForm visible))).toList = body at *
  generalize hpossible : (quotes.filter fun q =>
    (!body.contains '\n' || isTriple q) && !Text.occurs q.toList body) = possible
  have hpossible : ∀ q ∈ possible, OneLine q := fun q hq =>
    hquotes q (List.mem_filter.mp (hpossible ▸ hq)).1
  -- the quotes are only put into another order
  have hsorted : ∀ clashes : String → Bool,
      ∀ q ∈ possible.filter (!clashes ·) ++ possible.filter clashes, OneLine q := by
    intro clashes q hq
    rcases List.mem_append.mp hq with hq | hq
    · exact hpossible q (List.mem_filter.mp hq).1
    · exact hpossible q (List.mem_filter.mp hq).1
  split
  · exact tidy_fallback quotes t hquotes
  · exact ⟨(by decide : OneLine ""), hpossible⟩
  · rename_i last _ hlast _
    split
    · split
      · refine ⟨?_, hsorted _⟩
        rw [oneLine_ofList, lineFree_append, lineFree_cons, lineFree_cons]
        exact ⟨lineFree_subset _ _ (List.dropLast_subset _) hbody, by decide,
          hbody last (List.mem_of_getLast? hlast), lineFree_nil⟩
      · exact ⟨(oneLine_ofList _).mpr hbody, hsorted _⟩
    · exact ⟨(oneLine_ofList _).mpr hbody, hsorted _⟩

theorem oneLine_allQuotes : ∀ q ∈ allQuotes, OneLine q := by decide

theorem oneLine_enclose (s : Shown) (h : Tidy s) : OneLine (enclose s) := by
  have hquote : OneLine (s.quotes.headD "'") := by
    cases hs : s.quotes with
    | nil => decide
    | cons q rest => exact h.quotes q (by simp [hs])
  unfold enclose
  dsimp only
  rw [oneLine_append, oneLine_append]
  exact ⟨⟨hquote, h.body⟩, hquote⟩

theorem oneLine_plain (t : List CodePoint) (h : ∀ c ∈ t, c ≠ 0xa) : OneLine (plain t) :=
  oneLine_enclose _ (tidy_literal _ false t oneLine_allQuotes (.inr h))

/-- Only the texts that are not to be visible could break the line. -/
theorem oneLine_joined (texts : List (List CodePoint × Bool))
    (h : ∀ text ∈ texts, text.2 = true ∨ ∀ c ∈ text.1, c ≠ 0xa) : OneLine (joined texts) := by
  unfold joined
  refine oneLine_enclose _ ?_
  suffices hfold : ∀ acc : Shown, Tidy acc → Tidy (texts.foldl (fun acc text =>
      ⟨acc.body ++ (literal acc.quotes text.2 text.1).body,
        (literal acc.quotes text.2 text.1).quotes⟩) acc) from
    hfold _ ⟨by decide, oneLine_allQuotes⟩
  induction texts with
  | nil => exact fun acc hacc => hacc
  | cons text rest ih =>
    obtain ⟨htext, hrest⟩ := List.forall_mem_cons.mp h
    intro acc hacc
    have hliteral := tidy_literal acc.quotes text.2 text.1 hacc.quotes htext
    exact ih hrest _ ⟨(oneLine_append _ _).mpr ⟨hacc.body, hliteral.body⟩, hliteral.quotes⟩

end StringStyle

/-! Layout -/

theorem oneLine_name (id : Name) : OneLine id.text := oneLine_of_isName id.text id.isName

theorem oneLine_parenthesize (needed : Bool) (s : String) (h : OneLine s) :
    OneLine (parenthesize needed s) := by
  unfold parenthesize
  split
  · rw [oneLine_append, oneLine_append]
    exact ⟨⟨by decide, h⟩, by decide⟩
  · exact h

theorem oneLine_commas (items : List String) (h : ∀ s ∈ items, OneLine s) : OneLine (commas items) :=
  oneLine_intercalate ", " items (by decide) h

theorem oneLine_commasOrOne (items : List String) (h : ∀ s ∈ items, OneLine s) :
    OneLine (commasOrOne items) := by
  unfold commasOrOne
  split
  · exact (oneLine_append _ _).mpr ⟨h _ List.mem_cons_self, by decide⟩
  · exact oneLine_commas items h

theorem oneLine_enclosed (k : ComprehensionKind) (inner : String) (h : OneLine inner) :
    OneLine (k.enclose inner) := by
  unfold ComprehensionKind.enclose
  cases k
  all_goals
    rw [oneLine_append, oneLine_append]
    exact ⟨⟨by decide, h⟩, by decide⟩

theorem yields_openHole (inner : String) (h : OneLine inner) : Yields OneLine (openHole inner) := by
  unfold openHole
  split
  · exact yields_error _
  · rw [yields_ok, oneLine_append]
    refine ⟨?_, h⟩
    split <;> decide

theorem oneLine_conversionText (c : Option Conversion) : OneLine (conversionText c) := by
  cases c with
  | none => decide
  | some c => cases c <;> decide

/-! Texts inside interpolated strings -/

def EndFree (t : List CodePoint) : Prop := ∀ c ∈ t, c ≠ 0xa ∧ c ≠ 0xd

theorem endFree_of_holdsLineEnd (t : List CodePoint) (h : holdsLineEnd t = false) : EndFree t := by
  rw [holdsLineEnd, Bool.or_eq_false_iff] at h
  intro c hc
  constructor
  · rintro rfl
    exact absurd (List.contains_iff_mem.mpr hc) (by rw [h.1]; decide)
  · rintro rfl
    exact absurd (List.contains_iff_mem.mpr hc) (by rw [h.2]; decide)

theorem endFree_codePoints (s : String) (h : OneLine s) : EndFree (codePoints s) := by
  intro c hc
  obtain ⟨x, hx, rfl⟩ := List.mem_map.mp hc
  exact ⟨fun heq => (h x hx).1 (Char.toNat_inj.mp heq), fun heq => (h x hx).2 (Char.toNat_inj.mp heq)⟩

theorem endFree_doubleBraces (t : List CodePoint) (h : EndFree t) : EndFree (doubleBraces t) := by
  intro c hc
  obtain ⟨d, hd, hcd⟩ := List.mem_flatMap.mp hc
  have heq : c = d := by
    split at hcd <;> simpa using hcd
  exact heq ▸ h d hd

theorem oneLine_ofCodePoints (t : List CodePoint) (h : EndFree t) : OneLine (ofCodePoints t) := by
  unfold ofCodePoints
  rw [oneLine_ofList]
  intro c hc
  obtain ⟨n, hn, rfl⟩ := List.mem_map.mp hc
  exact ofNat_free n (h n hn).1 (h n hn).2

/-- Texts that break no line where they are shown: a text that is to be visible may hold a line end, unless
the string stands in a hole itself. -/
def Showable (inside : Bool) (texts : List (List CodePoint × Bool)) : Prop :=
  ∀ text ∈ texts, text.2 = true ∧ inside = false ∨ EndFree text.1

theorem endFree_of_showable (texts : List (List CodePoint × Bool)) (h : Showable true texts) :
    EndFree (texts.flatMap (·.1)) := by
  intro c hc
  obtain ⟨text, htext, hmem⟩ := List.mem_flatMap.mp hc
  exact (h text htext).resolve_left (fun h => nomatch h.2) c hmem

theorem showable_cons (inside : Bool) (text : List CodePoint × Bool)
    (rest : List (List CodePoint × Bool)) (htext : text.2 = true ∧ inside = false ∨ EndFree text.1)
    (hrest : Showable inside rest) : Showable inside (text :: rest) :=
  List.forall_mem_cons.mpr ⟨htext, hrest⟩

theorem oneLine_interpolated (plain : Bool) (texts : List (List CodePoint × Bool))
    (h : Showable plain texts) :
    OneLine (if plain then StringStyle.plain (texts.flatMap (·.1)) else StringStyle.joined texts) := by
  cases plain with
  | true => exact StringStyle.oneLine_plain _ fun c hc => (endFree_of_showable texts h c hc).1
  | false =>
    exact StringStyle.oneLine_joined texts fun text htext =>
      (h text htext).imp And.left fun hfree c hc => (hfree c hc).1

theorem yields_literal (plain : Bool) (p : Position) (value : Constant)
    (h : (Expr.constant p value).isBroken plain = false) : Yields OneLine (value.literal plain) := by
  cases value with
  | none | ellipsis => exact (yields_ok _).mpr (by decide)
  | boolean b => cases b <;> exact (yields_ok _).mpr (by decide)
  | integer n => exact oneLine_integerText n
  | real x => exact (yields_ok _).mpr (oneLine_realText _ x (by decide))
  | imaginary x =>
    refine (yields_ok _).mpr ((oneLine_append _ _).mpr ⟨oneLine_realText _ x (by decide), by decide⟩)
  | bytes b => exact (yields_ok _).mpr (Quoted.oneLine_encodeBytes b)
  | text t marked =>
    have hliteral : OneLine (if plain then StringStyle.plain t else Quoted.encode t) := by
      cases plain with
      | true =>
        exact StringStyle.oneLine_plain t fun c hc => (endFree_of_holdsLineEnd t h c hc).1
      | false => exact Quoted.oneLine_encode t
    refine (yields_ok _).mpr ?_
    cases marked with
    | true => exact (oneLine_append _ _).mpr ⟨by decide, hliteral⟩
    | false => exact hliteral

/-! Operators -/

theorem oneLine_unaryOp (op : UnaryOp) : OneLine op.text := by cases op <;> decide

theorem oneLine_binaryOp (op : BinaryOp) : OneLine op.text := by cases op <;> decide

theorem oneLine_boolOp (op : BoolOp) : OneLine op.text := by cases op <;> decide

theorem oneLine_comparison (op : Comparison) : OneLine op.text := by cases op <;> decide

theorem oneLine_mark (mark : ParameterMark) : OneLine mark.text := by cases mark <;> decide

theorem oneLine_steps (ops : List Comparison) (items : List String) (h : ∀ s ∈ items, OneLine s) :
    ∀ s ∈ List.zipWith (fun (op : Comparison) s => " " ++ op.text ++ " " ++ s) ops items,
      OneLine s := by
  induction ops generalizing items with
  | nil => exact List.forall_mem_nil _
  | cons op ops ih =>
    cases items with
    | nil => exact List.forall_mem_nil _
    | cons item items =>
      obtain ⟨hitem, hitems⟩ := List.forall_mem_cons.mp h
      refine List.forall_mem_cons.mpr ⟨?_, ih items hitems⟩
      simp only [oneLine_append, oneLine_comparison op, hitem, and_true]
      decide

/-! Expressions -/

theorem pieceTexts_cons (e : Expr) (rest : List Expr)
    (h : ¬ ∃ p t marked, e = .constant p (.text t marked)) :
    pieceTexts (e :: rest) = do
      let t ← e.textIn true Binding.test
      return (codePoints t, false) :: (← pieceTexts rest) := by
  rw [pieceTexts]
  exact fun p t marked heq => h ⟨p, t, marked, heq⟩

theorem anyPartBroken_cons (inside : Bool) (e : Expr) (rest : List Expr)
    (h : ¬ ∃ p t marked, e = .constant p (.text t marked)) :
    anyPartBroken inside (e :: rest) = (e.isBroken true || anyPartBroken inside rest) := by
  rw [anyPartBroken]
  exact fun p t marked heq => h ⟨p, t, marked, heq⟩

mutual

/-- What stands in a hole is shown as it is, so that nothing in it may hold a line end; elsewhere strings are
escaped. -/
theorem yields_textIn (plain : Bool) (b : Binding) :
    ∀ e : Expr, e.isBroken plain = false → Yields OneLine (e.textIn plain b)
  | .name _ id, _ => by
    unfold Expr.textIn
    exact (yields_ok _).mpr (oneLine_name id)
  | .constant p value, h => by
    unfold Expr.textIn
    exact yields_literal plain p value h
  | .interpolated _ parts, h => by
    unfold Expr.textIn
    refine yields_bind _ _ (yields_pieceTexts plain parts h) fun texts htexts => ?_
    have hbody := oneLine_interpolated plain texts htexts
    exact (yields_pure _).mpr ((oneLine_append _ _).mpr ⟨by decide, hbody⟩)
  | .hole value conversion format, h => by
    rw [Expr.isBroken, Bool.or_eq_false_iff] at h
    unfold Expr.textIn
    refine yields_bind _ _ (yields_formatTexts format h.2) fun texts htexts => ?_
    refine yields_bind _ _ (yields_textIn true _ value h.1) fun v hv => ?_
    refine yields_bind _ _ (yields_openHole v hv) fun inner hinner => ?_
    have hconversion := oneLine_conversionText conversion
    refine (yields_pure _).mpr ?_
    have hformat := oneLine_ofCodePoints texts htexts
    simp only [oneLine_append, hinner, hconversion, hformat, true_and]
    decide
  | .member _ value id, h => by
    unfold Expr.textIn
    refine yields_bind _ _ (yields_textIn plain _ value h) fun v hv => ?_
    have hdot : OneLine (if value.isIntegral then " ." else ".") := by split <;> decide
    exact (yields_pure _).mpr (by simp [hv, hdot, oneLine_name id])
  | .subscript _ value index, h => by
    rw [Expr.isBroken, Bool.or_eq_false_iff] at h
    unfold Expr.textIn
    refine yields_bind _ _ (yields_textIn plain _ value h.1) fun v hv => ?_
    refine yields_bind _ _ (yields_textIn plain _ index h.2) fun i hi => ?_
    refine (yields_pure _).mpr ?_
    simp only [oneLine_append, hv, hi, and_true, true_and]
    decide
  | .slice _ lower upper step, h => by
    rw [Expr.isBroken, Bool.or_eq_false_iff, Bool.or_eq_false_iff] at h
    unfold Expr.textIn
    refine yields_bind _ _ (yields_optionText plain "" (by decide) lower h.1.1) fun l hl => ?_
    refine yields_bind _ _ (yields_optionText plain "" (by decide) upper h.1.2) fun u hu => ?_
    refine yields_bind _ _ (yields_optionText plain ":" (by decide) step h.2) fun s hs => ?_
    refine (yields_pure _).mpr ?_
    simp only [oneLine_append, hl, hu, hs, and_true, true_and]
    decide
  | .call _ callee arguments keywords, h => by
    rw [Expr.isBroken, Bool.or_eq_false_iff, Bool.or_eq_false_iff] at h
    unfold Expr.textIn
    refine yields_bind _ _ (yields_textIn plain _ callee h.1.1) fun c hc => ?_
    refine yields_bind _ _ (yields_textsIn plain _ arguments h.1.2) fun items hitems => ?_
    refine yields_bind _ _ (yields_textsIn plain _ keywords h.2) fun named hnamed => ?_
    have hall := oneLine_commas (items ++ named) (List.forall_mem_append.mpr ⟨hitems, hnamed⟩)
    refine (yields_pure _).mpr ?_
    simp only [oneLine_append, hc, hall, and_true, true_and]
    decide
  | .keyword id value, h => by
    unfold Expr.textIn
    refine yields_bind _ _ (yields_textIn plain _ value h) fun v hv => ?_
    cases id with
    | some id =>
      refine (yields_pure _).mpr ?_
      simp only [oneLine_append, hv, oneLine_name id, and_true, true_and]
      decide
    | none => exact (yields_pure _).mpr ((oneLine_append _ _).mpr ⟨by decide, hv⟩)
  | .tuple _ elements, h => by
    unfold Expr.textIn
    refine yields_bind _ _ (yields_textsIn plain _ elements h) fun items hitems => ?_
    exact (yields_pure _).mpr (oneLine_parenthesize _ _ (oneLine_commasOrOne items hitems))
  | .list _ elements, h | .set _ elements, h | .dict _ elements, h => by
    unfold Expr.textIn
    refine yields_bind _ _ (yields_textsIn plain _ elements h) fun items hitems => ?_
    refine (yields_pure _).mpr ?_
    simp only [oneLine_append, oneLine_commas items hitems, and_true]
    decide
  | .entry (some key) value, h => by
    rw [Expr.isBroken, Bool.or_eq_false_iff] at h
    unfold Expr.textIn
    refine yields_bind _ _ (yields_textIn plain _ key h.1) fun k hk => ?_
    refine yields_bind _ _ (yields_textIn plain _ value h.2) fun v hv => ?_
    refine (yields_pure _).mpr ?_
    simp only [oneLine_append, hk, hv, and_true, true_and]
    decide
  | .entry none value, h => by
    unfold Expr.textIn
    refine yields_bind _ _ (yields_textIn plain _ value h) fun v hv => ?_
    exact (yields_pure _).mpr ((oneLine_append _ _).mpr ⟨by decide, hv⟩)
  | .starred _ value, h => by
    unfold Expr.textIn
    refine yields_bind _ _ (yields_textIn plain _ value h) fun v hv => ?_
    exact (yields_pure _).mpr ((oneLine_append _ _).mpr ⟨by decide, hv⟩)
  | .unary _ op operand, h => by
    unfold Expr.textIn
    refine yields_bind _ _ (yields_textIn plain _ operand h) fun o ho => ?_
    refine (yields_pure _).mpr (oneLine_parenthesize _ _ ?_)
    simp [ho, oneLine_unaryOp op]
  | .binary _ op left right, h => by
    rw [Expr.isBroken, Bool.or_eq_false_iff] at h
    unfold Expr.textIn
    refine yields_bind _ _ (yields_textIn plain _ left h.1) fun l hl => ?_
    refine yields_bind _ _ (yields_textIn plain _ right h.2) fun r hr => ?_
    refine (yields_pure _).mpr (oneLine_parenthesize _ _ ?_)
    simp only [oneLine_append, hl, hr, oneLine_binaryOp op, and_true, true_and]
    decide
  | .logical _ op operands, h => by
    unfold Expr.textIn
    refine yields_bind _ _ (yields_risingTexts plain _ operands h) fun items hitems => ?_
    refine (yields_pure _).mpr (oneLine_parenthesize _ _ ?_)
    exact oneLine_intercalate _ items (oneLine_boolOp op) hitems
  | .compare _ first ops others, h => by
    rw [Expr.isBroken, Bool.or_eq_false_iff] at h
    unfold Expr.textIn
    refine yields_bind _ _ (yields_textIn plain _ first h.1) fun f hf => ?_
    refine yields_bind _ _ (yields_textsIn plain _ others h.2) fun rest hrest => ?_
    refine (yields_pure _).mpr (oneLine_parenthesize _ _ ?_)
    exact (oneLine_append _ _).mpr ⟨hf, oneLine_join _ (oneLine_steps ops rest hrest)⟩
  | .conditional _ test body otherwise, h => by
    rw [Expr.isBroken, Bool.or_eq_false_iff, Bool.or_eq_false_iff] at h
    unfold Expr.textIn
    refine yields_bind _ _ (yields_textIn plain _ test h.1.1) fun t ht => ?_
    refine yields_bind _ _ (yields_textIn plain _ body h.1.2) fun y hy => ?_
    refine yields_bind _ _ (yields_textIn plain _ otherwise h.2) fun n hn => ?_
    refine (yields_pure _).mpr (oneLine_parenthesize _ _ ?_)
    simp only [oneLine_append, ht, hy, hn, and_true, true_and]
    decide
  | .lambda _ parameters body, h => by
    rw [Expr.isBroken, Bool.or_eq_false_iff] at h
    unfold Expr.textIn
    refine yields_bind _ _ (yields_textsIn plain _ parameters h.1) fun items hitems => ?_
    refine yields_bind _ _ (yields_textIn plain _ body h.2) fun e he => ?_
    refine (yields_pure _).mpr (oneLine_parenthesize _ _ ?_)
    have hhead : OneLine (if isEmpty parameters then "lambda" else "lambda " ++ commas items) := by
      split
      · decide
      · exact (oneLine_append _ _).mpr ⟨by decide, oneLine_commas items hitems⟩
    simp only [oneLine_append, hhead, he, and_true, true_and]
    decide
  | .parameter mark id value, h => by
    unfold Expr.textIn
    refine yields_bind _ _ (yields_optionText plain "=" (by decide) value h) fun v hv => ?_
    have hid : OneLine ((id.map (·.text)).getD "") := by
      cases id with
      | none => decide
      | some id => exact oneLine_name id
    exact (yields_pure _).mpr (by simp [hv, hid, oneLine_mark mark])
  | .named _ target value, h => by
    rw [Expr.isBroken, Bool.or_eq_false_iff] at h
    unfold Expr.textIn
    refine yields_bind _ _ (yields_textIn plain _ target h.1) fun t ht => ?_
    refine yields_bind _ _ (yields_textIn plain _ value h.2) fun v hv => ?_
    refine (yields_pure _).mpr (oneLine_parenthesize _ _ ?_)
    simp only [oneLine_append, ht, hv, and_true, true_and]
    decide
  | .comprehension _ kind element clauses, h => by
    rw [Expr.isBroken, Bool.or_eq_false_iff] at h
    unfold Expr.textIn
    refine yields_bind _ _ (yields_textIn plain _ element h.1) fun e he => ?_
    refine yields_bind _ _ (yields_textsIn plain _ clauses h.2) fun items hitems => ?_
    refine (yields_pure _).mpr (oneLine_enclosed kind _ ?_)
    exact (oneLine_append _ _).mpr ⟨he, oneLine_join items hitems⟩
  | .dictComprehension _ key value clauses, h => by
    rw [Expr.isBroken, Bool.or_eq_false_iff, Bool.or_eq_false_iff] at h
    unfold Expr.textIn
    refine yields_bind _ _ (yields_textIn plain _ key h.1.1) fun k hk => ?_
    refine yields_bind _ _ (yields_textIn plain _ value h.1.2) fun v hv => ?_
    refine yields_bind _ _ (yields_textsIn plain _ clauses h.2) fun items hitems => ?_
    refine (yields_pure _).mpr ?_
    simp only [oneLine_append, hk, hv, oneLine_join items hitems, and_true]
    decide
  | .clause asynchronous target source conditions, h => by
    rw [Expr.isBroken, Bool.or_eq_false_iff, Bool.or_eq_false_iff] at h
    unfold Expr.textIn
    refine yields_bind _ _ (yields_textIn plain _ target h.1.1) fun t ht => ?_
    refine yields_bind _ _ (yields_textIn plain _ source h.1.2) fun s hs => ?_
    refine yields_bind _ _ (yields_textsIn plain _ conditions h.2) fun ifs hifs => ?_
    have hhead : OneLine (if asynchronous then " async for " else " for ") := by split <;> decide
    have hconditions : OneLine (String.join (ifs.map (" if " ++ ·))) := by
      refine oneLine_join _ fun c hc => ?_
      obtain ⟨condition, hcondition, rfl⟩ := List.mem_map.mp hc
      exact (oneLine_append _ _).mpr ⟨by decide, hifs condition hcondition⟩
    refine (yields_pure _).mpr ?_
    simp only [oneLine_append, hhead, ht, hs, hconditions, and_true, true_and]
    decide
  | .await _ value, h | .yieldFrom _ value, h | .yield _ (some value), h => by
    unfold Expr.textIn
    refine yields_bind _ _ (yields_textIn plain _ value h) fun v hv => ?_
    refine (yields_pure _).mpr (oneLine_parenthesize _ _ ?_)
    exact (oneLine_append _ _).mpr ⟨by decide, hv⟩
  | .yield _ none, _ => by
    unfold Expr.textIn
    exact (yields_pure _).mpr (oneLine_parenthesize _ _ (by decide))

theorem yields_textsIn (plain : Bool) (b : Binding) :
    ∀ es : List Expr, anyBroken plain es = false →
      Yields (fun items => ∀ s ∈ items, OneLine s) (textsIn plain b es)
  | [], _ => by
    unfold textsIn
    exact (yields_ok _).mpr (List.forall_mem_nil _)
  | e :: rest, h => by
    rw [anyBroken, Bool.or_eq_false_iff] at h
    unfold textsIn
    refine yields_bind _ _ (yields_textIn plain b e h.1) fun t ht => ?_
    refine yields_bind _ _ (yields_textsIn plain b rest h.2) fun items hitems => ?_
    exact (yields_pure _).mpr (List.forall_mem_cons.mpr ⟨ht, hitems⟩)

theorem yields_risingTexts (plain : Bool) (b : Binding) :
    ∀ es : List Expr, anyBroken plain es = false →
      Yields (fun items => ∀ s ∈ items, OneLine s) (risingTexts plain b es)
  | [], _ => by
    unfold risingTexts
    exact (yields_ok _).mpr (List.forall_mem_nil _)
  | e :: rest, h => by
    rw [anyBroken, Bool.or_eq_false_iff] at h
    unfold risingTexts
    refine yields_bind _ _ (yields_textIn plain b e h.1) fun t ht => ?_
    refine yields_bind _ _ (yields_risingTexts plain b.next rest h.2) fun items hitems => ?_
    exact (yields_pure _).mpr (List.forall_mem_cons.mpr ⟨ht, hitems⟩)

theorem yields_optionText (plain : Bool) (before : String) (hbefore : OneLine before) :
    ∀ e : Option Expr, anyBroken? plain e = false → Yields OneLine (optionText plain before e)
  | none, _ => by
    unfold optionText
    exact (yields_ok _).mpr (by decide)
  | some e, h => by
    unfold optionText
    refine yields_bind _ _ (yields_textIn plain _ e h) fun t ht => ?_
    exact (yields_pure _).mpr ((oneLine_append _ _).mpr ⟨hbefore, ht⟩)

theorem yields_pieceTexts (inside : Bool) :
    ∀ parts : List Expr, anyPartBroken inside parts = false →
      Yields (Showable inside) (pieceTexts parts)
  | [], _ => by
    unfold pieceTexts
    exact (yields_ok _).mpr (List.forall_mem_nil _)
  | e :: rest, h => by
    by_cases htext : ∃ p t marked, e = .constant p (.text t marked)
    · obtain ⟨p, t, marked, rfl⟩ := htext
      rw [anyPartBroken, Bool.or_eq_false_iff, Bool.and_eq_false_iff] at h
      unfold pieceTexts
      refine yields_bind _ _ (yields_pieceTexts inside rest h.2) fun texts htexts => ?_
      refine (yields_pure _).mpr (showable_cons inside _ texts ?_ htexts)
      exact h.1.imp (fun hinside => ⟨rfl, hinside⟩) fun ht =>
        endFree_doubleBraces t (endFree_of_holdsLineEnd t ht)
    · rw [anyPartBroken_cons inside e rest htext, Bool.or_eq_false_iff] at h
      rw [pieceTexts_cons e rest htext]
      refine yields_bind _ _ (yields_textIn true _ e h.1) fun t ht => ?_
      refine yields_bind _ _ (yields_pieceTexts inside rest h.2) fun texts htexts => ?_
      exact (yields_pure _).mpr
        (showable_cons inside _ texts (.inr (endFree_codePoints t ht)) htexts)

theorem yields_formatTexts :
    ∀ format : Option Expr, anyBroken? true format = false → Yields EndFree (formatTexts format)
  | none, _ => by
    unfold formatTexts
    exact (yields_ok _).mpr (List.forall_mem_nil _)
  | some e, h => by
    cases e with
    | interpolated p parts =>
      unfold formatTexts
      refine yields_bind _ _ (yields_pieceTexts true parts h) fun texts htexts => ?_
      exact (yields_pure _).mpr
        (List.forall_mem_cons.mpr ⟨by decide, endFree_of_showable texts htexts⟩)
    | _ => exact (yields_ok _).mpr (List.forall_mem_nil _)

end

theorem oneLine_text (e : Expr) (text : String) (hbroken : e.isBroken false = false)
    (h : e.text = .ok text) : OneLine text := yields_textIn false _ e hbroken text h

end Crosswalk.Code

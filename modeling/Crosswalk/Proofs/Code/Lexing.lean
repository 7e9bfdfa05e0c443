import Mathlib.Data.List.Pairwise
import Crosswalk.Code.Source

/-! Where tokens stand. A text is read onward, and past the words in it, so that every word stands before all
the tokens that follow it. -/

namespace Crosswalk.Code

def Position.Before (p q : Position) : Prop :=
  p.line < q.line ∨ p.line = q.line ∧ p.column < q.column

def Position.NotAfter (p q : Position) : Prop :=
  p.line < q.line ∨ p.line = q.line ∧ p.column ≤ q.column

namespace Position

variable {p q r : Position}

theorem NotAfter.refl (p : Position) : p.NotAfter p := .inr ⟨rfl, Nat.le_refl _⟩

theorem Before.notAfter (h : p.Before q) : p.NotAfter q := by
  unfold Before at h
  unfold NotAfter
  omega

theorem NotAfter.trans (h : p.NotAfter q) (h' : q.NotAfter r) : p.NotAfter r := by
  unfold NotAfter at *
  omega

theorem Before.trans_notAfter (h : p.Before q) (h' : q.NotAfter r) : p.Before r := by
  unfold Before NotAfter at *
  omega

theorem Before.ne (h : p.Before q) : p ≠ q := by
  rintro rfl
  unfold Before at h
  omega

end Position

namespace Lexer

/-! The cursor -/

section

variable (c : Cursor)

theorem before_after (p : Position) (x : Char) : p.Before (Position.after p x) := by
  unfold Position.after
  split
  · exact .inl (Nat.lt_succ_self _)
  · have hwidth : 0 < Text.utf8Width x.toNat := by
      unfold Text.utf8Width
      repeat' split
      all_goals decide
    exact .inr ⟨rfl, Nat.lt_add_of_pos_right hwidth⟩

theorem notAfter_drop (n : Nat) : c.position.NotAfter (c.drop n).position := by
  induction n generalizing c with
  | zero => exact .refl _
  | succ n ih =>
    unfold Cursor.drop
    cases c.rest with
    | nil => exact .refl _
    | cons x rest =>
      exact (before_after c.position x).notAfter.trans (ih ⟨rest, Position.after c.position x⟩)

theorem before_drop (n : Nat) (hn : n ≠ 0) (hrest : c.rest ≠ []) :
    c.position.Before (c.drop n).position := by
  obtain ⟨n, rfl⟩ := Nat.exists_eq_succ_of_ne_zero hn
  obtain ⟨x, rest, hc⟩ := List.exists_cons_of_ne_nil hrest
  unfold Cursor.drop
  rw [hc]
  exact (before_after c.position x).trans_notAfter
    (notAfter_drop ⟨rest, Position.after c.position x⟩ n)

theorem notAfter_skipComment : c.position.NotAfter c.skipComment.position := by
  unfold Cursor.skipComment
  split
  · exact notAfter_drop c _
  · exact .refl _

end

/-! One step -/

/-- What a step yields stands in what it reads, and a word is all that it yields, with more text read. -/
structure Moves (s : State) (tokens : List Token) (s' : State) : Prop where
  onward : s.cursor.position.NotAfter s'.cursor.position
  inside : ∀ t ∈ tokens, s.cursor.position.NotAfter t.position
  past : ∀ t ∈ tokens, ∀ word, t.lexeme = .keyword word →
    tokens = [t] ∧ t.position.Before s'.cursor.position

theorem moves_nil (s s' : State) (h : s.cursor.position.NotAfter s'.cursor.position) :
    Moves s [] s' := ⟨h, List.forall_mem_nil _, List.forall_mem_nil _⟩

/-- A token at the cursor that is no word. -/
theorem moves_token (s s' : State) (lexeme : Lexeme) (hword : ∀ word, lexeme ≠ .keyword word)
    (h : s.cursor.position.NotAfter s'.cursor.position) :
    Moves s [⟨lexeme, s.cursor.position⟩] s' := by
  refine ⟨h, fun t ht => ?_, fun t ht word hlexeme => ?_⟩
  · rw [List.mem_singleton.mp ht]
    exact .refl _
  · rw [List.mem_singleton.mp ht] at hlexeme
    exact absurd hlexeme (hword word)

theorem not_keyword_of_indentation (m : Margin) (open' indents : List (Nat × Nat))
    (marks : List Lexeme) (h : indentation m open' = some (marks, indents)) (word : String) :
    .keyword word ∉ marks := by
  induction open' generalizing marks indents with
  | nil => cases h
  | cons first outer ih =>
    unfold indentation at h
    split at h
    · split at h
      · cases h
        exact List.not_mem_nil
      · cases h
    · split at h
      · split at h
        · cases h
          simp
        · cases h
      · obtain ⟨⟨inner, left⟩, hinner, h⟩ := Option.bind_eq_some_iff.mp h
        dsimp only at h
        split at h
        · cases h
        · cases h
          simpa using ih indents inner hinner

theorem moves_startLine (s s' : State) (tokens : List Token) (h : startLine s = some (tokens, s')) :
    Moves s tokens s' := by
  unfold startLine at h
  obtain ⟨⟨m, rest⟩, -, h⟩ := Option.bind_eq_some_iff.mp h
  have hmargin : s.cursor.position.NotAfter (s.cursor.upTo rest).position := notAfter_drop _ _
  dsimp only at h
  generalize s.cursor.upTo rest = cursor at h hmargin
  split at h
  · cases h
    exact moves_nil _ _ (hmargin.trans (notAfter_drop _ 1))
  · have hcomment := hmargin.trans (notAfter_skipComment cursor)
    split at h
    · cases h
      exact moves_nil _ _ hcomment
    · cases h
      exact moves_nil _ _ (hcomment.trans (notAfter_drop _ 1))
  · obtain ⟨⟨marks, indents⟩, hmarks, h⟩ := Option.bind_eq_some_iff.mp h
    cases h
    refine ⟨hmargin, fun t ht => ?_, fun t ht word hlexeme => ?_⟩
    · obtain ⟨lexeme, -, rfl⟩ := List.mem_map.mp ht
      exact hmargin
    · obtain ⟨lexeme, hlexeme', rfl⟩ := List.mem_map.mp ht
      cases (hlexeme : lexeme = .keyword word)
      exact absurd hlexeme' (not_keyword_of_indentation m s.indents indents marks hmarks word)

theorem ne_nil_of_name? (spelling : List Char) (lexeme : Lexeme) (h : name? spelling = some lexeme) :
    spelling ≠ [] := by
  rintro rfl
  cases h

theorem moves_name (s : State) (spelling : List Char) (lexeme : Lexeme)
    (hspelling : spelling = s.cursor.rest.takeWhile Numeral.extendsName)
    (h : name? spelling = some lexeme) :
    Moves s [⟨lexeme, s.cursor.position⟩] { s with cursor := s.cursor.drop spelling.length } := by
  have hne := ne_nil_of_name? spelling lexeme h
  have hrest : s.cursor.rest ≠ [] := by
    intro hnil
    rw [hnil] at hspelling
    exact hne hspelling
  have hpast := before_drop s.cursor spelling.length (mt List.length_eq_zero_iff.mp hne) hrest
  refine ⟨hpast.notAfter, fun t ht => ?_, fun t ht word hlexeme => ?_⟩
  · rw [List.mem_singleton.mp ht]
    exact .refl _
  · rw [List.mem_singleton.mp ht]
    exact ⟨rfl, hpast⟩

theorem moves_readName (s s' : State) (t : Token) (h : readName s = some (t, s')) :
    Moves s [t] s' := by
  unfold readName at h
  dsimp only at h
  split at h
  · split at h
    · obtain ⟨⟨literal, rest⟩, -, h⟩ := Option.bind_eq_some_iff.mp h
      cases h
      exact moves_token s _ _ nofun (notAfter_drop _ _)
    · obtain ⟨lexeme, hname, h⟩ := Option.bind_eq_some_iff.mp h
      cases h
      exact moves_name s _ lexeme rfl hname
  · obtain ⟨lexeme, hname, h⟩ := Option.bind_eq_some_iff.mp h
    cases h
    exact moves_name s _ lexeme rfl hname

theorem moves_readToken (s s' : State) (t : Token) (h : readToken s = some (t, s')) :
    Moves s [t] s' := by
  have hnumber : ∀ (h : readNumber s = some (t, s')), Moves s [t] s' := by
    intro h
    obtain ⟨⟨numeral, rest⟩, -, h⟩ := Option.bind_eq_some_iff.mp h
    cases h
    exact moves_token s _ _ nofun (notAfter_drop _ _)
  unfold readToken at h
  split at h
  · cases h
  · repeat' split at h
    · exact moves_readName s s' t h
    · exact hnumber h
    · exact hnumber h
    · obtain ⟨⟨literal, rest⟩, -, h⟩ := Option.bind_eq_some_iff.mp h
      cases h
      exact moves_token s _ _ nofun (notAfter_drop _ _)
    · obtain ⟨symbol, -, h⟩ := Option.bind_eq_some_iff.mp h
      obtain ⟨brackets, -, h⟩ := Option.bind_eq_some_iff.mp h
      cases h
      exact moves_token s _ _ nofun (notAfter_drop _ _)

/-- A step from a later place in the text moves on from here as well. -/
theorem Moves.from_earlier {s s' : State} {tokens : List Token} (earlier : State)
    (hearlier : earlier.cursor.position.NotAfter s.cursor.position) (h : Moves s tokens s') :
    Moves earlier tokens s' :=
  ⟨hearlier.trans h.onward, fun t ht => hearlier.trans (h.inside t ht), h.past⟩

theorem moves_step (s s' : State) (tokens : List Token) (h : step s = some (.more tokens s')) :
    Moves s tokens s' := by
  unfold step at h
  split at h
  · obtain ⟨⟨tokens, next⟩, hstart, h⟩ := Option.map_eq_some_iff.mp h
    cases h
    exact moves_startLine s s' tokens hstart
  · unfold continueLine at h
    dsimp only at h
    generalize hcursor : (s.cursor.skipWhile isSpace).skipComment = cursor at h
    have hspace : s.cursor.position.NotAfter cursor.position := by
      rw [← hcursor]
      exact (notAfter_drop s.cursor _).trans (notAfter_skipComment _)
    split at h
    · split at h <;> cases h
    · split at h
      · cases h
        exact (moves_token { s with cursor } _ .newline nofun (notAfter_drop _ 1)).from_earlier s hspace
      · cases h
        exact moves_nil _ _ (hspace.trans (notAfter_drop _ 1))
    · cases h
      exact moves_nil _ _ (hspace.trans (notAfter_drop _ 2))
    · obtain ⟨⟨t, next⟩, hread, h⟩ := Option.map_eq_some_iff.mp h
      cases h
      exact (moves_readToken { s with cursor } next t hread).from_earlier s hspace

theorem notAfter_done (s : State) (position : Position) (h : step s = some (.done position)) :
    s.cursor.position.NotAfter position := by
  unfold step at h
  split at h
  · obtain ⟨next, -, h⟩ := Option.map_eq_some_iff.mp h
    cases h
  · unfold continueLine at h
    dsimp only at h
    split at h
    · split at h
      · cases h
        exact (notAfter_drop s.cursor _).trans (notAfter_skipComment _)
      · cases h
    · split at h <;> cases h
    · cases h
    · obtain ⟨next, -, h⟩ := Option.map_eq_some_iff.mp h
      cases h

/-! All steps -/

/-- Words stand before all that follows them. -/
def Ordered (tokens : List Token) : Prop :=
  tokens.Pairwise fun t u => (∃ word, t.lexeme = .keyword word) → t.position.Before u.position

theorem ordered_run (fuel : Nat) (s : State) (tokens : List Token) (h : run fuel s = some tokens) :
    (∀ t ∈ tokens, s.cursor.position.NotAfter t.position) ∧ Ordered tokens := by
  induction fuel generalizing s tokens with
  | zero => cases h
  | succ fuel ih =>
    unfold run at h
    obtain ⟨next, hstep, h⟩ := Option.bind_eq_some_iff.mp h
    cases next with
    | done position =>
      cases h
      refine ⟨fun t ht => ?_, List.pairwise_singleton _ _⟩
      rw [List.mem_singleton.mp ht]
      exact notAfter_done s position hstep
    | more first s' =>
      obtain ⟨later, hlater, h⟩ := Option.bind_eq_some_iff.mp h
      cases h
      have hmoves := moves_step s s' first hstep
      obtain ⟨hfrom, hordered⟩ := ih s' later hlater
      refine ⟨fun t ht => ?_, List.pairwise_append.mpr ⟨?_, hordered, ?_⟩⟩
      · rcases List.mem_append.mp ht with ht | ht
        · exact hmoves.inside t ht
        · exact hmoves.onward.trans (hfrom t ht)
      · by_cases hword : ∃ t ∈ first, ∃ word, t.lexeme = .keyword word
        · obtain ⟨t, ht, word, hlexeme⟩ := hword
          rw [(hmoves.past t ht word hlexeme).1]
          exact List.pairwise_singleton _ _
        · exact List.pairwise_of_forall_mem_list fun t ht u _ hlexeme =>
            absurd ⟨t, ht, hlexeme⟩ hword
      · rintro t ht u hu ⟨word, hlexeme⟩
        exact (hmoves.past t ht word hlexeme).2.trans_notAfter (hfrom u hu)

theorem ordered_tokens (text : List Char) (tokens : List Token) (h : tokens? text = some tokens) :
    Ordered tokens := by
  unfold tokens? at h
  split at h
  · cases h
  · exact (ordered_run _ _ tokens h).2

end Lexer
end Crosswalk.Code

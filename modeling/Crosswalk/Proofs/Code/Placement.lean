import Mathlib.Data.List.Infix
import Crosswalk.Proofs.Code.Lexing

/-! Where classes stand. A class stands where its word does, the words are read one after the other, and so
the classes of a module stand one after the other. -/

namespace Crosswalk.Code

namespace Grammar

variable {α β : Type}

theorem exists_of_run_bind (r : Reader α) (next : α → Reader β) (s : List Token) (b : β)
    (rest : List Token) (h : (r >>= next).run s = some (b, rest)) :
    ∃ a mid, r.run s = some (a, mid) ∧ (next a).run mid = some (b, rest) := by
  change (Reader.bind r next).run s = some (b, rest) at h
  simp only [Reader.bind] at h
  split at h
  · rename_i a mid hfirst
    exact ⟨a, mid, hfirst, h⟩
  · cases h

/-! What readers give -/

/-- All that a reader can give is of a kind. -/
def Gives (r : Reader α) (p : α → Prop) : Prop := ∀ s a rest, r.run s = some (a, rest) → p a

theorem gives_pure (p : α → Prop) (a : α) (h : p a) : Gives (pure a) p := by
  intro s b rest hread
  cases hread
  exact h

theorem gives_refuse (p : α → Prop) : Gives refuse p := nofun

theorem gives_bind (p : β → Prop) (r : Reader α) (next : α → Reader β)
    (h : ∀ a, Gives (next a) p) : Gives (r >>= next) p := by
  intro s b rest hread
  obtain ⟨a, mid, -, hnext⟩ := exists_of_run_bind r next s b rest hread
  exact h a mid b rest hnext

theorem gives_bind_of_gives (q : α → Prop) (p : β → Prop) (r : Reader α) (next : α → Reader β)
    (hr : Gives r q) (h : ∀ a, q a → Gives (next a) p) : Gives (r >>= next) p := by
  intro s b rest hread
  obtain ⟨a, mid, hfirst, hnext⟩ := exists_of_run_bind r next s b rest hread
  exact h a (hr s a mid hfirst) mid b rest hnext

/-- What is checked before a reader goes on makes no difference to what it gives. -/
theorem gives_unless (p : β → Prop) (c : Prop) [Decidable c] (next : Unit → Reader β)
    (h : ∀ u, Gives (next u) p) :
    Gives (if c then do let u ← refuse; next u else next ()) p := by
  split
  · exact gives_bind _ _ _ h
  · exact h ()

section

variable (k : Knot)

theorem gives_fieldStatement (position : Position) (target : Expr) :
    Gives (fieldStatement k position target) (·.record? = none) := by
  unfold fieldStatement
  refine gives_unless _ _ _ fun _ => gives_bind _ _ _ fun _ => gives_bind _ _ _ fun _ =>
    gives_bind _ _ _ fun _ => ?_
  dsimp only
  split
  · exact gives_bind _ _ _ fun _ => gives_pure _ _ rfl
  · exact gives_pure _ _ rfl

theorem gives_expressionStatement : Gives (expressionStatement k) (·.record? = none) := by
  unfold expressionStatement
  refine gives_bind _ _ _ fun position => gives_bind _ _ _ fun first => gives_bind _ _ _ fun lexeme => ?_
  split
  · exact gives_fieldStatement k position first
  · exact gives_bind _ _ _ fun _ => gives_pure _ _ rfl
  · dsimp only
    split
    · exact gives_unless _ _ _ fun _ => gives_bind _ _ _ fun _ => gives_bind _ _ _ fun _ =>
        gives_pure _ _ rfl
    · exact gives_pure _ _ rfl
  · exact gives_pure _ _ rfl

theorem gives_simpleStatement : Gives (simpleStatement k) (·.record? = none) := by
  unfold simpleStatement
  refine gives_bind _ _ _ fun position => ?_
  have hdone : ∀ r : Reader Unit, Gives (do advance; r; return Statement.other position)
      (·.record? = none) :=
    fun r => gives_bind _ _ _ fun _ => gives_bind _ _ _ fun _ => gives_pure _ _ rfl
  refine gives_bind _ _ _ fun lexeme => ?_
  split
  all_goals first
    | exact hdone _
    | exact gives_bind _ _ _ fun _ => gives_pure _ _ rfl
    | exact gives_expressionStatement k

theorem gives_simpleLine (fuel : Nat) :
    Gives (simpleLine k fuel) (·.filterMap Statement.record? = []) := by
  induction fuel with
  | zero => exact gives_refuse _
  | succ fuel ih =>
    unfold simpleLine
    refine gives_bind_of_gives _ _ _ _ (gives_simpleStatement k) fun first hfirst => ?_
    have hone : [first].filterMap Statement.record? = [] := by simp [hfirst]
    refine gives_bind _ _ _ fun more => ?_
    split
    · refine gives_bind _ _ _ fun ends => ?_
      split
      · exact gives_pure _ _ hone
      · refine gives_bind_of_gives _ _ _ _ ih fun rest hrest => gives_pure _ _ ?_
        simp [hfirst, hrest]
    · exact gives_bind _ _ _ fun _ => gives_pure _ _ hone

end

/-! Where readers find classes -/

/-- The classes stand where words for them do, in their order. -/
def Placed (statements : List Statement) (read : List Token) : Prop :=
  ∃ words : List Token, words.Sublist read ∧ (∀ t ∈ words, t.lexeme = .keyword "class") ∧
    (statements.filterMap Statement.record?).map (·.position) = words.map (·.position)

theorem placed_of_none (statements : List Statement) (read : List Token)
    (h : statements.filterMap Statement.record? = []) : Placed statements read :=
  ⟨[], List.nil_sublist read, List.forall_mem_nil _, by rw [h]; rfl⟩

theorem Placed.append {first later : List Statement} {read read' : List Token}
    (h : Placed first read) (h' : Placed later read') : Placed (first ++ later) (read ++ read') := by
  obtain ⟨words, hsub, hwords, hpositions⟩ := h
  obtain ⟨words', hsub', hwords', hpositions'⟩ := h'
  refine ⟨words ++ words', hsub.append hsub', List.forall_mem_append.mpr ⟨hwords, hwords'⟩, ?_⟩
  rw [List.filterMap_append, List.map_append, List.map_append, hpositions, hpositions']

/-- What a reader gives has its classes in what the reader takes. -/
def Places (r : Reader α) (statements : α → List Statement) : Prop :=
  ∀ s a rest, r.run s = some (a, rest) → ∃ read, read ++ rest = s ∧ Placed (statements a) read

theorem places_of_gives (r : Reader α) (statements : α → List Statement)
    (h : Gives r fun a => (statements a).filterMap Statement.record? = []) : Places r statements := by
  intro s a rest hread
  obtain ⟨read, hsuffix⟩ := r.suffix s a rest hread
  exact ⟨read, hsuffix, placed_of_none _ read (h s a rest hread)⟩

theorem places_bind (statements : β → List Statement) (r : Reader α) (next : α → Reader β)
    (h : ∀ a, Places (next a) statements) : Places (r >>= next) statements := by
  intro s b rest hread
  obtain ⟨a, mid, hfirst, hnext⟩ := exists_of_run_bind r next s b rest hread
  obtain ⟨before, rfl⟩ := r.suffix s a mid hfirst
  obtain ⟨read, rfl, hplaced⟩ := h a mid b rest hnext
  refine ⟨before ++ read, List.append_assoc _ _ _, ?_⟩
  simpa using (placed_of_none [] before rfl).append hplaced

theorem places_bind_pure (statements : α → List Statement) (f : α → β)
    (statements' : β → List Statement) (r : Reader α) (hf : ∀ a, statements' (f a) = statements a)
    (h : Places r statements) : Places (do return f (← r)) statements' := by
  intro s b rest hread
  obtain ⟨a, mid, hfirst, hnext⟩ := exists_of_run_bind r _ s b rest hread
  cases hnext
  rw [hf]
  exact h s a rest hfirst

theorem exists_of_run_word (text : String) (s rest : List Token)
    (h : (word text).run s = some ((), rest)) :
    ∃ t, s = t :: rest ∧ t.lexeme = .keyword text := by
  unfold word expect accept at h
  obtain ⟨found, mid, hfound, h⟩ := exists_of_run_bind _ _ _ _ _ h
  obtain ⟨lexeme, start, hlexeme, hfound⟩ := exists_of_run_bind _ _ _ _ _ hfound
  cases hlexeme
  split at hfound
  · rename_i hnext
    cases hfound
    cases h
    cases s with
    | nil => cases hnext
    | cons t rest => exact ⟨t, rfl, hnext⟩
  · cases hfound
    cases h

section

variable (k : Knot) (statement : Reader (List Statement))

/-- Whatever comes between the word and the body of a class, the class stands where the word does. -/
theorem places_classAfter (decorators : List Expr) :
    Places (classAfter k statement decorators) ([·]) := by
  intro s a rest h
  unfold classAfter at h
  obtain ⟨position, start, hhere, h⟩ := exists_of_run_bind _ _ _ _ _ h
  cases hhere
  obtain ⟨⟨⟩, mid, hword, h⟩ := exists_of_run_bind _ _ _ _ _ h
  obtain ⟨t, rfl, hlexeme⟩ := exists_of_run_word "class" _ _ hword
  obtain ⟨read, hsuffix⟩ := Reader.suffix _ _ _ _ h
  have hrecord : a.record?.map (·.position) = some t.position := by
    refine gives_bind (fun a : Statement => a.record?.map (·.position) = some t.position) _ _
      (fun name => gives_bind _ _ _ fun bracket => ?_) mid a rest h
    have hbody : Gives (do
        let body ← block k statement
        return Statement.record ⟨name.text, t.position, decorators,
          body.filterMap Statement.field?, name.isName⟩)
        fun a => a.record?.map (·.position) = some t.position :=
      gives_bind _ _ _ fun _ => gives_pure _ _ rfl
    split
    · refine gives_bind _ _ _ fun closed => ?_
      split
      · exact gives_bind _ _ _ fun _ => hbody
      · exact hbody
    · exact hbody
  obtain ⟨d, hd, hposition⟩ := Option.map_eq_some_iff.mp hrecord
  exact ⟨t :: read, by rw [List.cons_append, hsuffix], [t], by simp, by simpa using hlexeme,
    by simp [hd, hposition]⟩

theorem places_definition : Places (definition k statement) ([·]) := by
  unfold definition
  refine places_bind _ _ _ fun decorators => places_bind _ _ _ fun position =>
    places_bind _ _ _ fun lexeme => ?_
  have hother : ∀ r : Reader Unit, Places (do r; return Statement.other position) ([·]) :=
    fun r => places_bind _ _ _ fun _ => places_of_gives _ _ (gives_pure _ _ rfl)
  split
  · exact places_classAfter k statement decorators
  · exact places_bind _ _ _ fun _ => hother _
  · exact hother _

theorem places_statementOf : Places (statementOf k statement) id := by
  unfold statementOf
  refine places_bind _ _ _ fun position => ?_
  have hother : ∀ r : Reader Unit, Places (do r; return [Statement.other position]) id :=
    fun r => places_bind _ _ _ fun _ => places_of_gives _ _ (gives_pure _ _ rfl)
  have hafter : ∀ r : Reader Unit, Places (do advance; r; return [Statement.other position]) id :=
    fun r => places_bind _ _ _ fun _ => hother r
  have hline : Places (simpleLine k k.fuel) id := places_of_gives _ _ (gives_simpleLine k k.fuel)
  refine places_bind _ _ _ fun lexeme => ?_
  split
  · exact hafter _
  · exact hafter _
  · exact hafter _
  · exact hafter _
  · exact hafter _
  · exact places_bind_pure _ _ _ _ (fun _ => rfl) (places_definition k statement)
  · exact places_bind_pure _ _ _ _ (fun _ => rfl) (places_definition k statement)
  · exact places_bind_pure _ _ _ _ (fun _ => rfl) (places_definition k statement)
  · exact hother _
  · refine places_bind _ _ _ fun header => ?_
    split
    · exact hother _
    · exact hline
  · exact hline

theorem places_statementsUntil (h : Places statement id) (last : Lexeme) (fuel : Nat) :
    Places (statementsUntil statement last fuel) id := by
  induction fuel with
  | zero => exact fun s a rest h => nomatch h
  | succ fuel ih =>
    intro s l rest hread
    unfold statementsUntil at hread
    obtain ⟨first, mid, hfirst, hnext⟩ := exists_of_run_bind _ _ _ _ _ hread
    obtain ⟨lexeme, start, hpeek, hend⟩ := exists_of_run_bind _ _ _ _ _ hnext
    cases hpeek
    obtain ⟨read, hs, hplaced⟩ := h _ _ _ hfirst
    split at hend
    · cases hend
      exact ⟨read, hs, hplaced⟩
    · obtain ⟨later, mid', hlater, hend⟩ := exists_of_run_bind _ _ _ _ _ hend
      cases hend
      obtain ⟨read', hmid, hplaced'⟩ := ih _ _ _ hlater
      exact ⟨read ++ read', by rw [List.append_assoc, hmid, hs], hplaced.append hplaced'⟩

end

theorem places_statement (names : Escapes.CharacterNames) (fuel : Nat) :
    Places (statement names fuel) id := by
  cases fuel with
  | zero => exact fun s a rest h => nomatch h
  | succ fuel => exact places_statementOf (knot names fuel) (statement names fuel)

theorem places_wholeModule (names : Escapes.CharacterNames) (fuel : Nat) :
    Places (wholeModule names fuel) id := by
  unfold wholeModule
  refine places_bind _ _ _ fun ends => ?_
  split
  · exact places_of_gives _ _ (gives_pure _ _ rfl)
  · exact places_statementsUntil _ (places_statement names fuel) _ _

end Grammar

/-- The classes of a module stand one after the other. -/
theorem before_of_parseModule? (names : Escapes.CharacterNames) (source : String)
    (statements : List Statement) (h : parseModule? names source = some statements) :
    (statements.filterMap Statement.record?).Pairwise fun c d => c.position.Before d.position := by
  unfold parseModule? at h
  dsimp only at h
  obtain ⟨tokens, htokens, h⟩ := Option.bind_eq_some_iff.mp h
  obtain ⟨⟨body, rest⟩, hread, h⟩ := Option.bind_eq_some_iff.mp h
  cases h
  obtain ⟨read, rfl, words, hsub, hwords, hpositions⟩ := Grammar.places_wholeModule _ _ _ _ _ hread
  have hordered := (Lexer.ordered_tokens _ _ htokens).sublist
    (hsub.trans (List.sublist_append_left read rest))
  have hbefore : (words.map (·.position)).Pairwise Position.Before := by
    rw [List.pairwise_map]
    exact hordered.imp_of_mem fun ht _ hfollows => hfollows ⟨"class", hwords _ ht⟩
  rw [← hpositions, List.pairwise_map] at hbefore
  exact hbefore

end Crosswalk.Code

import EntityMapper.Proofs.Pattern.Sealing
import EntityMapper.Proofs.Sql.Lexemes
import EntityMapper.Proofs.Text.CodePoints
import EntityMapper.Sql.Token

/-!
# Where words end

The lexemes that words are read from end where no word of the text goes on, whichever rule they
come from.
-/

namespace EntityMapper.Sql

open Pattern

/-- If the rule yields words then its pattern ends at sealed places. -/
def LexicalRule.KeepsWords (rule : LexicalRule) : Prop :=
  ∀ cs, (rule.kind cs).isWordLike = true → Seals rule.pattern

/-- A rule whose kind is not word-like yields no words. -/
theorem keepsWords_always {kind : LexemeKind} (h : kind.isWordLike = false) (p : Pattern) :
    (always kind p).KeepsWords := by
  intro cs hk
  exact absurd hk (by simp [always, h])

/-- A rule whose pattern ends at sealed places keeps words, whatever its kind. -/
theorem keepsWords_of_seals {p : Pattern} (h : Seals p) (kind : List Char → LexemeKind) :
    LexicalRule.KeepsWords ⟨p, kind⟩ :=
  fun _ _ => h

/-- A mark that is no letter of ASCII is no part of a word. -/
theorem seals_mark {q : Char} (hq : q.toNat < 128 ∧ q.isAlpha = false ∧ Text.isWord q = false) :
    Seals (letter q) := by
  apply seals_one
  intro c hc
  rw [Text.sameLetter_of_not_alpha hq.1 hq.2.1, beq_iff_eq] at hc
  exact hc ▸ hq.2.2

/-- The acute accent is no part of a word in any case. -/
theorem seals_acute : Seals (letter '´') := by
  apply seals_one
  intro c hc
  have hlatin : ∀ c : Char, c.toNat < 256 → Text.sameLetter '´' c = true →
      Text.isWord c = false := fun c h =>
    Text.forall_below (P := fun c => Text.sameLetter '´' c = true → Text.isWord c = false)
      (by decide +kernel) h
  by_cases h : c.toNat < 256
  · exact hlatin c h hc
  · have hsame : '´' = Text.fold c := beq_iff_eq.mp hc
    have hfold := Text.fold_of_not_latin h
    rw [← hsame] at hfold
    rcases hfold with hmem | rfl
    · exact absurd hmem (by decide)
    · exact absurd h (by decide)

/-- No rule that yields words ends inside a word. -/
theorem keepsWords_rules : ∀ rule ∈ rules, rule.KeepsWords := by
  have hword : ∀ c, Text.isWord c = true → Text.isWord c = true := fun _ h => h
  unfold rules
  simp only [List.forall_mem_cons]
  repeat' first
    | apply And.intro
    | exact keepsWords_always rfl _
    | exact keepsWords_of_seals (seals_wordEdge.append _) _
    | exact keepsWords_of_seals (seals_phrase _) _
    | exact keepsWords_of_seals ((seals_zeroOrMore hword).append _) _
    | exact keepsWords_of_seals ((seals_oneOrMore hword).append _) _
    | exact keepsWords_of_seals (seals_acute.append _) _
    | exact keepsWords_of_seals ((seals_mark (by decide)).append _) _
  · refine keepsWords_of_seals ((seals_ahead rfl fun c hc => ?_).append _) _
    change ((Text.isSpace c || (true && Text.sameLetter '.' c)) || (true && false && false)) =
      true at hc
    rw [Bool.true_and, Bool.true_and, Bool.and_false, Bool.or_false, Bool.or_eq_true] at hc
    rcases hc with hc | hc
    · exact Text.isWord_of_isSpace hc
    · rw [← beq_iff_eq.mp ((Text.sameLetter_of_not_alpha (by decide) rfl c).symm.trans hc)]
      rfl
  · refine keepsWords_of_seals ((seals_ahead rfl fun c hc => ?_).append _) _
    rw [← beq_iff_eq.mp ((Text.sameLetter_of_not_alpha (by decide) rfl c).symm.trans hc)]
    rfl
  · exact keepsWords_of_seals ((seals_zeroOrMore fun c hc => by simp [hc]).append _) _
  · exact fun _ h => absurd h List.not_mem_nil

/-- A lexeme that is read as words ends at a sealed place. -/
theorem sealed_of_isWordLike [DelimiterForm] {s : Cursor} (h : (lexeme s).1.isWordLike = true) :
    (s.advance (lexeme s).2).Sealed := by
  rcases lexeme_cases s with hkind | hkind | hcomment | ⟨rule, hrule, n, hn, hlexeme⟩
  · rw [hkind] at h
    cases h
  · rw [hkind] at h
    cases h
  · rcases hcomment with ⟨hkind, -⟩
    rcases hkind with hkind | hkind
    · rw [hkind] at h
      cases h
    · rw [hkind] at h
      cases h
  · rw [hlexeme] at h ⊢
    exact keepsWords_rules rule hrule _ h _ _ (exists_end_of_length? hn)

end EntityMapper.Sql

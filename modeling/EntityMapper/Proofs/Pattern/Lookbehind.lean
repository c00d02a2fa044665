import EntityMapper.Proofs.Pattern.Beginnings

/-!
# What a match hangs on in front of it

Of the text in front of a place a pattern sees the last character only, and that only where it tests
it before it has taken some text. Two characters that all these tests treat alike may be exchanged.
-/

namespace EntityMapper.Pattern

variable {α : Type} {before before' : Option Char} {rest : List Char} {k : Cursor → Option α}

/-- Whether a pattern tests two characters in front of the place where it begins alike. -/
def testsAlike (before before' : Option Char) : Pattern → Bool
  | .followedBy p q => testsAlike before before' p && (!maySkip p || testsAlike before before' q)
  | .orElse p q => testsAlike before before' p && testsAlike before before' q
  | .repeated _ p | .ahead p => testsAlike before before' p
  | .behind test => test before == test before'
  | .wordEdge => before.any Text.isWord == before'.any Text.isWord
  | _ => true

/-- A run does not hang on the character in front of it where the pattern tests both alike and what
comes next, unless the pattern has taken some text, does not hang on it either. -/
theorem run_of_testsAlike {p : Pattern} (h : p.testsAlike before before' = true)
    (hk : p.maySkip = true → k ⟨before, rest⟩ = k ⟨before', rest⟩) :
    p.run ⟨before, rest⟩ k = p.run ⟨before', rest⟩ k := by
  induction p generalizing k with
  | empty => exact hk rfl
  | one accepts => cases rest <;> rfl
  | followedBy p q ihp ihq =>
    rw [testsAlike, Bool.and_eq_true] at h
    refine ihp h.1 fun hskip => ihq ?_ fun hskip' => hk ?_
    · simpa [hskip] using h.2
    · simp [maySkip, hskip, hskip']
  | orElse p q ihp ihq =>
    rw [testsAlike, Bool.and_eq_true] at h
    have hfirst := ihp h.1 fun hskip => hk (by simp [maySkip, hskip])
    have hsecond := ihq h.2 fun hskip => hk (by simp [maySkip, hskip])
    rw [run, run, hfirst, hsecond]
  | many appetite accepts =>
    have hhere := hk rfl
    cases appetite with
    | greedy =>
      rw [run, run]
      cases rest with
      | nil => exact hhere
      | cons c cs => rw [manyGreedy, manyGreedy, hhere]
    | reluctant =>
      rw [run, run]
      cases rest with
      | nil => exact hhere
      | cons c cs => rw [manyReluctant, manyReluctant, hhere]
  | repeated appetite p ih =>
    have hhere := hk rfl
    rw [run, run]
    dsimp only
    cases rest.length with
    | zero => exact hhere
    | succ n =>
      have hround := ih (k := fun t =>
        if t.rest.length < rest.length then rounds appetite (run p) k n t else none) h fun _ => by
          rw [if_neg (Nat.lt_irrefl _), if_neg (Nat.lt_irrefl _)]
      cases appetite with
      | greedy =>
        rw [rounds, rounds]
        dsimp only
        rw [hround, hhere]
      | reluctant =>
        rw [rounds, rounds]
        dsimp only
        rw [hround, hhere]
  | ahead p ih =>
    rw [run, run, hk rfl]
    exact ih h fun _ => rfl
  | next test =>
    rw [run, run, hk rfl]
  | behind test =>
    rw [run, run, hk rfl, beq_iff_eq.mp h]
  | wordEdge =>
    rw [run, run, hk rfl, Cursor.isWordEdge, Cursor.isWordEdge, beq_iff_eq.mp h]
  | lineEnd =>
    rw [run, run, hk rfl]
    rfl

/-- What a pattern takes does not hang on the character in front of it where the pattern tests both
alike. -/
theorem length?_of_testsAlike {p : Pattern} (h : p.testsAlike before before' = true)
    (rest : List Char) : p.length? ⟨before, rest⟩ = p.length? ⟨before', rest⟩ :=
  run_of_testsAlike h fun _ => rfl

end EntityMapper.Pattern

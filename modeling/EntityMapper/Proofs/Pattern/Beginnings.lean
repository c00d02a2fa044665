import EntityMapper.Proofs.Pattern.Ends

/-!
# How a match can begin

Two estimates that are read off a pattern: whether it may match nothing, and whether it may take a
text that begins with a given character. A pattern that must take some text does not match where
the next character is not one that it may begin with.
-/

namespace EntityMapper.Pattern

/-- Whether a pattern may match the empty text. -/
def maySkip : Pattern → Bool
  | .one _ => false
  | .followedBy p q => maySkip p && maySkip q
  | .orElse p q => maySkip p || maySkip q
  | _ => true

/-- Whether a pattern may take a text that begins with the given character. -/
def mayTake (c : Char) : Pattern → Bool
  | .one accepts => accepts c
  | .followedBy p q => mayTake c p || (maySkip p && mayTake c q)
  | .orElse p q => mayTake c p || mayTake c q
  | .many _ accepts => accepts c
  | .repeated _ p => mayTake c p
  | _ => false

/-- A match either takes nothing, or takes a text that begins with a character that the pattern may
begin with. -/
theorem Ends.beginning {p : Pattern} {s t : Cursor} (h : Ends p s t) :
    (t = s ∧ p.maySkip = true) ∨ ∃ c cs, s.rest = c :: cs ∧ p.mayTake c = true := by
  induction p generalizing s t with
  | empty => exact .inl ⟨h, rfl⟩
  | one accepts =>
    obtain ⟨c, hc, hrest, -⟩ := h
    exact .inr ⟨c, t.rest, hrest, hc⟩
  | followedBy p q ihp ihq =>
    obtain ⟨m, hp, hq⟩ := h
    obtain ⟨rfl, hskip⟩ | ⟨c, cs, hrest, hc⟩ := ihp hp
    · obtain ⟨rfl, hskip'⟩ | ⟨c, cs, hrest, hc⟩ := ihq hq
      · exact .inl ⟨rfl, by simp [maySkip, hskip, hskip']⟩
      · exact .inr ⟨c, cs, hrest, by simp [mayTake, hskip, hc]⟩
    · exact .inr ⟨c, cs, hrest, by simp [mayTake, hc]⟩
  | orElse p q ihp ihq =>
    obtain hp | hq := h
    · obtain ⟨ht, hskip⟩ | ⟨c, cs, hrest, hc⟩ := ihp hp
      · exact .inl ⟨ht, by simp [maySkip, hskip]⟩
      · exact .inr ⟨c, cs, hrest, by simp [mayTake, hc]⟩
    · obtain ⟨ht, hskip⟩ | ⟨c, cs, hrest, hc⟩ := ihq hq
      · exact .inl ⟨ht, by simp [maySkip, hskip]⟩
      · exact .inr ⟨c, cs, hrest, by simp [mayTake, hc]⟩
  | many appetite accepts =>
    cases h using Relation.ReflTransGen.head_induction_on with
    | refl => exact .inl ⟨rfl, rfl⟩
    | head hs _ =>
      obtain ⟨c, hc, hrest, -⟩ := hs
      exact .inr ⟨c, _, hrest, hc⟩
  | repeated appetite p ihp =>
    cases h using Relation.ReflTransGen.head_induction_on with
    | refl => exact .inl ⟨rfl, rfl⟩
    | head hs _ =>
      obtain ⟨rfl, -⟩ | ⟨c, cs, hrest, hc⟩ := ihp hs.1
      · exact absurd hs.2 (Nat.lt_irrefl _)
      · exact .inr ⟨c, cs, hrest, hc⟩
  | ahead | next | behind | wordEdge | lineEnd => exact .inl ⟨h.1, rfl⟩

/-- A pattern that must take some text fails before a character that it cannot begin with. -/
theorem run_eq_none_of_first {α : Type} {p : Pattern} (hskip : p.maySkip = false) {c : Char}
    (hc : p.mayTake c = false) (before : Option Char) (cs : List Char) (k : Cursor → Option α) :
    p.run ⟨before, c :: cs⟩ k = none := by
  cases hr : p.run ⟨before, c :: cs⟩ k with
  | none => rfl
  | some a =>
    obtain ⟨t, ht, -⟩ := run_sound hr
    obtain ⟨-, h⟩ | ⟨d, ds, hrest, hd⟩ := ht.beginning
    · rw [hskip] at h
      cases h
    · obtain ⟨rfl, -⟩ := List.cons_eq_cons.mp hrest
      rw [hc] at hd
      cases hd

/-- A match of a pattern that must take some text ends further on. -/
theorem Ends.shorter {p : Pattern} (hskip : p.maySkip = false) {s t : Cursor} (h : Ends p s t) :
    t.rest.length < s.rest.length := by
  induction p generalizing s t with
  | one accepts =>
    obtain ⟨c, -, hrest, -⟩ := h
    rw [hrest, List.length_cons]
    exact Nat.lt_succ_self _
  | followedBy p q ihp ihq =>
    obtain ⟨m, hp, hq⟩ := h
    have hlep := hp.reaches.eq_advance.2
    have hleq := hq.reaches.eq_advance.2
    rw [maySkip, Bool.and_eq_false_iff] at hskip
    rcases hskip with hskip | hskip
    · have := ihp hskip hp
      omega
    · have := ihq hskip hq
      omega
  | orElse p q ihp ihq =>
    rw [maySkip, Bool.or_eq_false_iff] at hskip
    rcases h with hp | hq
    · exact ihp hskip.1 hp
    · exact ihq hskip.2 hq
  | empty | many | repeated | ahead | next | behind | wordEdge | lineEnd => cases hskip

end EntityMapper.Pattern

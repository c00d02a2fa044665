import EntityMapper.Proofs.Pattern.Beginnings

/-!
# Matches that end where a word ends

A place is sealed if no word goes on across it. The match that a pattern prefers ends at a sealed
place if the pattern ends in the edge of a word, in as many word characters as there are, or in a
character or before one that belongs to no word.
-/

namespace EntityMapper

/-- No word goes on across the place. -/
def Cursor.Sealed (s : Cursor) : Prop :=
  s.before.any Text.isWord = true → s.rest.head?.any Text.isWord = false

namespace Pattern

variable {α β : Type}

/-! ## The preferred end -/

/-- What is made of the outcome of a greedy row can be made by its continuation. -/
theorem manyGreedy_map (f : α → β) (accepts : Char → Bool) (k : Cursor → Option α)
    (before : Option Char) (cs : List Char) :
    manyGreedy accepts (fun t => (k t).map f) before cs =
      (manyGreedy accepts k before cs).map f := by
  induction cs generalizing before with
  | nil => rfl
  | cons c cs ih =>
    rw [manyGreedy, manyGreedy, ih]
    split
    · cases manyGreedy accepts k (some c) cs <;> rfl
    · rfl

/-- What is made of the outcome of a reluctant row can be made by its continuation. -/
theorem manyReluctant_map (f : α → β) (accepts : Char → Bool) (k : Cursor → Option α)
    (before : Option Char) (cs : List Char) :
    manyReluctant accepts (fun t => (k t).map f) before cs =
      (manyReluctant accepts k before cs).map f := by
  induction cs generalizing before with
  | nil => rfl
  | cons c cs ih =>
    rw [manyReluctant, manyReluctant, ih]
    cases k ⟨before, c :: cs⟩ with
    | some a => rfl
    | none => split <;> rfl

/-- What is made of the outcome of rounds can be made by their continuation. -/
theorem rounds_map (f : α → β) (appetite : Appetite)
    {step : Cursor → (Cursor → Option α) → Option α}
    {step' : Cursor → (Cursor → Option β) → Option β}
    (hstep : ∀ s k, step' s (fun t => (k t).map f) = (step s k).map f) (k : Cursor → Option α)
    (n : Nat) (s : Cursor) :
    rounds appetite step' (fun t => (k t).map f) n s = (rounds appetite step k n s).map f := by
  induction n generalizing s with
  | zero => rfl
  | succ n ih =>
    have hfurther : (step' s fun t => if t.rest.length < s.rest.length then
        rounds appetite step' (fun t => (k t).map f) n t else none) =
          (step s fun t => if t.rest.length < s.rest.length then
            rounds appetite step k n t else none).map f := by
      rw [← hstep]
      congr 1
      ext1 t
      split
      · exact ih t
      · rfl
    cases appetite with
    | greedy =>
      rw [rounds, rounds, hfurther]
      cases step s fun t => if t.rest.length < s.rest.length then
        rounds .greedy step k n t else none <;> rfl
    | reluctant =>
      rw [rounds, rounds, hfurther]
      cases k s <;> rfl

/-- What is made of the outcome of a run can be made by its continuation. -/
theorem run_map (f : α → β) (p : Pattern) (s : Cursor) (k : Cursor → Option α) :
    p.run s (fun t => (k t).map f) = (p.run s k).map f := by
  induction p generalizing s k with
  | empty => rfl
  | one accepts =>
    obtain ⟨before, rest⟩ := s
    cases rest with
    | nil => rfl
    | cons c cs =>
      rw [run, run]
      split <;> rfl
  | followedBy p q ihp ihq =>
    rw [run, run, ← ihp]
    congr 1
    ext1 t
    exact ihq t k
  | orElse p q ihp ihq =>
    rw [run, run, ihp, ihq]
    cases p.run s k <;> rfl
  | many appetite accepts =>
    cases appetite with
    | greedy => exact manyGreedy_map f accepts k s.before s.rest
    | reluctant => exact manyReluctant_map f accepts k s.before s.rest
  | repeated appetite p ihp => exact rounds_map f appetite ihp k s.rest.length s
  | ahead p ihp => exact ihp s fun _ => k s
  | next test | behind test | wordEdge | lineEnd =>
    rw [run, run]
    split <;> rfl

/-- A match has the length that leads to the preferred end. -/
theorem exists_end_of_length? {p : Pattern} {s : Cursor} {n : Nat} (h : p.length? s = some n) :
    p.run s some = some (s.advance n) := by
  have hmap := run_map (fun t : Cursor => s.rest.length - t.rest.length) p s some
  change p.length? s = _ at hmap
  rw [h] at hmap
  obtain ⟨t, ht, hn⟩ := Option.map_eq_some_iff.mp hmap.symm
  obtain ⟨u, hu, hk⟩ := run_sound ht
  obtain rfl := Option.some.inj hk
  rw [ht, ← hn, ← hu.reaches.eq_advance.1]

/-! ## Patterns whose preferred end is sealed -/

/-- The preferred end of the pattern is sealed at every place. -/
def Seals (p : Pattern) : Prop :=
  ∀ s t, p.run s some = some t → t.Sealed

/-- A sequence ends where its second part does. -/
theorem Seals.append {q : Pattern} (hq : Seals q) (p : Pattern) : Seals (p ++ q) := by
  intro s t h
  obtain ⟨m, -, hm⟩ := run_sound (p := p) (k := fun t => q.run t some) h
  exact hq m t hm

/-- No word goes on across its edge. -/
theorem seals_wordEdge : Seals wordEdge := by
  intro s t h
  rw [run] at h
  split at h
  · rename_i hedge
    obtain rfl := Option.some.inj h
    intro hbefore
    rw [Cursor.isWordEdge, hbefore] at hedge
    simpa using hedge
  · cases h

/-- A greedy row ends in front of a character that it does not accept. -/
theorem manyGreedy_head {accepts : Char → Bool} {before : Option Char} {cs : List Char}
    {t : Cursor} (h : manyGreedy accepts some before cs = some t) :
    t.rest.head?.any accepts = false := by
  induction cs generalizing before with
  | nil =>
    obtain rfl := Option.some.inj h
    rfl
  | cons c cs ih =>
    rw [manyGreedy] at h
    split at h
    · cases hr : manyGreedy accepts some (some c) cs with
      | none =>
        have := manyGreedy_complete (k := some) (.refl : Relation.ReflTransGen (Takes accepts)
          ⟨some c, cs⟩ ⟨some c, cs⟩) rfl
        rw [hr] at this
        cases this
      | some u =>
        rw [hr] at h
        obtain rfl := Option.some.inj h
        exact ih hr
    · rename_i hc
      obtain rfl := Option.some.inj h
      simpa using hc

/-- As many word characters as there are end with the word. -/
theorem seals_zeroOrMore {accepts : Char → Bool}
    (h : ∀ c, Text.isWord c = true → accepts c = true) : Seals (zeroOrMore accepts) := by
  intro s t ht _
  have hhead : t.rest.head?.any accepts = false := manyGreedy_head ht
  cases hrest : t.rest.head? with
  | none => rfl
  | some c =>
    rw [hrest, Option.any_some] at hhead
    cases hc : Text.isWord c with
    | false => simpa using hc
    | true => exact absurd (h c hc) (by simp [hhead])

theorem seals_oneOrMore {accepts : Char → Bool}
    (h : ∀ c, Text.isWord c = true → accepts c = true) : Seals (oneOrMore accepts) :=
  (seals_zeroOrMore h).append _

/-- A place in front of something that begins with no word character is sealed. -/
theorem seals_ahead {q : Pattern} (hskip : q.maySkip = false)
    (hq : ∀ c, q.mayTake c = true → Text.isWord c = false) : Seals (ahead q) := by
  intro s t h _
  obtain ⟨m, hm, hk⟩ := run_sound (p := q) (k := fun _ => some s) h
  obtain rfl := Option.some.inj hk
  rcases hm.beginning with ⟨-, h⟩ | ⟨c, cs, hrest, hc⟩
  · rw [hskip] at h
    cases h
  · rw [hrest]
    exact hq c hc

/-- The place behind a character that belongs to no word is sealed. -/
theorem seals_one {accepts : Char → Bool}
    (h : ∀ c, accepts c = true → Text.isWord c = false) : Seals (one accepts) := by
  intro s t ht hbefore
  obtain ⟨u, ⟨c, hc, -, hu⟩, hk⟩ := run_sound ht
  obtain rfl := Option.some.inj hk
  rw [hu, Option.any_some, h c hc] at hbefore
  cases hbefore

/-- A phrase ends at the edge of a word. -/
theorem seals_phrase (words : List String) : Seals (phrase words) := by
  induction words with
  | nil => exact seals_wordEdge
  | cons word words ih =>
    cases words with
    | nil => exact seals_wordEdge.append _
    | cons next words => exact ih.append _

end Pattern

end EntityMapper

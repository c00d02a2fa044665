import EntityMapper.Proofs.Pattern.Glimpse

/-!
# Patterns that halt at a mark

Whether a run goes past a mark is read off a pattern, where only characters of a given list stand in
front of the mark. What a pattern does that halts there is settled by the text up to the mark.
-/

namespace EntityMapper

/-- A place with a mark ahead and only listed characters in front of it. -/
def Cursor.Faces (cs : List Char) (m : Char) (s : Cursor) : Prop :=
  ∃ xs ys, (∀ c ∈ xs, c ∈ cs) ∧ s.rest = xs ++ m :: ys

/-- The place stands at the mark, or at a listed character with the mark further on. -/
theorem Cursor.Faces.cases {cs : List Char} {m : Char} {before : Option Char} {rest : List Char}
    (h : Faces cs m ⟨before, rest⟩) :
    (∃ ys, rest = m :: ys) ∨
      ∃ c rest', rest = c :: rest' ∧ c ∈ cs ∧ ∀ before', Faces cs m ⟨before', rest'⟩ := by
  obtain ⟨xs, ys, hxs, rfl⟩ := h
  cases xs with
  | nil => exact .inl ⟨ys, rfl⟩
  | cons c xs =>
    rw [List.forall_mem_cons] at hxs
    exact .inr ⟨c, xs ++ m :: ys, rfl, hxs.1, fun _ => ⟨xs, ys, hxs.2, rfl⟩⟩

/-- A mark ahead means that the text goes on. -/
theorem Cursor.Faces.ne_nil {cs : List Char} {m : Char} {s : Cursor} (h : s.Faces cs m) :
    s.rest ≠ [] := by
  obtain ⟨xs, ys, -, hrest⟩ := h
  rw [hrest]
  simp

namespace Pattern

/-- Whether a run may get through a pattern where the characters ahead are among the given ones. -/
def mayPass (cs : List Char) : Pattern → Bool
  | .one accepts => cs.any accepts
  | .followedBy p q => mayPass cs p && mayPass cs q
  | .orElse p q => mayPass cs p || mayPass cs q
  | .ahead p => mayPass cs p
  | _ => true

/-- Whether no run of a pattern takes the mark behind characters of the given list, or takes it as
its last character at most, if that is allowed. -/
def halts (cs : List Char) (m : Char) : Bool → Pattern → Bool
  | _, .empty => true
  | last, .one accepts => last || !accepts m
  | last, .followedBy p q => halts cs m false p && (!mayPass (m :: cs) p || halts cs m last q)
  | last, .orElse p q => halts cs m last p && halts cs m last q
  | _, .many _ accepts => !accepts m
  | _, .repeated _ p => halts cs m false p
  | _, .ahead p => halts cs m true p
  | _, .lineEnd => false
  | _, _ => true

variable {α : Type} {cs : List Char} {m : Char}

/-- A property of outcomes that failure has, and the better of two outcomes that have it. -/
structure Glimpse.Kept (P : Glimpse α → Prop) : Prop where
  fail : P (some none)
  orTry : ∀ {first second}, P first → P second → P (first.orTry second)

/-- An outcome is settled, and its result, if it is one, has a property. -/
def Glimpse.SettledBy (Q : α → Prop) (outcome : Glimpse α) : Prop :=
  ∃ a, outcome = some a ∧ ∀ b ∈ a, Q b

/-- Settled outcomes lead to settled ones. -/
theorem Glimpse.kept_settledBy (Q : α → Prop) : Kept (SettledBy Q) where
  fail := ⟨none, rfl, nofun⟩
  orTry {first second} hfirst hsecond := by
    obtain ⟨_ | b, rfl, hfirst⟩ := hfirst
    · exact hsecond
    · exact ⟨some b, rfl, hfirst⟩

/-- Failure leads to failure. -/
theorem Glimpse.kept_eq_fail : Kept fun outcome : Glimpse α => outcome = some none where
  fail := rfl
  orTry hfirst hsecond := by
    subst hfirst
    exact hsecond

section

variable {P : Glimpse α → Prop} (hP : Glimpse.Kept P) {accepts : Char → Bool}
  {k : Cursor → Glimpse α}

include hP

/-- A greedy row of characters that excludes the mark ends in front of it. -/
theorem glimpseGreedy_of_faces (hm : accepts m = false) (hk : ∀ t, t.Faces cs m → P (k t))
    {before : Option Char} {rest : List Char} (h : Cursor.Faces cs m ⟨before, rest⟩) :
    P (glimpseGreedy accepts k before rest) := by
  induction rest generalizing before with
  | nil => exact absurd rfl h.ne_nil
  | cons c rest ih =>
    rw [glimpseGreedy]
    obtain ⟨ys, hmark⟩ | ⟨d, rest', hcons, -, hrest⟩ := h.cases
    · obtain ⟨rfl, rfl⟩ := List.cons_eq_cons.mp hmark
      rw [if_neg (by simp [hm])]
      exact hk _ h
    · obtain ⟨rfl, rfl⟩ := List.cons_eq_cons.mp hcons
      split
      · exact hP.orTry (ih (hrest _)) (hk _ h)
      · exact hk _ h

/-- A reluctant row of characters that excludes the mark ends in front of it. -/
theorem glimpseReluctant_of_faces (hm : accepts m = false) (hk : ∀ t, t.Faces cs m → P (k t))
    {before : Option Char} {rest : List Char} (h : Cursor.Faces cs m ⟨before, rest⟩) :
    P (glimpseReluctant accepts k before rest) := by
  induction rest generalizing before with
  | nil => exact absurd rfl h.ne_nil
  | cons c rest ih =>
    rw [glimpseReluctant]
    refine hP.orTry (hk _ h) ?_
    obtain ⟨ys, hmark⟩ | ⟨d, rest', hcons, -, hrest⟩ := h.cases
    · obtain ⟨rfl, rfl⟩ := List.cons_eq_cons.mp hmark
      rw [if_neg (by simp [hm])]
      exact hP.fail
    · obtain ⟨rfl, rfl⟩ := List.cons_eq_cons.mp hcons
      split
      · exact ih (hrest _)
      · exact hP.fail

/-- Rounds of a step that halts end in front of the mark. -/
theorem glimpseRounds_of_faces {appetite : Appetite}
    {step : Cursor → (Cursor → Glimpse α) → Glimpse α}
    (hstep : ∀ {s k}, s.Faces cs m → (∀ t, t.Faces cs m → P (k t)) → P (step s k))
    (hk : ∀ t, t.Faces cs m → P (k t)) {n : Nat} {s : Cursor} (hn : s.rest.length ≤ n)
    (h : s.Faces cs m) : P (glimpseRounds appetite step k n s) := by
  induction n generalizing s with
  | zero => exact absurd (List.eq_nil_of_length_eq_zero (Nat.le_zero.mp hn)) h.ne_nil
  | succ n ih =>
    have hfurther : P (step s fun t => if t.rest.length < s.rest.length then
        glimpseRounds appetite step k n t else some none) := by
      refine hstep h fun t ht => ?_
      split
      · exact ih (by omega) ht
      · exact hP.fail
    cases appetite with
    | greedy => exact hP.orTry hfurther (hk s h)
    | reluctant => exact hP.orTry (hk s h) hfurther

/-- A pattern that halts at a mark ahead has an outcome of a kind if what follows has, where the
pattern can be got through. -/
theorem glimpse_of_halts {p : Pattern} {last : Bool} (h : p.halts cs m last = true) {s : Cursor}
    (hs : s.Faces cs m)
    (hk : p.mayPass (m :: cs) = true → ∀ t, last = true ∨ t.Faces cs m → P (k t)) :
    P (p.glimpse s k) := by
  induction p generalizing last s k with
  | empty => exact hk rfl s (.inr hs)
  | followedBy p q ihp ihq =>
    rw [halts, Bool.and_eq_true, Bool.or_eq_true, Bool.not_eq_true'] at h
    refine ihp h.1 hs fun hpass t ht => ?_
    have hq := h.2.resolve_left (by simp [hpass])
    refine ihq hq (ht.resolve_left Bool.false_ne_true) fun hpass' => hk ?_
    rw [mayPass, hpass, hpass', Bool.and_self]
  | orElse p q ihp ihq =>
    rw [halts, Bool.and_eq_true] at h
    refine hP.orTry (ihp h.1 hs fun hpass => hk ?_) (ihq h.2 hs fun hpass => hk ?_)
    · rw [mayPass, hpass, Bool.true_or]
    · rw [mayPass, hpass, Bool.or_true]
  | many appetite accepts =>
    have hm : accepts m = false := by simpa [halts] using h
    have hfaces : ∀ t : Cursor, t.Faces cs m → P (k t) := fun t ht => hk rfl t (.inr ht)
    cases appetite with
    | greedy => exact glimpseGreedy_of_faces hP hm hfaces hs
    | reluctant => exact glimpseReluctant_of_faces hP hm hfaces hs
  | repeated appetite p ihp =>
    refine glimpseRounds_of_faces hP (fun hfaces hk' => ?_) (fun t ht => hk rfl t (.inr ht))
      (Nat.le_refl _) hs
    exact ihp h hfaces fun _ t ht => hk' t (ht.resolve_left Bool.false_ne_true)
  | ahead p ihp => exact ihp h hs fun hpass _ _ => hk hpass s (.inr hs)
  | behind test =>
    rw [glimpse]
    split
    · exact hk rfl s (.inr hs)
    · exact hP.fail
  | one accepts =>
    obtain ⟨before, rest⟩ := s
    obtain ⟨ys, rfl⟩ | ⟨c, rest, rfl, hc, hrest⟩ := hs.cases
    · rw [glimpse]
      split
      · rename_i hm
        rw [halts, hm, Bool.not_true, Bool.or_false] at h
        exact hk (by simp [mayPass, hm]) _ (.inl h)
      · exact hP.fail
    · rw [glimpse]
      split
      · rename_i haccepts
        refine hk ?_ _ (.inr (hrest _))
        exact List.any_eq_true.mpr ⟨c, List.mem_cons_of_mem m hc, haccepts⟩
      · exact hP.fail
  | next | wordEdge =>
    obtain ⟨before, rest⟩ := s
    obtain ⟨c, rest, rfl⟩ := List.exists_cons_of_ne_nil hs.ne_nil
    rw [glimpse]
    split
    · exact hk rfl _ (.inr hs)
    · exact hP.fail
  | lineEnd => cases h

end

/-- The length that a pattern takes is settled if it halts at a mark ahead. -/
theorem settledBy_of_halts {p : Pattern} (h : p.halts cs m true = true) {s : Cursor}
    (hs : s.Faces cs m) :
    (p.glimpse s fun t => some (some (s.rest.length - t.rest.length))).SettledBy
      (· ≤ s.rest.length) :=
  glimpse_of_halts (Glimpse.kept_settledBy _) h hs fun _ _ _ =>
    ⟨_, rfl, fun _ hn => Option.some.inj hn ▸ Nat.sub_le _ _⟩

/-- A pattern that halts at a mark ahead and cannot be got through fails. -/
theorem glimpse_eq_fail_of_halts {p : Pattern} (h : p.halts cs m true = true)
    (hpass : p.mayPass (m :: cs) = false) {s : Cursor} (hs : s.Faces cs m)
    (k : Cursor → Glimpse α) : p.glimpse s k = some none :=
  glimpse_of_halts Glimpse.kept_eq_fail h hs fun hpass' => by
    rw [hpass] at hpass'
    cases hpass'

end Pattern

end EntityMapper

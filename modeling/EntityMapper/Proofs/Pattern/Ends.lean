import EntityMapper.Pattern.Builders
import Mathlib.Logic.Relation

/-!
# Where a pattern can end

The places at which a pattern can end, as a relation that forgets in which order they are tried.
Running a pattern is sound and complete for it: what the continuation accepts is accepted at an end,
and if it accepts some end then the run succeeds. Every end lies further on in the same text.
-/

namespace EntityMapper

namespace Cursor

@[simp] theorem advance_zero (s : Cursor) : s.advance 0 = s := by
  cases s; rfl

theorem advance_cons (n : Nat) (before : Option Char) (c : Char) (cs : List Char) :
    Cursor.advance (n + 1) ⟨before, c :: cs⟩ = Cursor.advance n ⟨some c, cs⟩ := rfl

theorem advance_nil (n : Nat) (before : Option Char) :
    Cursor.advance n ⟨before, []⟩ = ⟨before, []⟩ := by
  cases n <;> rfl

/-- Steps in a text add up. -/
theorem advance_advance (m n : Nat) (s : Cursor) :
    (s.advance m).advance n = s.advance (m + n) := by
  induction m generalizing s with
  | zero => rw [advance_zero, Nat.zero_add]
  | succ m ih =>
    obtain ⟨before, rest⟩ := s
    cases rest with
    | nil => rw [advance_nil, advance_nil, advance_nil]
    | cons c cs => rw [advance_cons, ih, Nat.add_right_comm, advance_cons]

/-- No place lies behind the end of a text. -/
theorem advance_min (n : Nat) (s : Cursor) : s.advance n = s.advance (min n s.rest.length) := by
  induction n generalizing s with
  | zero => rw [Nat.zero_min]
  | succ n ih =>
    obtain ⟨before, rest⟩ := s
    cases rest with
    | nil => simp [advance]
    | cons c cs => rw [List.length_cons, Nat.succ_min_succ, advance_cons, advance_cons, ih]

/-- Advancing over a text stops behind its last character. -/
theorem advance_append (before : Option Char) (cs rest : List Char) :
    Cursor.advance cs.length ⟨before, cs ++ rest⟩ = ⟨cs.getLast?.or before, rest⟩ := by
  induction cs generalizing before with
  | nil => simp
  | cons c cs ih =>
    rw [List.length_cons, List.cons_append, advance_cons, ih, List.getLast?_cons]
    cases cs.getLast? <;> rfl

/-- The way to a place in the front part of a text does not depend on the rest. -/
theorem advance_append_right {n : Nat} {before : Option Char} {cs : List Char}
    (h : n ≤ cs.length) (more : List Char) :
    Cursor.advance n ⟨before, cs ++ more⟩ =
      ⟨(Cursor.advance n ⟨before, cs⟩).before, (Cursor.advance n ⟨before, cs⟩).rest ++ more⟩ := by
  induction n generalizing before cs with
  | zero => rw [advance_zero, advance_zero]
  | succ n ih =>
    cases cs with
    | nil => cases h
    | cons c cs =>
      rw [List.cons_append, advance_cons, advance_cons]
      exact ih (Nat.le_of_succ_le_succ h)

/-- The second place lies further on in the text of the first, or is the same place. -/
def Reaches (s t : Cursor) : Prop :=
  ∃ n, n ≤ s.rest.length ∧ t = s.advance n

theorem Reaches.refl (s : Cursor) : s.Reaches s :=
  ⟨0, Nat.zero_le _, (advance_zero s).symm⟩

/-- A place that is reached from a reached place is reached. -/
theorem Reaches.trans {s t u : Cursor} (hst : s.Reaches t) (htu : t.Reaches u) : s.Reaches u := by
  obtain ⟨m, hm, rfl⟩ := hst
  obtain ⟨n, hn, rfl⟩ := htu
  rw [advance_rest, List.length_drop] at hn
  exact ⟨m + n, by omega, advance_advance m n s⟩

/-- The place behind the next character is reached. -/
theorem reaches_step (before : Option Char) (c : Char) (cs : List Char) :
    Cursor.Reaches ⟨before, c :: cs⟩ ⟨some c, cs⟩ :=
  ⟨1, by simp, rfl⟩

/-- The distance to a place that is reached is the difference of what is left. -/
theorem Reaches.eq_advance {s t : Cursor} (h : s.Reaches t) :
    t = s.advance (s.rest.length - t.rest.length) ∧ t.rest.length ≤ s.rest.length := by
  obtain ⟨n, hn, rfl⟩ := h
  rw [advance_rest, List.length_drop]
  exact ⟨by rw [show s.rest.length - (s.rest.length - n) = n by omega], by omega⟩

end Cursor

namespace Pattern

variable {α : Type}

/-- One character of a class is taken between the two places. -/
def Takes (accepts : Char → Bool) (s t : Cursor) : Prop :=
  ∃ c, accepts c = true ∧ s.rest = c :: t.rest ∧ t.before = some c

/-- A round of a repetition: the body ends further on. -/
def Round (body : Cursor → Cursor → Prop) (s t : Cursor) : Prop :=
  body s t ∧ t.rest.length < s.rest.length

/-- A pattern that is tried at the first place can end at the second. -/
def Ends : Pattern → Cursor → Cursor → Prop
  | .empty, s, t => t = s
  | .one accepts, s, t => Takes accepts s t
  | .followedBy p q, s, t => ∃ m, Ends p s m ∧ Ends q m t
  | .orElse p q, s, t => Ends p s t ∨ Ends q s t
  | .many _ accepts, s, t => Relation.ReflTransGen (Takes accepts) s t
  | .repeated _ p, s, t => Relation.ReflTransGen (Round (Ends p)) s t
  | .ahead p, s, t => t = s ∧ ∃ u, Ends p s u
  | .next test, s, t => t = s ∧ test s.rest.head? = true
  | .behind test, s, t => t = s ∧ test s.before = true
  | .wordEdge, s, t => t = s ∧ s.isWordEdge = true
  | .lineEnd, s, t => t = s ∧ s.isLineEnd = true

/-- One character of a class is taken if the next one is of the class. -/
theorem takes_cons {accepts : Char → Bool} {before : Option Char} {c : Char} {cs : List Char}
    {t : Cursor} :
    Takes accepts ⟨before, c :: cs⟩ t ↔ accepts c = true ∧ t = ⟨some c, cs⟩ := by
  constructor
  · rintro ⟨d, hd, hrest, hbefore⟩
    obtain ⟨rfl, hcs⟩ := List.cons_eq_cons.mp hrest
    obtain ⟨b, r⟩ := t
    exact ⟨hd, by simp_all⟩
  · rintro ⟨hc, rfl⟩
    exact ⟨c, hc, rfl, rfl⟩

/-- Nothing is taken at the end of a text. -/
theorem not_takes_nil {accepts : Char → Bool} {before : Option Char} {t : Cursor} :
    ¬ Takes accepts ⟨before, []⟩ t := by
  rintro ⟨c, -, hrest, -⟩
  cases hrest

/-- Taking a character leads to a place that is reached. -/
theorem Takes.reaches {accepts : Char → Bool} {s t : Cursor} (h : Takes accepts s t) :
    s.Reaches t := by
  obtain ⟨before, rest⟩ := s
  cases rest with
  | nil => exact (not_takes_nil h).elim
  | cons c cs =>
    obtain ⟨-, rfl⟩ := takes_cons.mp h
    exact Cursor.reaches_step before c cs

/-- An end of a pattern lies further on in the text. -/
theorem Ends.reaches {p : Pattern} {s t : Cursor} (h : Ends p s t) : s.Reaches t := by
  induction p generalizing s t with
  | empty => exact h ▸ Cursor.Reaches.refl s
  | one accepts => exact Takes.reaches h
  | followedBy p q ihp ihq =>
    obtain ⟨m, hp, hq⟩ := h
    exact (ihp hp).trans (ihq hq)
  | orElse p q ihp ihq => exact h.elim ihp ihq
  | many appetite accepts =>
    induction h with
    | refl => exact Cursor.Reaches.refl s
    | tail _ hstep ih => exact ih.trans hstep.reaches
  | repeated appetite p ihp =>
    induction h with
    | refl => exact Cursor.Reaches.refl s
    | tail _ hstep ih => exact ih.trans (ihp hstep.1)
  | ahead p ihp => exact h.1 ▸ Cursor.Reaches.refl s
  | next test => exact h.1 ▸ Cursor.Reaches.refl s
  | behind test => exact h.1 ▸ Cursor.Reaches.refl s
  | wordEdge => exact h.1 ▸ Cursor.Reaches.refl s
  | lineEnd => exact h.1 ▸ Cursor.Reaches.refl s

/-! ## Running a pattern -/

/-- What a greedy row finds lies behind some number of accepted characters. -/
theorem manyGreedy_sound {accepts : Char → Bool} {k : Cursor → Option α} {before : Option Char}
    {cs : List Char} {a : α} (h : manyGreedy accepts k before cs = some a) :
    ∃ t, Relation.ReflTransGen (Takes accepts) ⟨before, cs⟩ t ∧ k t = some a := by
  induction cs generalizing before with
  | nil => exact ⟨_, .refl, h⟩
  | cons c cs ih =>
    rw [manyGreedy] at h
    split at h
    · rename_i hc
      cases hm : manyGreedy accepts k (some c) cs with
      | none =>
        rw [hm] at h
        exact ⟨_, .refl, h⟩
      | some b =>
        rw [hm] at h
        obtain rfl : b = a := Option.some.inj h
        obtain ⟨t, ht, hk⟩ := ih hm
        exact ⟨t, .head (takes_cons.mpr ⟨hc, rfl⟩) ht, hk⟩
    · exact ⟨_, .refl, h⟩

/-- A greedy row finds something if any number of accepted characters leads to it. -/
theorem manyGreedy_complete {accepts : Char → Bool} {k : Cursor → Option α} {s t : Cursor}
    (h : Relation.ReflTransGen (Takes accepts) s t) (hk : (k t).isSome) :
    (manyGreedy accepts k s.before s.rest).isSome := by
  induction h using Relation.ReflTransGen.head_induction_on with
  | refl =>
    obtain ⟨before, rest⟩ := t
    cases rest with
    | nil => exact hk
    | cons c cs =>
      rw [manyGreedy]
      split <;> simp [hk]
  | @head s u hstep _ ih =>
    obtain ⟨before, rest⟩ := s
    cases rest with
    | nil => exact (not_takes_nil hstep).elim
    | cons c cs =>
      obtain ⟨hc, rfl⟩ := takes_cons.mp hstep
      rw [manyGreedy, if_pos hc]
      simp [ih]

/-- What a reluctant row finds lies behind some number of accepted characters. -/
theorem manyReluctant_sound {accepts : Char → Bool} {k : Cursor → Option α}
    {before : Option Char} {cs : List Char} {a : α}
    (h : manyReluctant accepts k before cs = some a) :
    ∃ t, Relation.ReflTransGen (Takes accepts) ⟨before, cs⟩ t ∧ k t = some a := by
  induction cs generalizing before with
  | nil => exact ⟨_, .refl, h⟩
  | cons c cs ih =>
    rw [manyReluctant] at h
    cases hk : k ⟨before, c :: cs⟩ with
    | some b =>
      rw [hk] at h
      exact ⟨_, .refl, hk.trans h⟩
    | none =>
      rw [hk] at h
      split at h
      · rename_i hc
        obtain ⟨t, ht, hkt⟩ := ih h
        exact ⟨t, .head (takes_cons.mpr ⟨hc, rfl⟩) ht, hkt⟩
      · cases h

/-- A reluctant row finds something if any number of accepted characters leads to it. -/
theorem manyReluctant_complete {accepts : Char → Bool} {k : Cursor → Option α} {s t : Cursor}
    (h : Relation.ReflTransGen (Takes accepts) s t) (hk : (k t).isSome) :
    (manyReluctant accepts k s.before s.rest).isSome := by
  induction h using Relation.ReflTransGen.head_induction_on with
  | refl =>
    obtain ⟨before, rest⟩ := t
    cases rest with
    | nil => exact hk
    | cons c cs => simp [manyReluctant, hk]
  | @head s u hstep _ ih =>
    obtain ⟨before, rest⟩ := s
    cases rest with
    | nil => exact (not_takes_nil hstep).elim
    | cons c cs =>
      obtain ⟨hc, rfl⟩ := takes_cons.mp hstep
      rw [manyReluctant, if_pos hc]
      simp [ih]

/-- What rounds of a step find lies behind some number of its rounds. -/
theorem rounds_sound {appetite : Appetite} (body : Cursor → Cursor → Prop)
    {step : Cursor → (Cursor → Option α) → Option α}
    (hstep : ∀ s (k : Cursor → Option α) a, step s k = some a → ∃ t, body s t ∧ k t = some a)
    {k : Cursor → Option α} {n : Nat} {s : Cursor} {a : α}
    (h : rounds appetite step k n s = some a) :
    ∃ t, Relation.ReflTransGen (Round body) s t ∧ k t = some a := by
  induction n generalizing s with
  | zero => exact ⟨s, .refl, h⟩
  | succ n ih =>
    have further (hf : (step s fun t =>
        if t.rest.length < s.rest.length then rounds appetite step k n t else none) = some a) :
        ∃ t, Relation.ReflTransGen (Round body) s t ∧ k t = some a := by
      obtain ⟨u, hu, hr⟩ := hstep _ _ _ hf
      split at hr
      · rename_i hlt
        obtain ⟨t, ht, hk⟩ := ih hr
        exact ⟨t, .head ⟨hu, hlt⟩ ht, hk⟩
      · cases hr
    cases appetite with
    | greedy =>
      rw [rounds] at h
      obtain hf | ⟨-, hk⟩ := Option.or_eq_some_iff.mp (by simpa using h)
      · exact further hf
      · exact ⟨s, .refl, hk⟩
    | reluctant =>
      rw [rounds] at h
      obtain hk | ⟨-, hf⟩ := Option.or_eq_some_iff.mp (by simpa using h)
      · exact ⟨s, .refl, hk⟩
      · exact further hf

/-- Rounds of a step find something if any number of its rounds leads to it. -/
theorem rounds_complete {appetite : Appetite} (body : Cursor → Cursor → Prop)
    {step : Cursor → (Cursor → Option α) → Option α}
    (hstep : ∀ s (k : Cursor → Option α) t, body s t → (k t).isSome → (step s k).isSome)
    {k : Cursor → Option α} {n : Nat} {s t : Cursor} (hn : s.rest.length ≤ n)
    (h : Relation.ReflTransGen (Round body) s t) (hk : (k t).isSome) :
    (rounds appetite step k n s).isSome := by
  induction n generalizing s with
  | zero =>
    cases h using Relation.ReflTransGen.head_induction_on with
    | refl => exact hk
    | head hs _ => exact absurd hs.2 (by omega)
  | succ n ih =>
    cases h using Relation.ReflTransGen.head_induction_on with
    | refl => cases appetite <;> simp [rounds, hk]
    | head hs ht =>
      have hf : (step s fun t =>
          if t.rest.length < s.rest.length then rounds appetite step k n t else none).isSome := by
        apply hstep _ _ _ hs.1
        rw [if_pos hs.2]
        exact ih (by have := hs.2; omega) ht
      cases appetite <;> simp [rounds, hf]

/-- A greedy repetition stops where no further rounds lead to a place that the continuation
accepts. -/
theorem exists_last_round (body : Cursor → Cursor → Prop)
    {step : Cursor → (Cursor → Option α) → Option α}
    (hsound : ∀ s (k : Cursor → Option α) a, step s k = some a → ∃ t, body s t ∧ k t = some a)
    (hcomplete : ∀ s (k : Cursor → Option α) t, body s t → (k t).isSome → (step s k).isSome)
    {k : Cursor → Option α} {n : Nat} {s : Cursor} {a : α} (hn : s.rest.length ≤ n)
    (h : rounds .greedy step k n s = some a) :
    ∃ last, Relation.ReflTransGen (Round body) s last ∧ k last = some a ∧
      ∀ t u, Round body last t → Relation.ReflTransGen (Round body) t u → k u = none := by
  induction n generalizing s with
  | zero => exact ⟨s, .refl, h, fun t _ ht _ => absurd ht.2 (by omega)⟩
  | succ n ih =>
    rw [rounds] at h
    dsimp only at h
    rcases Option.or_eq_some_iff.mp (by simpa using h) with hfurther | ⟨hnone, hk⟩
    · obtain ⟨t, hbody, ht⟩ := hsound _ _ _ hfurther
      split at ht
      · rename_i hlt
        obtain ⟨last, hlast, hrest⟩ := ih (by omega) ht
        exact ⟨last, .head ⟨hbody, hlt⟩ hlast, hrest⟩
      · cases ht
    · refine ⟨s, .refl, hk, fun t u ht hu => ?_⟩
      cases haccepts : k u with
      | none => rfl
      | some b =>
        have hlt := ht.2
        have hsome := hcomplete s (fun t =>
          if t.rest.length < s.rest.length then rounds .greedy step k n t else none) t ht.1 (by
            rw [if_pos hlt]
            exact rounds_complete body hcomplete (by omega) hu (by rw [haccepts]; rfl))
        rw [hnone] at hsome
        cases hsome

/-- What a run yields is what the continuation says of one of the ends. -/
theorem run_sound {p : Pattern} {s : Cursor} {k : Cursor → Option α} {a : α}
    (h : p.run s k = some a) : ∃ t, Ends p s t ∧ k t = some a := by
  induction p generalizing s k a with
  | empty => exact ⟨s, rfl, h⟩
  | one accepts =>
    obtain ⟨before, rest⟩ := s
    cases rest with
    | nil => cases h
    | cons c cs =>
      rw [run] at h
      split at h
      · rename_i hc
        exact ⟨_, takes_cons.mpr ⟨hc, rfl⟩, h⟩
      · cases h
  | followedBy p q ihp ihq =>
    obtain ⟨m, hp, hq⟩ := ihp h
    obtain ⟨t, ht, hk⟩ := ihq hq
    exact ⟨t, ⟨m, hp, ht⟩, hk⟩
  | orElse p q ihp ihq =>
    obtain hp | ⟨-, hq⟩ := Option.or_eq_some_iff.mp (by simpa [run] using h)
    · obtain ⟨t, ht, hk⟩ := ihp hp
      exact ⟨t, .inl ht, hk⟩
    · obtain ⟨t, ht, hk⟩ := ihq hq
      exact ⟨t, .inr ht, hk⟩
  | many appetite accepts =>
    cases appetite with
    | greedy => exact manyGreedy_sound h
    | reluctant => exact manyReluctant_sound h
  | repeated appetite p ihp => exact rounds_sound (Ends p) (fun _ _ _ hs => ihp hs) h
  | ahead p ihp =>
    obtain ⟨u, hu, hk⟩ := ihp h
    exact ⟨s, ⟨rfl, u, hu⟩, hk⟩
  | next test | behind test | wordEdge | lineEnd =>
    rw [run] at h
    split at h
    · rename_i ht
      exact ⟨s, ⟨rfl, ht⟩, h⟩
    · cases h

/-- A run succeeds if the continuation accepts an end. -/
theorem run_complete {p : Pattern} {s t : Cursor} {k : Cursor → Option α} (h : Ends p s t)
    (hk : (k t).isSome) : (p.run s k).isSome := by
  induction p generalizing s t k with
  | empty => exact h ▸ hk
  | one accepts =>
    obtain ⟨before, rest⟩ := s
    cases rest with
    | nil => exact (not_takes_nil h).elim
    | cons c cs =>
      obtain ⟨hc, rfl⟩ := takes_cons.mp h
      rw [run, if_pos hc]
      exact hk
  | followedBy p q ihp ihq =>
    obtain ⟨m, hp, hq⟩ := h
    exact ihp hp (ihq hq hk)
  | orElse p q ihp ihq =>
    rw [run]
    obtain hp | hq := h
    · simp [ihp hp hk]
    · simp [ihq hq hk]
  | many appetite accepts =>
    cases appetite with
    | greedy => exact manyGreedy_complete h hk
    | reluctant => exact manyReluctant_complete h hk
  | repeated appetite p ihp =>
    exact rounds_complete (Ends p) (fun _ _ _ hs => ihp hs) (Nat.le_refl _) h hk
  | ahead p ihp =>
    obtain ⟨rfl, u, hu⟩ := h
    exact ihp hu hk
  | next test | behind test | wordEdge | lineEnd =>
    obtain ⟨rfl, ht⟩ := h
    rw [run, if_pos ht]
    exact hk

/-- A pattern matches at a place where it has an end, and only there. -/
theorem length?_isSome_iff {p : Pattern} {s : Cursor} :
    (p.length? s).isSome ↔ ∃ t, Ends p s t := by
  constructor
  · intro h
    obtain ⟨n, hn⟩ := Option.isSome_iff_exists.mp h
    obtain ⟨t, ht, -⟩ := run_sound hn
    exact ⟨t, ht⟩
  · rintro ⟨t, ht⟩
    exact run_complete ht rfl

/-- The length of a match is the distance to an end. -/
theorem ends_of_length? {p : Pattern} {s : Cursor} {n : Nat} (h : p.length? s = some n) :
    Ends p s (s.advance n) ∧ n ≤ s.rest.length := by
  obtain ⟨t, ht, hn⟩ := run_sound h
  obtain ⟨heq, hle⟩ := ht.reaches.eq_advance
  obtain rfl : s.rest.length - t.rest.length = n := Option.some.inj hn
  exact ⟨heq ▸ ht, by omega⟩

end Pattern

end EntityMapper

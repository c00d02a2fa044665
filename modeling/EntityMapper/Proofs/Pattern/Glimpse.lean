import EntityMapper.Pattern.Builders

/-!
# Running a pattern on the beginning of a text

A run that knows only how a text begins. It has three outcomes: a result, failure, and `none` for
the case that the outcome hangs on the part of the text that is not known. Where the run has one
of the first two outcomes, every text with that beginning has it.
-/

namespace EntityMapper.Pattern

variable {α : Type}

/-- The outcome of a run on the beginning of a text: `none` if it is open. -/
abbrev Glimpse (α : Type) := Option (Option α)

/-- The first outcome if it is a result or open, and the second if the first is failure. -/
def Glimpse.orTry (first second : Glimpse α) : Glimpse α :=
  match first with
  | some none => second
  | outcome => outcome

/-- Tries the places after each number of accepted characters, the longest run first. -/
def glimpseGreedy (accepts : Char → Bool) (k : Cursor → Glimpse α) :
    Option Char → List Char → Glimpse α
  | _, [] => none
  | before, c :: cs =>
    if accepts c then (glimpseGreedy accepts k (some c) cs).orTry (k ⟨before, c :: cs⟩)
    else k ⟨before, c :: cs⟩

/-- Tries the places after each number of accepted characters, the shortest run first. -/
def glimpseReluctant (accepts : Char → Bool) (k : Cursor → Glimpse α) :
    Option Char → List Char → Glimpse α
  | _, [] => none
  | before, c :: cs =>
    (k ⟨before, c :: cs⟩).orTry
      (if accepts c then glimpseReluctant accepts k (some c) cs else some none)

/-- Tries the places after each number of rounds of a step, at most the given number of rounds. -/
def glimpseRounds (appetite : Appetite) (step : Cursor → (Cursor → Glimpse α) → Glimpse α)
    (k : Cursor → Glimpse α) : Nat → Cursor → Glimpse α
  | 0, _ => none
  | n + 1, s =>
    let further := step s fun t =>
      if t.rest.length < s.rest.length then glimpseRounds appetite step k n t else some none
    match appetite with
    | .greedy => further.orTry (k s)
    | .reluctant => (k s).orTry further

/-- Tries a pattern at a place in the known beginning of a text. -/
def glimpse : Pattern → Cursor → (Cursor → Glimpse α) → Glimpse α
  | .empty, s, k => k s
  | .one _, ⟨_, []⟩, _ => none
  | .one accepts, ⟨_, c :: cs⟩, k => if accepts c then k ⟨some c, cs⟩ else some none
  | .followedBy p q, s, k => glimpse p s fun t => glimpse q t k
  | .orElse p q, s, k => (glimpse p s k).orTry (glimpse q s k)
  | .many .greedy accepts, ⟨before, rest⟩, k => glimpseGreedy accepts k before rest
  | .many .reluctant accepts, ⟨before, rest⟩, k => glimpseReluctant accepts k before rest
  | .repeated appetite p, s, k => glimpseRounds appetite (glimpse p) k s.rest.length s
  | .ahead p, s, k => glimpse p s fun _ => k s
  | .next _, ⟨_, []⟩, _ => none
  | .next test, ⟨before, c :: cs⟩, k => if test (some c) then k ⟨before, c :: cs⟩ else some none
  | .behind test, s, k => if test s.before then k s else some none
  | .wordEdge, ⟨_, []⟩, _ => none
  | .wordEdge, ⟨before, c :: cs⟩, k =>
    if Cursor.isWordEdge ⟨before, c :: cs⟩ then k ⟨before, c :: cs⟩ else some none
  | .lineEnd, ⟨_, _ :: _ :: _⟩, _ => some none
  | .lineEnd, _, _ => none

end EntityMapper.Pattern

namespace EntityMapper

/-- A place in a text that goes on after the part that is known. -/
def Cursor.extend (s : Cursor) (more : List Char) : Cursor :=
  ⟨s.before, s.rest ++ more⟩

theorem Cursor.extend_cons (before : Option Char) (c : Char) (cs more : List Char) :
    Cursor.extend ⟨before, c :: cs⟩ more = ⟨before, c :: (cs ++ more)⟩ := rfl

namespace Pattern

variable {α β : Type}

/-- A continuation on whole texts that does what is known of it from their beginnings. -/
def Extends (more : List Char) (k : Cursor → Glimpse α) (k' : Cursor → Option α) : Prop :=
  ∀ t a, k t = some a → k' (t.extend more) = a

/-- A settled choice is the choice in the text if its sides are as far as they are settled. -/
theorem orTry_eq_some {first second : Glimpse α} {a : Option α} {x y : Option α}
    (h : first.orTry second = some a) (hfirst : ∀ b, first = some b → x = b)
    (hsecond : ∀ b, second = some b → y = b) : (x <|> y) = a := by
  cases first with
  | none => cases h
  | some b =>
    cases b with
    | none => rw [hfirst none rfl, hsecond a h]; rfl
    | some b => rw [hfirst (some b) rfl, ← Option.some.inj h]; rfl

/-- What is known of a greedy row from the beginning of a text holds of the text. -/
theorem manyGreedy_of_glimpse {more : List Char} {k : Cursor → Glimpse α}
    {k' : Cursor → Option α} (hk : Extends more k k') {accepts : Char → Bool}
    {before : Option Char} {cs : List Char} {a : Option α}
    (h : glimpseGreedy accepts k before cs = some a) :
    manyGreedy accepts k' before (cs ++ more) = a := by
  induction cs generalizing before a with
  | nil => cases h
  | cons c cs ih =>
    rw [glimpseGreedy] at h
    rw [List.cons_append, manyGreedy]
    split at h
    · rename_i hc
      rw [if_pos hc]
      exact orTry_eq_some h (fun _ => ih) (hk _)
    · rename_i hc
      rw [if_neg hc]
      exact hk _ _ h

/-- What is known of a reluctant row from the beginning of a text holds of the text. -/
theorem manyReluctant_of_glimpse {more : List Char} {k : Cursor → Glimpse α}
    {k' : Cursor → Option α} (hk : Extends more k k') {accepts : Char → Bool}
    {before : Option Char} {cs : List Char} {a : Option α}
    (h : glimpseReluctant accepts k before cs = some a) :
    manyReluctant accepts k' before (cs ++ more) = a := by
  induction cs generalizing before a with
  | nil => cases h
  | cons c cs ih =>
    rw [glimpseReluctant] at h
    rw [List.cons_append, manyReluctant]
    refine orTry_eq_some h (hk _) fun b hb => ?_
    split at hb
    · rename_i hc
      rw [if_pos hc]
      exact ih hb
    · rename_i hc
      rw [if_neg hc]
      exact Option.some.inj hb

/-- What is known of rounds from the beginning of a text holds of the text. -/
theorem rounds_of_glimpse {more : List Char} {appetite : Appetite}
    {step : Cursor → (Cursor → Glimpse α) → Glimpse α}
    {step' : Cursor → (Cursor → Option α) → Option α}
    (hstep : ∀ {s k k'} {a : Option α}, Extends more k k' → step s k = some a →
      step' (s.extend more) k' = a)
    {k : Cursor → Glimpse α} {k' : Cursor → Option α} (hk : Extends more k k') {n m : Nat}
    (hn : n ≤ m) {s : Cursor} {a : Option α} (h : glimpseRounds appetite step k n s = some a) :
    rounds appetite step' k' m (s.extend more) = a := by
  induction n generalizing m s a with
  | zero => cases h
  | succ n ih =>
    obtain ⟨m, rfl⟩ : ∃ l, m = l + 1 := ⟨m - 1, by omega⟩
    have further : ∀ b, (step s fun t => if t.rest.length < s.rest.length then
          glimpseRounds appetite step k n t else some none) = some b →
        (step' (s.extend more) fun t => if t.rest.length < (s.extend more).rest.length then
          rounds appetite step' k' m t else none) = b := by
      intro b hb
      refine hstep (fun t c hc => ?_) hb
      have hlt : (t.extend more).rest.length < (s.extend more).rest.length ↔
          t.rest.length < s.rest.length := by
        simp only [Cursor.extend, List.length_append]
        omega
      split at hc
      · rename_i hts
        rw [if_pos (hlt.mpr hts)]
        exact ih (by omega) hc
      · rename_i hts
        rw [if_neg (fun h => hts (hlt.mp h))]
        exact Option.some.inj hc
    cases appetite with
    | greedy =>
      rw [glimpseRounds] at h
      rw [rounds]
      exact orTry_eq_some h further (hk s)
    | reluctant =>
      rw [glimpseRounds] at h
      rw [rounds]
      exact orTry_eq_some h (hk s) further

/-- What is known of a run from the beginning of a text holds of the text. -/
theorem run_of_glimpse {more : List Char} {p : Pattern} {s : Cursor} {k : Cursor → Glimpse α}
    {k' : Cursor → Option α} (hk : Extends more k k') {a : Option α}
    (h : p.glimpse s k = some a) : p.run (s.extend more) k' = a := by
  induction p generalizing s k k' a with
  | empty => exact hk s a h
  | one accepts =>
    obtain ⟨before, rest⟩ := s
    cases rest with
    | nil => cases h
    | cons c cs =>
      rw [glimpse] at h
      rw [Cursor.extend_cons, run]
      split at h
      · rename_i hc
        rw [if_pos hc]
        exact hk _ _ h
      · rename_i hc
        rw [if_neg hc]
        exact Option.some.inj h
  | followedBy p q ihp ihq => exact ihp (fun t b hb => ihq hk hb) h
  | orElse p q ihp ihq => exact orTry_eq_some h (fun _ => ihp hk) (fun _ => ihq hk)
  | many appetite accepts =>
    cases appetite with
    | greedy => exact manyGreedy_of_glimpse hk h
    | reluctant => exact manyReluctant_of_glimpse hk h
  | repeated appetite p ihp =>
    refine rounds_of_glimpse (fun hk' hs => ihp hk' hs) hk ?_ h
    simp [Cursor.extend]
  | ahead p ihp => exact ihp (fun _ b hb => hk s b hb) h
  | next test =>
    obtain ⟨before, rest⟩ := s
    cases rest with
    | nil => cases h
    | cons c cs =>
      rw [glimpse] at h
      rw [Cursor.extend_cons, run]
      split at h
      · rename_i hc
        rw [if_pos (by simpa using hc)]
        exact hk _ _ h
      · rename_i hc
        rw [if_neg (by simpa using hc)]
        exact Option.some.inj h
  | behind test =>
    rw [glimpse] at h
    rw [run]
    split at h
    · rename_i hc
      rw [if_pos (by simpa [Cursor.extend] using hc)]
      exact hk _ _ h
    · rename_i hc
      rw [if_neg (by simpa [Cursor.extend] using hc)]
      exact Option.some.inj h
  | wordEdge =>
    obtain ⟨before, rest⟩ := s
    cases rest with
    | nil => cases h
    | cons c cs =>
      rw [glimpse] at h
      rw [Cursor.extend_cons, run]
      split at h
      · rename_i hc
        rw [if_pos (by simpa [Cursor.isWordEdge] using hc)]
        exact hk _ _ h
      · rename_i hc
        rw [if_neg (by simpa [Cursor.isWordEdge] using hc)]
        exact Option.some.inj h
  | lineEnd =>
    obtain ⟨before, rest⟩ := s
    match rest with
    | [] => cases h
    | [_] => cases h
    | c :: d :: cs =>
      rw [glimpse] at h
      rw [← Option.some.inj h]
      simp [Cursor.extend, run, Cursor.isLineEnd]

/-- A match that the beginning of a text settles is the match in the text. -/
theorem length?_of_glimpse {p : Pattern} {s : Cursor} {a : Option Nat}
    (h : (p.glimpse s fun t => some (some (s.rest.length - t.rest.length))) = some a)
    (more : List Char) : p.length? (s.extend more) = a := by
  refine run_of_glimpse (fun t c hc => ?_) h
  rw [← Option.some.inj hc]
  simp only [Cursor.extend, List.length_append]
  rw [Nat.add_sub_add_right]

/-! ## More of the text -/

/-- A continuation that keeps every outcome when more of the text is known. -/
def Continues (more : List Char) (k k' : Cursor → Glimpse α) : Prop :=
  ∀ t a, k t = some a → k' (t.extend more) = some a

/-- The first outcome that is no failure stays so if both outcomes stay as far as they are known. -/
theorem Glimpse.orTry_mono {first second first' second' : Glimpse α} {a : Option α}
    (h : first.orTry second = some a) (hfirst : ∀ b, first = some b → first' = some b)
    (hsecond : ∀ b, second = some b → second' = some b) : first'.orTry second' = some a := by
  cases first with
  | none => cases h
  | some b =>
    rw [hfirst b rfl]
    cases b with
    | none => exact hsecond a h
    | some b => exact h

/-- What is known of a greedy row stays known when more of the text is. -/
theorem glimpseGreedy_extend {more : List Char} {k k' : Cursor → Glimpse α}
    (hk : Continues more k k') {accepts : Char → Bool} {before : Option Char} {cs : List Char}
    {a : Option α} (h : glimpseGreedy accepts k before cs = some a) :
    glimpseGreedy accepts k' before (cs ++ more) = some a := by
  induction cs generalizing before a with
  | nil => cases h
  | cons c cs ih =>
    rw [glimpseGreedy] at h
    rw [List.cons_append, glimpseGreedy]
    split at h
    · rename_i hc
      rw [if_pos hc]
      exact Glimpse.orTry_mono h (fun _ => ih) (hk _)
    · rename_i hc
      rw [if_neg hc]
      exact hk _ _ h

/-- What is known of a reluctant row stays known when more of the text is. -/
theorem glimpseReluctant_extend {more : List Char} {k k' : Cursor → Glimpse α}
    (hk : Continues more k k') {accepts : Char → Bool} {before : Option Char} {cs : List Char}
    {a : Option α} (h : glimpseReluctant accepts k before cs = some a) :
    glimpseReluctant accepts k' before (cs ++ more) = some a := by
  induction cs generalizing before a with
  | nil => cases h
  | cons c cs ih =>
    rw [glimpseReluctant] at h
    rw [List.cons_append, glimpseReluctant]
    refine Glimpse.orTry_mono h (hk _) fun b hb => ?_
    split at hb
    · rename_i hc
      rw [if_pos hc]
      exact ih hb
    · rename_i hc
      rw [if_neg hc]
      exact hb

/-- What is known of rounds stays known when more of the text is. -/
theorem glimpseRounds_extend {more : List Char} {appetite : Appetite}
    {step : Cursor → (Cursor → Glimpse α) → Glimpse α}
    (hstep : ∀ {s k k'} {a : Option α}, Continues more k k' → step s k = some a →
      step (s.extend more) k' = some a)
    {k k' : Cursor → Glimpse α} (hk : Continues more k k') {n m : Nat} (hn : n ≤ m) {s : Cursor}
    {a : Option α} (h : glimpseRounds appetite step k n s = some a) :
    glimpseRounds appetite step k' m (s.extend more) = some a := by
  induction n generalizing m s a with
  | zero => cases h
  | succ n ih =>
    obtain ⟨m, rfl⟩ : ∃ l, m = l + 1 := ⟨m - 1, by omega⟩
    have further : ∀ b, (step s fun t => if t.rest.length < s.rest.length then
          glimpseRounds appetite step k n t else some none) = some b →
        (step (s.extend more) fun t => if t.rest.length < (s.extend more).rest.length then
          glimpseRounds appetite step k' m t else some none) = some b := by
      intro b hb
      refine hstep (fun t c hc => ?_) hb
      have hlt : (t.extend more).rest.length < (s.extend more).rest.length ↔
          t.rest.length < s.rest.length := by
        simp only [Cursor.extend, List.length_append]
        omega
      split at hc
      · rename_i hts
        rw [if_pos (hlt.mpr hts)]
        exact ih (by omega) hc
      · rename_i hts
        rw [if_neg (fun h => hts (hlt.mp h))]
        exact hc
    cases appetite with
    | greedy =>
      rw [glimpseRounds] at h ⊢
      exact Glimpse.orTry_mono h further (hk s)
    | reluctant =>
      rw [glimpseRounds] at h ⊢
      exact Glimpse.orTry_mono h (hk s) further

/-- What is known of a run stays known when more of the text is. -/
theorem glimpse_extend {more : List Char} {p : Pattern} {s : Cursor} {k k' : Cursor → Glimpse α}
    (hk : Continues more k k') {a : Option α} (h : p.glimpse s k = some a) :
    p.glimpse (s.extend more) k' = some a := by
  induction p generalizing s k k' a with
  | empty => exact hk s a h
  | followedBy p q ihp ihq => exact ihp (fun t b hb => ihq hk hb) h
  | orElse p q ihp ihq => exact Glimpse.orTry_mono h (fun _ => ihp hk) (fun _ => ihq hk)
  | many appetite accepts =>
    cases appetite with
    | greedy => exact glimpseGreedy_extend hk h
    | reluctant => exact glimpseReluctant_extend hk h
  | repeated appetite p ihp =>
    refine glimpseRounds_extend (fun hk' hs => ihp hk' hs) hk ?_ h
    simp [Cursor.extend]
  | ahead p ihp => exact ihp (fun _ b hb => hk s b hb) h
  | behind test =>
    rw [glimpse] at h ⊢
    split at h
    · rename_i hc
      rw [if_pos (by simpa [Cursor.extend] using hc)]
      exact hk _ _ h
    · rename_i hc
      rw [if_neg (by simpa [Cursor.extend] using hc)]
      exact h
  | one | next | wordEdge =>
    obtain ⟨before, rest⟩ := s
    cases rest with
    | nil => cases h
    | cons c cs =>
      rw [glimpse] at h
      rw [Cursor.extend_cons, glimpse]
      split at h
      · rename_i hc
        rw [if_pos (by simpa [Cursor.isWordEdge] using hc)]
        exact hk _ _ h
      · rename_i hc
        rw [if_neg (by simpa [Cursor.isWordEdge] using hc)]
        exact h
  | lineEnd =>
    obtain ⟨before, rest⟩ := s
    match rest with
    | [] => cases h
    | [_] => cases h
    | c :: d :: cs => exact h

/-- A match that is settled stays so when more of the text is known. -/
theorem glimpse_length_extend {p : Pattern} {s : Cursor} {a : Option Nat}
    (h : (p.glimpse s fun t => some (some (s.rest.length - t.rest.length))) = some a)
    (more : List Char) :
    (p.glimpse (s.extend more) fun t =>
      some (some ((s.extend more).rest.length - t.rest.length))) = some a := by
  refine glimpse_extend (fun t c hc => ?_) h
  rw [← hc]
  simp only [Cursor.extend, List.length_append]
  rw [Nat.add_sub_add_right]

end Pattern

end EntityMapper

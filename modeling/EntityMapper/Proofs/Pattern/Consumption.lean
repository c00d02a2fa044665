import EntityMapper.Proofs.Pattern.Ends
import EntityMapper.Proofs.Text.Letters
import Mathlib.Data.List.Forall2

/-!
# What a match takes

The text that lies between the place where a match begins and the place where it ends, for the
patterns that texts, rows of characters and rows of words are matched with. A pattern occurs in a
text if it has an end at one of the places of the text.
-/

namespace EntityMapper.Pattern

/-- The text between two places. -/
def Consumes (s : Cursor) (cs : List Char) (t : Cursor) : Prop :=
  s.rest = cs ++ t.rest ∧ t.before = cs.getLast?.or s.before

theorem Consumes.nil (s : Cursor) : Consumes s [] s := ⟨rfl, rfl⟩

/-- Nothing is consumed exactly if the place stays. -/
theorem consumes_nil_iff {s t : Cursor} : Consumes s [] t ↔ t = s := by
  constructor
  · rintro ⟨hrest, hbefore⟩
    obtain ⟨before, rest⟩ := s
    obtain ⟨before', rest'⟩ := t
    simp_all
  · rintro rfl
    exact .nil t

/-- What is consumed up to a place and from there on is consumed together. -/
theorem Consumes.append {s t u : Cursor} {xs ys : List Char} (hst : Consumes s xs t)
    (htu : Consumes t ys u) : Consumes s (xs ++ ys) u := by
  obtain ⟨hrest, hbefore⟩ := hst
  obtain ⟨hrest', hbefore'⟩ := htu
  constructor
  · rw [hrest, hrest', List.append_assoc]
  · rw [hbefore', hbefore, List.getLast?_append, Option.or_assoc]

/-- A text that is taken can be taken in two parts. -/
theorem Consumes.exists_mid {s u : Cursor} (xs : List Char) {ys : List Char}
    (h : Consumes s (xs ++ ys) u) :
    ∃ t, Consumes s xs t ∧ Consumes t ys u := by
  obtain ⟨hrest, hbefore⟩ := h
  refine ⟨⟨xs.getLast?.or s.before, ys ++ u.rest⟩, ⟨?_, rfl⟩, rfl, ?_⟩
  · rw [hrest, List.append_assoc]
  · rw [hbefore, List.getLast?_append, Option.or_assoc]

/-- What is consumed between two places is one text. -/
theorem Consumes.unique {s t : Cursor} {xs ys : List Char} (hxs : Consumes s xs t)
    (hys : Consumes s ys t) : xs = ys :=
  List.append_cancel_right (hxs.1.symm.trans hys.1)

/-- A place that is reached is the end of the text on the way. -/
theorem consumes_advance {n : Nat} {s : Cursor} (h : n ≤ s.rest.length) :
    Consumes s (s.rest.take n) (s.advance n) := by
  induction n generalizing s with
  | zero =>
    rw [List.take_zero, Cursor.advance_zero]
    exact .nil s
  | succ n ih =>
    obtain ⟨before, rest⟩ := s
    cases rest with
    | nil => cases h
    | cons c cs =>
      have hfirst : Consumes ⟨before, c :: cs⟩ [c] ⟨some c, cs⟩ := ⟨rfl, rfl⟩
      rw [List.length_cons] at h
      exact hfirst.append (ih (s := ⟨some c, cs⟩) (Nat.le_of_succ_le_succ h))

/-- A match takes some text, the empty one perhaps. -/
theorem Ends.exists_consumes {p : Pattern} {s t : Cursor} (h : Ends p s t) :
    ∃ cs, Consumes s cs t := by
  obtain ⟨n, hn, rfl⟩ := h.reaches
  exact ⟨_, consumes_advance hn⟩

/-- Taking a character of a class consumes it. -/
theorem takes_iff {accepts : Char → Bool} {s t : Cursor} :
    Takes accepts s t ↔ ∃ c, accepts c = true ∧ Consumes s [c] t :=
  Iff.rfl

/-- A row of characters of a class is taken. -/
theorem manyEnds_iff {accepts : Char → Bool} {s t : Cursor} :
    Relation.ReflTransGen (Takes accepts) s t ↔
      ∃ cs, (∀ c ∈ cs, accepts c = true) ∧ Consumes s cs t := by
  constructor
  · intro h
    induction h with
    | refl => exact ⟨[], by simp, .nil s⟩
    | tail _ hstep ih =>
      obtain ⟨cs, hcs, hconsumes⟩ := ih
      obtain ⟨c, hc, hlast⟩ := takes_iff.mp hstep
      refine ⟨cs ++ [c], fun d hd => ?_, hconsumes.append hlast⟩
      rcases List.mem_append.mp hd with hd | hd
      · exact hcs d hd
      · exact List.mem_singleton.mp hd ▸ hc
  · rintro ⟨cs, hcs, hconsumes⟩
    induction cs generalizing s with
    | nil => exact consumes_nil_iff.mp hconsumes ▸ .refl
    | cons c cs ih =>
      obtain ⟨m, hm, hrest⟩ := Consumes.exists_mid [c] hconsumes
      exact .head (takes_iff.mpr ⟨c, hcs c List.mem_cons_self, hm⟩)
        (ih (fun d hd => hcs d (List.mem_cons_of_mem c hd)) hrest)

/-- A row of at least one character consumes characters of its class. -/
theorem ends_oneOrMore {accepts : Char → Bool} {s t : Cursor} :
    Ends (oneOrMore accepts) s t ↔
      ∃ cs, cs ≠ [] ∧ (∀ c ∈ cs, accepts c = true) ∧ Consumes s cs t := by
  constructor
  · rintro ⟨m, hm, ht⟩
    obtain ⟨c, hc, hfirst⟩ := takes_iff.mp hm
    obtain ⟨cs, hcs, hrest⟩ := manyEnds_iff.mp ht
    exact ⟨c :: cs, List.cons_ne_nil c cs, List.forall_mem_cons.mpr ⟨hc, hcs⟩, hfirst.append hrest⟩
  · rintro ⟨cs, hne, hcs, hconsumes⟩
    obtain ⟨c, cs, rfl⟩ := List.exists_cons_of_ne_nil hne
    obtain ⟨m, hm, hrest⟩ := Consumes.exists_mid [c] hconsumes
    exact ⟨m, takes_iff.mpr ⟨c, hcs c List.mem_cons_self, hm⟩,
      manyEnds_iff.mpr ⟨cs, fun d hd => hcs d (List.mem_cons_of_mem c hd), hrest⟩⟩

/-- A text is taken that is the given one without regard to case. -/
theorem ends_text {word : String} {s t : Cursor} :
    Ends (text word) s t ↔ ∃ cs,
      List.Forall₂ (fun d c => Text.sameLetter d c = true) word.toList cs ∧ Consumes s cs t := by
  have key : ∀ (ds : List Char) (s : Cursor),
      Ends (ds.foldr (fun c p => letter c ++ p) empty) s t ↔
        ∃ cs, List.Forall₂ (fun d c => Text.sameLetter d c = true) ds cs ∧ Consumes s cs t := by
    intro ds
    induction ds with
    | nil =>
      intro s
      constructor
      · intro h
        exact ⟨[], .nil, consumes_nil_iff.mpr h⟩
      · rintro ⟨cs, hcs, hconsumes⟩
        rw [List.forall₂_nil_left_iff] at hcs
        exact consumes_nil_iff.mp (hcs ▸ hconsumes)
    | cons d ds ih =>
      intro s
      constructor
      · rintro ⟨m, hm, ht⟩
        obtain ⟨c, hc, hfirst⟩ := takes_iff.mp hm
        obtain ⟨cs, hcs, hrest⟩ := (ih m).mp ht
        exact ⟨c :: cs, .cons hc hcs, hfirst.append hrest⟩
      · rintro ⟨cs, hcs, hconsumes⟩
        cases hcs with
        | cons hc hcs =>
          obtain ⟨m, hm, hrest⟩ := Consumes.exists_mid [_] hconsumes
          exact ⟨m, takes_iff.mpr ⟨_, hc, hm⟩, (ih m).mpr ⟨_, hcs, hrest⟩⟩
  exact key word.toList s

/-- A text without letters is taken as it is. -/
theorem consumes_of_ends_text {word : String}
    (hword : ∀ d ∈ word.toList, d.toNat < 128 ∧ d.isAlpha = false) {s t : Cursor}
    (h : Ends (text word) s t) : Consumes s word.toList t := by
  obtain ⟨cs, hcs, hconsumes⟩ := ends_text.mp h
  exact Text.eq_of_sameLetters hword hcs ▸ hconsumes

/-! ## Rows of words -/

/-- Words of a text, each with the white space behind it. -/
def WordRow (cs : List Char) (rows : List (List Char × List Char)) : Prop :=
  cs = rows.flatMap (fun row => row.1 ++ row.2) ∧
    ∀ row ∈ rows, row.1 ≠ [] ∧ (∀ c ∈ row.1, Text.isWord c = true) ∧
      row.2 ≠ [] ∧ ∀ c ∈ row.2, Text.isSpace c = true

/-- Words with white space behind each of them are taken. -/
theorem ends_wordRow {appetite : Appetite} {s t : Cursor} :
    Ends (repeated appetite (oneOrMore Text.isWord ++ blanks)) s t ↔
      ∃ cs rows, WordRow cs rows ∧ Consumes s cs t := by
  constructor
  · intro h
    change Relation.ReflTransGen _ s t at h
    induction h with
    | refl => exact ⟨[], [], ⟨rfl, by simp⟩, .nil s⟩
    | tail _ hstep ih =>
      obtain ⟨cs, rows, ⟨hcs, hrows⟩, hconsumes⟩ := ih
      obtain ⟨⟨m, hm, ht⟩, -⟩ := hstep
      obtain ⟨word, hne, hword, hm⟩ := ends_oneOrMore.mp hm
      obtain ⟨blank, hne', hblank, ht⟩ := ends_oneOrMore.mp ht
      refine ⟨cs ++ (word ++ blank), rows ++ [(word, blank)], ⟨?_, ?_⟩,
        hconsumes.append (hm.append ht)⟩
      · rw [hcs]
        simp
      · intro row hrow
        rcases List.mem_append.mp hrow with hrow | hrow
        · exact hrows row hrow
        · exact List.mem_singleton.mp hrow ▸ ⟨hne, hword, hne', hblank⟩
  · rintro ⟨cs, rows, ⟨rfl, hrows⟩, hconsumes⟩
    change Relation.ReflTransGen _ s t
    induction rows generalizing s with
    | nil => exact consumes_nil_iff.mp hconsumes ▸ .refl
    | cons row rows ih =>
      obtain ⟨hne, hword, hne', hblank⟩ := hrows row List.mem_cons_self
      rw [List.flatMap_cons] at hconsumes
      obtain ⟨m, hm, hrest⟩ := Consumes.exists_mid _ hconsumes
      obtain ⟨l, hl, hlm⟩ := Consumes.exists_mid _ hm
      refine .head ⟨⟨l, ends_oneOrMore.mpr ⟨_, hne, hword, hl⟩,
        ends_oneOrMore.mpr ⟨_, hne', hblank, hlm⟩⟩, ?_⟩
        (ih (fun row hrow => hrows row (List.mem_cons_of_mem _ hrow)) hrest)
      have := List.length_pos_iff.mpr hne
      rw [hm.1, List.length_append, List.length_append]
      omega

/-! ## Occurrences -/

/-- A pattern occurs in a text if it matches at one of its places. -/
theorem occursAfter_iff {p : Pattern} {before : Option Char} {cs : List Char} :
    p.occursAfter before cs = true ↔
      ∃ xs ys t, cs = xs ++ ys ∧ Ends p ⟨xs.getLast?.or before, ys⟩ t := by
  induction cs generalizing before with
  | nil =>
    rw [occursAfter, length?_isSome_iff]
    constructor
    · rintro ⟨t, ht⟩
      exact ⟨[], [], t, rfl, ht⟩
    · rintro ⟨xs, ys, t, hxs, ht⟩
      obtain ⟨rfl, rfl⟩ := List.append_eq_nil_iff.mp hxs.symm
      exact ⟨t, ht⟩
  | cons c cs ih =>
    rw [occursAfter, Bool.or_eq_true, length?_isSome_iff, ih]
    constructor
    · rintro (⟨t, ht⟩ | ⟨xs, ys, t, rfl, ht⟩)
      · exact ⟨[], c :: cs, t, rfl, ht⟩
      · refine ⟨c :: xs, ys, t, rfl, ?_⟩
        rw [List.getLast?_cons]
        cases h : xs.getLast? <;> simpa [h] using ht
    · rintro ⟨xs, ys, t, hxs, ht⟩
      cases xs with
      | nil => exact .inl ⟨t, by rw [hxs]; exact ht⟩
      | cons x xs =>
        obtain ⟨rfl, rfl⟩ := List.cons_eq_cons.mp hxs
        refine .inr ⟨xs, ys, t, rfl, ?_⟩
        rw [List.getLast?_cons] at ht
        cases h : xs.getLast? <;> simpa [h] using ht

/-- A pattern occurs in a text if it has an end at one of the places of the text. -/
theorem occursIn_iff {p : Pattern} {cs : List Char} :
    p.occursIn cs = true ↔ ∃ xs ys t, cs = xs ++ ys ∧ Ends p ⟨xs.getLast?, ys⟩ t := by
  rw [occursIn, occursAfter_iff]
  simp

end EntityMapper.Pattern

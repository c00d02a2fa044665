import EntityMapper.Proofs.Naming.Identifiers

/-!
# Names that meet

Two names are made the same name in Java if they are the same in camel case; the mark that keeps a
name clear of reserved words and digits makes only the names of one and of two underscores meet.
-/

namespace EntityMapper.Naming

open Text Java

/-! ## Marks -/

/-- What the underscore of a mark cannot come from: a text with underscores and letters. -/
def IsUnmixed (x : List Char) : Prop :=
  '_' ∉ x ∨ ∀ c ∈ x, isAlphanumeric c = false

/-- No underscore is left where letters are put in camel case. -/
theorem score_not_mem_camelCase {name : List Char} (h : letters name ≠ []) :
    '_' ∉ camelCase name := by
  have hscore : isAlphanumeric '_' = false ∧ isInitial '_' = false ∧ isFollower '_' = false := by
    decide
  intro hmem
  rcases (recased_camelCase h).mem hmem with hmem | hinitial | hfollower
  · have hletter := (mem_letters.mp hmem).2
    rw [hscore.1] at hletter
    cases hletter
  · rw [hscore.2.1] at hinitial
    cases hinitial
  · rw [hscore.2.2] at hfollower
    cases hfollower

theorem isUnmixed_camelCase (name : List Char) : IsUnmixed (camelCase name) := by
  by_cases hletters : letters name = []
  · rw [camelCase_of_letters_eq_nil hletters]
    exact .inr (letters_eq_nil_iff.mp hletters)
  · exact .inl (score_not_mem_camelCase hletters)

/-- What becomes of a text that is made a name: it is kept, or it is a single underscore, or it is
marked at its end or at its front. -/
inductive Marking (x : List Char) : Prop
  | kept (heq : identifier x = x)
  | score (hx : x = ['_']) (heq : identifier x = ['_', '_'])
  | behind (hne : x.head? ≠ some '_') (heq : identifier x = x ++ ['_'])
      (hletter : ∃ c ∈ x, isAlphanumeric c = true)
  | front (heq : identifier x = '_' :: x) (hletter : ∃ c ∈ x, isAlphanumeric c = true)

theorem marking (x : List Char) : Marking x := by
  have hback : ∀ {word : String}, String.ofList x = word → x = word.toList := by
    rintro word rfl
    exact String.toList_ofList.symm
  by_cases hword : String.ofList x ∈ reservedWords
  · have heq : identifier x = x ++ ['_'] := by rw [identifier, if_pos hword]
    rcases reservedWords_spec.letters _ hword with hsingle | ⟨c, hc, hletter⟩
    · obtain rfl : x = ['_'] := hback hsingle
      exact .score rfl heq
    · rw [String.toList_ofList] at hc
      refine .behind ?_ heq ⟨c, List.mem_of_mem_drop hc, hletter⟩
      intro hhead
      have hsingle := hback (reservedWords_spec.head _ hword (by rwa [String.toList_ofList]))
      rw [hsingle] at hc
      cases hc
  · cases x with
    | nil => exact .kept (by decide)
    | cons d ds =>
      cases hdigit : Text.isDigit d with
      | true =>
        have heq : identifier (d :: ds) = '_' :: d :: ds := by
          rw [identifier, if_neg hword, List.head?_cons, Option.any_some, if_pos hdigit]
        exact .front heq ⟨d, List.mem_cons_self, isAlphanumeric_of_isDigit hdigit⟩
      | false =>
        refine .kept ?_
        rw [identifier, if_neg hword, List.head?_cons, Option.any_some, hdigit]
        rfl

/-- A text that is marked at its end or at its front is no unmixed text. -/
theorem IsUnmixed.ne_marked {x y : List Char} (hx : IsUnmixed x)
    (hletter : ∃ c ∈ y, isAlphanumeric c = true) : x ≠ y ++ ['_'] ∧ x ≠ '_' :: y := by
  obtain ⟨c, hc, hletter⟩ := hletter
  constructor
  · rintro rfl
    rcases hx with hscore | hnone
    · exact hscore (by simp)
    · rw [hnone c (List.mem_append_left _ hc)] at hletter
      cases hletter
  · rintro rfl
    rcases hx with hscore | hnone
    · exact hscore List.mem_cons_self
    · rw [hnone c (List.mem_cons_of_mem _ hc)] at hletter
      cases hletter

/-- Marks make unmixed texts meet only if they are one and two underscores. -/
theorem identifier_eq_iff {x y : List Char} (hx : IsUnmixed x) (hy : IsUnmixed y) :
    identifier x = identifier y ↔
      x = y ∨ x = ['_'] ∧ y = ['_', '_'] ∨ x = ['_', '_'] ∧ y = ['_'] := by
  have hscores : identifier ['_'] = ['_', '_'] ∧ identifier ['_', '_'] = ['_', '_'] := by decide
  have hletterless : ¬ ∃ c ∈ ['_'], isAlphanumeric c = true := by decide
  have hends : ∀ {z w : List Char}, z.head? ≠ some '_' → (∃ c ∈ z, isAlphanumeric c = true) →
      z ++ ['_'] ≠ '_' :: w := by
    rintro z w hne ⟨c, hc, -⟩ heq
    obtain ⟨d, ds, rfl⟩ := List.exists_cons_of_ne_nil (List.ne_nil_of_mem hc)
    obtain ⟨rfl, -⟩ := List.cons_eq_cons.mp heq
    exact hne rfl
  have hmarked : ∀ {z : List Char}, (∃ c ∈ z, isAlphanumeric c = true) →
      ['_', '_'] ≠ z ++ ['_'] ∧ ['_', '_'] ≠ '_' :: z := by
    intro z hz
    constructor
    · intro heq
      obtain rfl : ['_'] = z := List.append_cancel_right heq
      exact hletterless hz
    · intro heq
      obtain rfl : ['_'] = z := (List.cons_eq_cons.mp heq).2
      exact hletterless hz
  constructor
  · intro h
    cases marking x with
    | kept heq =>
      rw [heq] at h
      cases marking y with
      | kept heq' => exact .inl (h.trans heq')
      | score hy' heq' => exact .inr (.inr ⟨h.trans heq', hy'⟩)
      | behind _ heq' hletter => exact absurd (h.trans heq') (hx.ne_marked hletter).1
      | front heq' hletter => exact absurd (h.trans heq') (hx.ne_marked hletter).2
    | score hx' heq =>
      rw [heq] at h
      cases marking y with
      | kept heq' => exact .inr (.inl ⟨hx', (h.trans heq').symm⟩)
      | score hy' _ => exact .inl (hx'.trans hy'.symm)
      | behind _ heq' hletter => exact absurd (h.trans heq') (hmarked hletter).1
      | front heq' hletter => exact absurd (h.trans heq') (hmarked hletter).2
    | behind hne heq hletter =>
      rw [heq] at h
      cases marking y with
      | kept heq' => exact absurd (h.trans heq').symm (hy.ne_marked hletter).1
      | score _ heq' => exact absurd (h.trans heq').symm (hmarked hletter).1
      | behind _ heq' _ => exact .inl (List.append_cancel_right (h.trans heq'))
      | front heq' _ => exact absurd (h.trans heq') (hends hne hletter)
    | front heq hletter =>
      rw [heq] at h
      cases marking y with
      | kept heq' => exact absurd (h.trans heq').symm (hy.ne_marked hletter).2
      | score _ heq' => exact absurd (h.trans heq').symm (hmarked hletter).2
      | behind hne heq' hletter' => exact absurd (h.trans heq').symm (hends hne hletter')
      | front heq' _ => exact .inl (List.cons_eq_cons.mp (h.trans heq')).2
  · rintro (rfl | ⟨rfl, rfl⟩ | ⟨rfl, rfl⟩)
    · rfl
    · rw [hscores.1, hscores.2]
    · rw [hscores.1, hscores.2]

/-! ## Fields -/

theorem camelCase_eq_iff_of_scores {name scores : String} (hscore : '_' ∈ scores.toList)
    (hscores : letters scores.toList = []) :
    camelCase name.toList = scores.toList ↔ name = scores := by
  constructor
  · intro h
    have hnone : letters name.toList = [] := by
      by_contra hletters
      exact score_not_mem_camelCase hletters (h ▸ hscore)
    rw [camelCase_of_letters_eq_nil hnone] at h
    exact String.toList_inj.mp h
  · rintro rfl
    exact camelCase_of_letters_eq_nil hscores

/-- Two columns have one field if their names are the same in camel case or are one and two
underscores. -/
theorem fieldName_eq_iff {a b : String} : fieldName a = fieldName b ↔
    camelCase a.toList = camelCase b.toList ∨ a = "_" ∧ b = "__" ∨ a = "__" ∧ b = "_" := by
  have hone : ∀ name : String, camelCase name.toList = "_".toList ↔ name = "_" := fun _ =>
    camelCase_eq_iff_of_scores (by decide) (by decide)
  have htwo : ∀ name : String, camelCase name.toList = "__".toList ↔ name = "__" := fun _ =>
    camelCase_eq_iff_of_scores (by decide) (by decide)
  rw [fieldName, fieldName, String.ofList_inj,
    identifier_eq_iff (isUnmixed_camelCase _) (isUnmixed_camelCase _), ← hone a, ← hone b,
    ← htwo a, ← htwo b]
  rfl

/-! ## Accessors -/

/-- A text that begins with this capital after its first character was put in upper case began with
it, or with its small letter. -/
theorem eq_of_capitalize {c : Char} {rest tail : List Char}
    (h : capitalize (c :: rest) = 'C' :: tail) : (c = 'C' ∨ c = 'c') ∧ rest = tail := by
  have hlong : ∀ entry ∈ CaseMapping.toUpperLong,
      (entry.2.map Char.ofNat).head?.any (· != 'C') = true := by
    decide
  have hplain : ∀ d ∈ ['C'], d ∈ plainCapitals := by decide
  rw [capitalize] at h
  by_cases hascii : c.toNat < 128
  · rw [upperChar_of_ascii hascii] at h
    obtain ⟨hupper, htail⟩ := List.cons_eq_cons.mp h
    have hboth := forall_below (P := fun c => c.toUpper = 'C' → c = 'C' ∨ c = 'c') (by decide)
      hascii
    exact ⟨hboth hupper, htail⟩
  · refine absurd (ascii_of_upperChar (c := c) ?_) hascii
    rw [upperChar, if_neg hascii] at h ⊢
    split at h
    · rename_i long hlookup
      obtain ⟨before, after, heq, -⟩ := List.lookup_eq_some_iff.mp hlookup
      have hhead := hlong (c.toNat, long) (by simp [heq])
      obtain ⟨d, hd, hne⟩ := (Option.any_eq_true _ _).mp hhead
      obtain ⟨ds, hds⟩ := List.head?_eq_some_iff.mp hd
      rw [hds] at h
      simp [(List.cons_eq_cons.mp h).1] at hne
    · rw [(List.cons_eq_cons.mp h).1]
      exact hplain

theorem exists_lowerChar_cons (c : Char) : ∃ d ds, lowerChar c = d :: ds ∧ d ≠ 'C' := by
  by_cases hascii : c.toNat < 128
  · refine ⟨c.toLower, [], lowerChar_of_ascii hascii, ?_⟩
    exact forall_below (P := fun c => c.toLower ≠ 'C') (by decide) hascii
  · rw [lowerChar, if_neg hascii]
    split
    · exact ⟨'i', ['\u0307'], rfl, by decide⟩
    · refine ⟨_, [], rfl, ?_⟩
      cases himage : CaseRun.image? CaseMapping.toLower c.toNat with
      | none =>
        rintro rfl
        exact hascii (by decide)
      | some d =>
        have hd : d ∉ ['C'] := image?_not_mem (by decide +kernel) (by decide) himage
        simpa using hd

theorem exists_lower_cons (c : Char) (cs : List Char) :
    ∃ d ds, lower (c :: cs) = d :: ds ∧ d ≠ 'C' := by
  rw [lower, lowerAfter]
  split
  · split
    · exact ⟨'ς', _, rfl, by decide⟩
    · exact ⟨'σ', _, rfl, by decide⟩
  · obtain ⟨d, ds, heq, hd⟩ := exists_lowerChar_cons c
    exact ⟨d, _, by rw [heq, List.cons_append], hd⟩

/-- No name in camel case begins with this capital. -/
theorem camelCase_ne_cons (name tail : List Char) : camelCase name ≠ 'C' :: tail := by
  intro h
  rw [camelCase] at h
  split at h
  · rename_i hcamel
    rw [h, isCamelCase, Bool.and_eq_true, List.head?_cons, Option.any_some] at hcamel
    exact absurd hcamel.1 (by decide)
  · split at h
    · rename_i hwords
      have hletters := letters_eq_nil_iff.mp (words_eq_nil_iff.mp hwords) 'C'
      rw [h] at hletters
      exact absurd (hletters List.mem_cons_self) (by decide)
    · rename_i first others hwords
      have hne : first ≠ [] := words_ne_nil (hwords ▸ List.mem_cons_self)
      obtain ⟨c, cs, rfl⟩ := List.exists_cons_of_ne_nil hne
      obtain ⟨d, ds, heq, hd⟩ := exists_lower_cons c cs
      rw [heq, List.cons_append] at h
      exact hd (List.cons_eq_cons.mp h).1

/-- The accessors of no field have the name under which every object gives its class. -/
theorem capitalize_fieldName_ne (name : String) :
    capitalize (fieldName name).toList ≠ ['C', 'l', 'a', 's', 's'] := by
  intro h
  rw [fieldName, String.toList_ofList] at h
  cases hfield : identifier (camelCase name.toList) with
  | nil =>
    rw [hfield] at h
    cases h
  | cons c rest =>
    rw [hfield] at h
    obtain ⟨rfl | rfl, rfl⟩ := eq_of_capitalize h
    · cases marking (camelCase name.toList) with
      | kept heq => exact camelCase_ne_cons _ _ (heq.symm.trans hfield)
      | score _ heq =>
        rw [heq] at hfield
        cases hfield
      | behind _ heq _ =>
        have hlast := congrArg List.getLast? (heq.symm.trans hfield)
        simp at hlast
      | front heq _ =>
        rw [heq] at hfield
        cases hfield
    · have hfree := identifier_not_reserved (camelCase name.toList)
      rw [hfield] at hfree
      exact hfree (by decide)

end EntityMapper.Naming

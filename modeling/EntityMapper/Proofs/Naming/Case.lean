import EntityMapper.Naming.Identifier
import EntityMapper.Proofs.Java.Characters
import EntityMapper.Proofs.Naming.Words

/-!
# Letters in another case

Camel case and Pascal case change the case of the letters of a name and leave everything else out.
A name without letters and numerals is kept, but for the first character in Pascal case.
-/

namespace EntityMapper.Naming

open Text Java

/-- A text in which characters have been replaced by forms of them. -/
inductive Recased : List Char → List Char → Prop
  | nil : Recased [] []
  | cons {c : Char} {form cs ds : List Char} (hform : isForm c form = true)
      (hcs : Recased cs ds) : Recased (c :: cs) (form ++ ds)

namespace Recased

variable {c d : Char} {cs ds cs' ds' : List Char}

theorem refl (cs : List Char) : Recased cs cs := by
  induction cs with
  | nil => exact .nil
  | cons c cs ih =>
    have hform : isForm c [c] = true := isForm_iff.mpr (.inl rfl)
    exact .cons hform ih

theorem append (h : Recased cs ds) (h' : Recased cs' ds') : Recased (cs ++ cs') (ds ++ ds') := by
  induction h with
  | nil => exact h'
  | cons hform _ ih =>
    rw [List.cons_append, List.append_assoc]
    exact .cons hform ih

theorem flatMap {f : List Char → List Char} {ws : List (List Char)}
    (h : ∀ w ∈ ws, Recased w (f w)) : Recased ws.flatten (ws.flatMap f) := by
  induction ws with
  | nil => exact .nil
  | cons w ws ih =>
    rw [List.forall_mem_cons] at h
    exact h.1.append (ih h.2)

/-- Every character stands in the text, or it is a letter or follows one. -/
theorem mem (h : Recased cs ds) (hd : d ∈ ds) :
    d ∈ cs ∨ isInitial d = true ∨ isFollower d = true := by
  induction h with
  | nil => cases hd
  | @cons c form cs ds hform _ ih =>
    rcases List.mem_append.mp hd with hd | hd
    · rcases isForm_iff.mp hform with hsame | ⟨-, e, es, heq, he, hes⟩
      · rw [hsame, List.mem_singleton] at hd
        exact .inl (hd ▸ List.mem_cons_self)
      · rw [heq] at hd
        rcases List.mem_cons.mp hd with rfl | hd
        · exact .inr (.inl he)
        · exact .inr (.inr (hes d hd))
    · exact (ih hd).imp_left (List.mem_cons_of_mem c)

/-- Every character stands in the text or continues a name. -/
theorem mem_or_continues (h : Recased cs ds) (hd : d ∈ ds) :
    d ∈ cs ∨ continuesIdentifier d = true := by
  rcases h.mem hd with hd | hinitial | hfollower
  · exact .inl hd
  · rw [isInitial, Bool.and_eq_true] at hinitial
    exact .inr (continuesIdentifier_of_beginsIdentifier hinitial.2)
  · rw [isFollower, Bool.and_eq_true] at hfollower
    exact .inr hfollower.1

/-- What cannot continue a name is kept. -/
theorem mem_of_not_continues (h : Recased cs ds) (hc : c ∈ cs)
    (hname : continuesIdentifier c = false) : c ∈ ds := by
  induction h with
  | nil => cases hc
  | @cons c' form cs ds hform _ ih =>
    rcases List.mem_cons.mp hc with rfl | hc
    · rcases isForm_iff.mp hform with hsame | ⟨hbegins, -⟩
      · rw [hsame]
        exact List.mem_append_left _ (List.mem_singleton.mpr rfl)
      · rw [continuesIdentifier_of_beginsIdentifier hbegins] at hname
        cases hname
    · exact List.mem_append_right _ (ih hc)

/-- Whether a text can continue a name does not depend on its case. -/
theorem forall_continues_iff (h : Recased cs ds) :
    (∀ d ∈ ds, continuesIdentifier d = true) ↔ ∀ c ∈ cs, continuesIdentifier c = true := by
  constructor
  · intro hds c hc
    by_contra hname
    rw [Bool.not_eq_true] at hname
    rw [hds c (h.mem_of_not_continues hc hname)] at hname
    cases hname
  · intro hcs d hd
    exact (h.mem_or_continues hd).elim (hcs d) id

/-- The first character is that of the text, or both begin names. -/
theorem head (h : Recased (c :: cs) ds) : ∃ d rest, ds = d :: rest ∧
    (d = c ∨ beginsIdentifier c = true ∧ isInitial d = true) := by
  cases h with
  | @cons _ form _ rest hform _ =>
    rcases isForm_iff.mp hform with rfl | ⟨hc, d, es, rfl, hd, -⟩
    · exact ⟨c, rest, rfl, .inl rfl⟩
    · exact ⟨d, es ++ rest, rfl, .inr ⟨hc, hd⟩⟩

theorem ne_nil (h : Recased cs ds) (hcs : cs ≠ []) : ds ≠ [] := by
  obtain ⟨c, rest, rfl⟩ := List.exists_cons_of_ne_nil hcs
  obtain ⟨d, rest', rfl, -⟩ := h.head
  exact List.cons_ne_nil d rest'

/-- A text is recased if the first character of what it has become is put in upper case. -/
theorem capitalize (h : Recased cs ds) (hcs : ∀ c ∈ cs, isAlphanumeric c = true) :
    Recased cs (capitalize ds) := by
  cases h with
  | nil => exact .nil
  | @cons c form cs ds hform hrest =>
    have hc : isAlphanumeric c = true := hcs c List.mem_cons_self
    rcases isForm_iff.mp hform with rfl | ⟨hbegins, d, es, rfl, hd, hes⟩
    · exact .cons (isForm_upperChar (.inl hc)) hrest
    · rw [isInitial, Bool.and_eq_true] at hd
      have hcapital : isForm c (upperChar d ++ es) = true := by
        refine isForm_iff.mpr (.inr ⟨hbegins, ?_⟩)
        rcases isForm_iff.mp (isForm_upperChar (.inl hd.1)) with hsame | ⟨-, e, fs, heq, he, hfs⟩
        · exact ⟨d, es, by rw [hsame, List.singleton_append], by simp [isInitial, hd], hes⟩
        · refine ⟨e, fs ++ es, by rw [heq, List.cons_append], he, ?_⟩
          rw [List.forall_mem_append]
          exact ⟨hfs, hes⟩
      have hall := Recased.cons hcapital hrest
      rwa [List.append_assoc] at hall

end Recased

/-! ## Changing the case of words -/

theorem isForm_sigma : ∀ form ∈ [['ς'], ['σ']], isForm 'Σ' form = true := by
  decide

theorem recased_lower {cs : List Char} (hcs : ∀ c ∈ cs, isAlphanumeric c = true) :
    Recased cs (lower cs) := by
  suffices h : ∀ before, Recased cs (lowerAfter before cs) from h []
  induction cs with
  | nil => exact fun _ => .nil
  | cons c cs ih =>
    intro before
    obtain ⟨hc, hcs⟩ := List.forall_mem_cons.mp hcs
    rw [lowerAfter]
    refine .cons ?_ (ih hcs _)
    split
    · rename_i hsigma
      rw [hsigma]
      split
      · exact isForm_sigma _ (by decide)
      · exact isForm_sigma _ (by decide)
    · exact isForm_lowerChar (.inl hc)

theorem recased_titled {cs : List Char} (hcs : ∀ c ∈ cs, isAlphanumeric c = true) :
    Recased cs (titled cs) := by
  cases cs with
  | nil => exact .nil
  | cons c cs =>
    obtain ⟨hc, hcs⟩ := List.forall_mem_cons.mp hcs
    exact .cons (isForm_upperChar (.inl hc)) (recased_lower hcs)

variable {name : List Char}

theorem forall_mem_letters (name : List Char) : ∀ c ∈ letters name, isAlphanumeric c = true :=
  fun _ hc => (mem_letters.mp hc).2

/-- A name without letters and numerals is kept in camel case. -/
theorem camelCase_of_letters_eq_nil (h : letters name = []) : camelCase name = name := by
  rw [camelCase, words_eq_nil_iff.mpr h]
  split <;> rfl

/-- In camel case stand the letters and numerals of a name, in another case. -/
theorem recased_camelCase (h : letters name ≠ []) : Recased (letters name) (camelCase name) := by
  rw [camelCase]
  split
  · rename_i hcamel
    have hletters : letters name = name := by
      rw [isCamelCase, Bool.and_eq_true, Bool.not_eq_true', List.any_eq_false] at hcamel
      rw [letters, List.filter_eq_self]
      intro c hc
      simpa [isSeparator] using hcamel.2 c hc
    rw [hletters]
    exact .refl name
  · cases hwords : words name with
    | nil => exact absurd (words_eq_nil_iff.mp hwords) h
    | cons first others =>
      have hflatten : letters name = first ++ others.flatten := by
        rw [← flatten_words, hwords, List.flatten_cons]
      have hletters := forall_mem_letters name
      rw [hflatten, List.forall_mem_append] at hletters
      rw [hflatten]
      refine (recased_lower hletters.1).append (.flatMap fun w hw => recased_titled fun c hc => ?_)
      exact hletters.2 c (List.mem_flatten.mpr ⟨w, hw, hc⟩)

theorem recased_pascalCase (h : letters name ≠ []) :
    Recased (letters name) (pascalCase name) :=
  (recased_camelCase h).capitalize (forall_mem_letters name)

end EntityMapper.Naming

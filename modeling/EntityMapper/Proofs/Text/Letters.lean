import EntityMapper.Text.Folding
import Mathlib.Data.List.Forall2

/-!
# Letters beyond case

What it means that two characters are the same letter, where one of them is an ASCII character, how
the case of an ASCII text is changed, and which characters have an ASCII letter as their upper-case
form.
-/

namespace EntityMapper.Text

/-- A statement about listed characters is decided along the list, not over all characters. -/
instance decidableForallListed (cs : List Char) (P : Char → Prop) [DecidablePred P] :
    Decidable (∀ c, c ∈ cs → P c) :=
  List.decidableBAll P cs

instance decidableExistsListed (cs : List Char) (P : Char → Prop) [DecidablePred P] :
    Decidable (∃ c, c ∈ cs ∧ P c) :=
  List.decidableBEx P cs

/-- A statement about the characters below a bound can be checked one by one. -/
theorem forall_below {b : Nat} {P : Char → Prop} (h : ∀ n : Fin b, P (Char.ofNat n)) {c : Char}
    (hc : c.toNat < b) : P c := by
  have := h ⟨c.toNat, hc⟩
  rwa [Char.ofNat_toNat] at this

/-- A property of the ten digits can be checked one by one. -/
theorem forall_digit {P : Char → Prop}
    (h : ∀ n : Fin 128, (Char.ofNat n).isDigit = true → P (Char.ofNat n)) {d : Char}
    (hd : d.isDigit = true) : P d := by
  have hascii : d.toNat < 128 := by
    rw [Char.isDigit, Bool.and_eq_true, decide_eq_true_eq, decide_eq_true_eq] at hd
    have hle : d.val.toNat ≤ '9'.val.toNat := hd.2
    exact Nat.lt_of_le_of_lt hle (by decide)
  exact forall_below (P := fun d => d.isDigit = true → P d) h hascii hd

/-- A character beyond Latin-1 counts as itself unless it counts as an i, an s, a k or an å. -/
theorem fold_of_not_latin {c : Char} (h : ¬ c.toNat < 256) :
    fold c ∈ ['i', 's', 'k', 'å'] ∨ fold c = c := by
  have hge : ∀ d : Char, d.toNat < 256 → ¬ c ≤ d := by
    intro d hd hle
    have : c.toNat ≤ d.toNat := hle
    omega
  rw [fold, if_neg (by omega), if_neg (by simp [hge])]
  split
  · exact .inl (by decide)
  · split
    · exact .inl (by decide)
    · split
      · exact .inl (by decide)
      · split
        · exact .inl (by decide)
        · exact .inr rfl

/-- The characters beyond ASCII that count as an ASCII letter are an i, an s or a k. -/
theorem fold_of_not_ascii {c : Char} (h : ¬ c.toNat < 128) :
    fold c ∈ ['i', 's', 'k'] ∨ ¬ (fold c).toNat < 128 := by
  have hlatin : c.toNat < 256 → ¬ c.toNat < 128 → ¬ (fold c).toNat < 128 :=
    fun hc => forall_below (P := fun c => ¬ c.toNat < 128 → ¬ (fold c).toNat < 128)
      (by decide +kernel) hc
  by_cases hc : c.toNat < 256
  · exact .inr (hlatin hc h)
  · have hmembers : ∀ d ∈ ['i', 's', 'k', 'å'], d ∈ ['i', 's', 'k'] ∨ ¬ d.toNat < 128 := by
      decide
    rcases fold_of_not_latin hc with hmem | heq
    · exact hmembers _ hmem
    · exact .inr (by rwa [heq])

/-- An ASCII character that is no letter is only itself. -/
theorem sameLetter_of_not_alpha {q : Char} (hq : q.toNat < 128) (halpha : q.isAlpha = false)
    (c : Char) : sameLetter q c = (q == c) := by
  have hfold : fold q = q :=
    forall_below (P := fun q => q.isAlpha = false → fold q = q) (by decide) hq halpha
  rw [sameLetter, hfold, Bool.eq_iff_iff, beq_iff_eq, beq_iff_eq]
  constructor
  · intro hc
    by_cases hascii : c.toNat < 128
    · have key : ∀ c : Char, c.toNat < 128 → (fold c).isAlpha = false → fold c = c :=
        fun c h => forall_below (P := fun c => (fold c).isAlpha = false → fold c = c)
          (by decide) h
      rw [hc] at halpha ⊢
      exact key c hascii halpha
    · obtain hfold | hfold := fold_of_not_ascii hascii
      · rw [← hc] at hfold
        simp only [List.mem_cons, List.not_mem_nil, or_false] at hfold
        obtain rfl | rfl | rfl := hfold
        · exact absurd halpha (by decide)
        · exact absurd halpha (by decide)
        · exact absurd halpha (by decide)
      · exact absurd (hc ▸ hq) hfold
  · rintro rfl
    exact hfold.symm

/-- A text without letters is only itself. -/
theorem eq_of_sameLetters {word cs : List Char}
    (hword : ∀ d ∈ word, d.toNat < 128 ∧ d.isAlpha = false)
    (h : List.Forall₂ (fun d c => sameLetter d c = true) word cs) : cs = word := by
  induction h with
  | nil => rfl
  | @cons d c ds cs hc _ ih =>
    obtain ⟨hascii, halpha⟩ := hword d List.mem_cons_self
    rw [sameLetter_of_not_alpha hascii halpha, beq_iff_eq] at hc
    rw [hc, ih fun e he => hword e (List.mem_cons_of_mem d he)]

/-! ## The case of ASCII texts -/

/-- No character of ASCII is a capital sigma, so its lower-case form depends on nothing else. -/
theorem lowerAfter_of_ascii {cs : List Char} (h : ∀ c ∈ cs, c.toNat < 128) (before : List Char) :
    lowerAfter before cs = cs.map Char.toLower := by
  induction cs generalizing before with
  | nil => rfl
  | cons c cs ih =>
    have hc := h c List.mem_cons_self
    have hsigma : c ≠ 'Σ' := by
      rintro rfl
      exact absurd hc (by decide)
    rw [lowerAfter, if_neg hsigma, lowerChar_of_ascii hc,
      ih fun d hd => h d (List.mem_cons_of_mem c hd)]
    rfl

theorem lower_of_ascii {cs : List Char} (h : ∀ c ∈ cs, c.toNat < 128) :
    lower cs = cs.map Char.toLower :=
  lowerAfter_of_ascii h []

theorem upper_of_ascii {cs : List Char} (h : ∀ c ∈ cs, c.toNat < 128) :
    upper cs = cs.map Char.toUpper := by
  induction cs with
  | nil => rfl
  | cons c cs ih =>
    rw [upper_cons, upperChar_of_ascii (h c List.mem_cons_self),
      ih fun d hd => h d (List.mem_cons_of_mem c hd)]
    rfl

/-! ## Letters that only ASCII letters become -/

/-- Capitals that are the upper-case form, or a part of one, of ASCII letters only. -/
def plainCapitals : List Char :=
  ['A', 'B', 'C', 'D', 'E', 'G', 'L', 'M', 'N', 'O', 'P', 'R', 'T', 'U', 'Y']

theorem toNat_ofNat (n : Nat) : (Char.ofNat n).toNat = n ∨ (Char.ofNat n).toNat = 0 := by
  by_cases h : n.isValidChar
  · left
    rw [Char.ofNat, dif_pos h]
    rfl
  · right
    rw [Char.ofNat, dif_neg h]
    rfl

/-- No run of a case mapping leads to characters that the targets of its longer runs exceed and
that its single points do not become. -/
theorem image?_not_mem {runs : List CaseRun} {chars : List Char}
    (hruns : ∀ run ∈ runs, 128 ≤ (run.first : Int) + run.shift ∨
      (run.first = run.last ∧ Char.ofNat ((run.first : Int) + run.shift).toNat ∉ chars))
    (hsmall : ∀ d ∈ chars, d.toNat < 128 ∧ d.toNat ≠ 0) {n : Nat} {c : Char}
    (h : CaseRun.image? runs n = some c) : c ∉ chars := by
  obtain ⟨run, hfind, rfl⟩ := Option.map_eq_some_iff.mp h
  have hmoves := List.find?_some hfind
  simp only [CaseRun.moves, Bool.and_eq_true, decide_eq_true_eq] at hmoves
  obtain ⟨⟨hfirst, hlast⟩, -⟩ := hmoves
  intro hmem
  rcases hruns run (List.mem_of_find?_eq_some hfind) with hge | ⟨hsame, hnot⟩
  · have hlt := hsmall _ hmem
    rcases toNat_ofNat ((n : Int) + run.shift).toNat with heq | heq
    · omega
    · omega
  · have hn : n = run.first := by omega
    rw [hn] at hmem
    exact hnot hmem

/-- No run of the case mapping leads from beyond ASCII to a plain capital. -/
theorem image?_not_plain {n : Nat} {c : Char}
    (h : CaseRun.image? CaseMapping.toUpper n = some c) : c ∉ plainCapitals :=
  image?_not_mem (by decide +kernel) (by decide) h

/-- A character whose upper-case form is made of plain capitals is an ASCII character. -/
theorem ascii_of_upperChar {c : Char} (h : ∀ d ∈ upperChar c, d ∈ plainCapitals) :
    c.toNat < 128 := by
  have hlong : ∀ entry ∈ CaseMapping.toUpperLong,
      ∃ d ∈ entry.2.map Char.ofNat, d ∉ plainCapitals := by decide
  have hsmall : ∀ d ∈ plainCapitals, d.toNat < 128 := by decide
  by_contra hascii
  rw [upperChar, if_neg hascii] at h
  split at h
  · rename_i long hlookup
    obtain ⟨before, after, heq, -⟩ := List.lookup_eq_some_iff.mp hlookup
    have hmem : (c.toNat, long) ∈ CaseMapping.toUpperLong := by simp [heq]
    obtain ⟨d, hd, hnot⟩ := hlong _ hmem
    exact hnot (h d hd)
  · have hc := h _ List.mem_cons_self
    cases himage : CaseRun.image? CaseMapping.toUpper c.toNat with
    | none =>
      rw [himage] at hc
      exact hascii (hsmall c hc)
    | some d =>
      rw [himage] at hc
      exact image?_not_plain himage hc

/-- A plain capital is the same letter as the characters whose upper-case form it is. -/
theorem sameLetter_iff_upperChar {d : Char} (hd : d ∈ plainCapitals) (c : Char) :
    sameLetter d c = true ↔ upperChar c = [d] := by
  have hascii : ∀ n : Fin 128, ∀ d ∈ plainCapitals,
      sameLetter d (Char.ofNat n) = true ↔ upperChar (Char.ofNat n) = [d] := by decide +kernel
  have hfold : ∀ d ∈ plainCapitals, fold d ∉ ['i', 's', 'k'] ∧ (fold d).toNat < 128 := by decide
  by_cases hc : c.toNat < 128
  · exact forall_below (P := fun c => ∀ d ∈ plainCapitals,
      sameLetter d c = true ↔ upperChar c = [d]) hascii hc d hd
  · constructor
    · intro hsame
      rw [sameLetter, beq_iff_eq] at hsame
      rcases fold_of_not_ascii hc with hmem | hge
      · exact absurd (hsame ▸ hmem) (hfold d hd).1
      · exact absurd (hsame ▸ (hfold d hd).2) hge
    · intro hupper
      refine absurd (ascii_of_upperChar fun e he => ?_) hc
      rw [hupper] at he
      exact List.mem_singleton.mp he ▸ hd

/-- A text is a word of plain capitals in upper case if it is that word without regard to case. -/
theorem upper_eq_iff {word cs : List Char} (hword : ∀ d ∈ word, d ∈ plainCapitals) :
    upper cs = word ↔ List.Forall₂ (fun d c => sameLetter d c = true) word cs := by
  constructor
  · intro h
    induction cs generalizing word with
    | nil =>
      obtain rfl : word = [] := h.symm
      exact .nil
    | cons c cs ih =>
      rw [upper_cons] at h
      have hascii := ascii_of_upperChar (c := c) fun d hd =>
        hword d (h ▸ List.mem_append_left _ hd)
      rw [upperChar_of_ascii hascii, List.singleton_append] at h
      subst h
      refine .cons ?_ (ih (fun d hd => hword d (List.mem_cons_of_mem _ hd)) rfl)
      rw [sameLetter_iff_upperChar (hword _ List.mem_cons_self), upperChar_of_ascii hascii]
  · intro h
    induction h with
    | nil => rfl
    | cons hc _ ih =>
      rw [upper_cons, (sameLetter_iff_upperChar (hword _ List.mem_cons_self) _).mp hc,
        ih fun d hd => hword d (List.mem_cons_of_mem _ hd), List.singleton_append]

/-- A text that is a word of plain capitals in upper case is made of word characters. -/
theorem isWord_of_upper {word cs : List Char} (hword : ∀ d ∈ word, d ∈ plainCapitals)
    (h : upper cs = word) : ∀ c ∈ cs, isWord c = true := by
  intro c hc
  have hupper : ∀ d ∈ upperChar c, d ∈ plainCapitals := fun d hd =>
    hword d (h ▸ List.mem_flatMap.mpr ⟨c, hc, hd⟩)
  exact forall_below (P := fun c => (∀ d ∈ upperChar c, d ∈ plainCapitals) → isWord c = true)
    (by decide) (ascii_of_upperChar hupper) hupper

end EntityMapper.Text

import EntityMapper.Proofs.Naming.Case

/-!
# Names in Java

The names that are made for classes and fields are never empty and never reserved words.  They are
names in Java exactly if the letters and numerals of the given names can stand in one, or, where
there are none, if the characters that are kept are a name already.
-/

namespace EntityMapper.Naming

open Text Java

/-! ## Letters and numerals -/

/-- Whether a run of the upper-case mapping moves to characters beyond ASCII, none of them a digit,
if it does not move a single letter. -/
def keepsSigns (run : CaseRun) : Bool :=
  (run.first == run.last && Property.alphanumeric.has run.first) ||
    (128 ≤ run.target run.first &&
      CodePoints.throughout true validPoints (run.target run.first) (run.target run.last) &&
      CodePoints.throughout false Property.digit (run.target run.first) (run.target run.last))

/-- What the tables say of letters and numerals: those that continue a name begin one or are digits,
digits are among them, and the upper-case mapping keeps what is neither apart from them. -/
structure NumeralTables : Prop where
  letters : CodePoints.meet
    (fun members => match members with
      | [letter, part, start, digit] => !(letter && part) || start || digit
      | _ => false)
    [Property.alphanumeric, Property.identifierPart, Property.identifierStart,
      Property.digit] = true
  digits : Property.digit.relates (fun p q => !p || q) Property.alphanumeric = true
  signs : ∀ run ∈ CaseMapping.toUpper, keepsSigns run = true

theorem numeralTables : NumeralTables where
  letters := by decide +kernel
  digits := by decide +kernel
  signs := by decide +kernel

theorem begins_or_isDigit {c : Char} (hc : isAlphanumeric c = true)
    (hname : continuesIdentifier c = true) : beginsIdentifier c = true ∨ Text.isDigit c = true := by
  by_cases hascii : c.toNat < 128
  · exact forall_below (P := fun c => isAlphanumeric c = true → continuesIdentifier c = true →
      beginsIdentifier c = true ∨ Text.isDigit c = true) (by decide) hascii hc hname
  · have hmembers := CodePoints.of_meet numeralTables.letters c.toNat
    rw [isAlphanumeric, isAlphanum_of_not_ascii hascii, Bool.false_or] at hc
    rw [continuesIdentifier_of_not_ascii hascii] at hname
    simp only [List.map_cons, List.map_nil, hc, hname, Bool.and_self, Bool.not_true,
      Bool.false_or, Bool.or_eq_true] at hmembers
    rw [beginsIdentifier_of_not_ascii hascii, Text.isDigit, Bool.or_eq_true]
    exact hmembers.imp_right .inr

/-! ## Reserved words -/

/-- What is known of the reserved words: the keywords are among them, each has letters behind its
first character and does not begin with an underscore, unless it is one, its characters can stand in
a name, and with an underscore behind it it is a name that is not reserved. -/
structure ReservedWords : Prop where
  keywords : ∀ word ∈ modifierWords ++ basicTypeWords ++ plainKeywords ++ literalWords,
    word ∈ reservedWords
  letters : ∀ word ∈ reservedWords,
    word = "_" ∨ ∃ c ∈ word.toList.drop 1, isAlphanumeric c = true
  head : ∀ word ∈ reservedWords, word.toList.head? = some '_' → word = "_"
  continues : ∀ word ∈ reservedWords, ∀ c ∈ word.toList, continuesIdentifier c = true
  marked_isName : ∀ word ∈ reservedWords, isName (word.toList ++ ['_']) = true
  marked_free : ∀ word ∈ reservedWords, word ++ "_" ∉ reservedWords

theorem reservedWords_spec : ReservedWords where
  keywords := by decide +kernel
  letters := by decide +kernel
  head := by decide +kernel
  continues := by decide +kernel
  marked_isName := by decide +kernel
  marked_free := by decide +kernel

/-- A reserved word without letters and numerals behind its first character is the underscore. -/
theorem eq_score_of_reserved {d : Char} {ds : List Char}
    (hword : String.ofList (d :: ds) ∈ reservedWords)
    (hds : ∀ e ∈ ds, isAlphanumeric e = false) : d :: ds = ['_'] := by
  have hsingle : String.ofList (d :: ds) = "_" := by
    refine (reservedWords_spec.letters _ hword).resolve_right ?_
    rintro ⟨c, hc, hletter⟩
    rw [String.toList_ofList] at hc
    rw [hds c hc] at hletter
    cases hletter
  rw [← String.toList_ofList (l := d :: ds), hsingle]
  rfl

/-- A name that is made is never a reserved word. -/
theorem identifier_not_reserved (x : List Char) : String.ofList (identifier x) ∉ reservedWords := by
  rw [identifier]
  split
  · rename_i hreserved
    rw [String.ofList_append]
    exact reservedWords_spec.marked_free _ hreserved
  · split
    · rename_i hdigit
      intro hreserved
      have hsingle := reservedWords_spec.head _ hreserved (by simp)
      have hlist : '_' :: x = ['_'] := by
        rw [← String.toList_ofList (l := '_' :: x), hsingle]
        rfl
      rw [List.cons_eq_cons.mp hlist |>.2] at hdigit
      simp at hdigit
    · assumption

theorem identifier_ne_nil {x : List Char} (h : x ≠ []) : identifier x ≠ [] := by
  rw [identifier]
  split
  · simp
  · split
    · simp
    · exact h

/-- What is no reserved word is a name if its characters can stand in one. -/
theorem isName_iff_of_not_reserved {x : List Char} (h : String.ofList x ∉ reservedWords) :
    isName x = true ↔ ∃ c rest, x = c :: rest ∧ beginsIdentifier c = true ∧
      ∀ d ∈ rest, continuesIdentifier d = true := by
  rw [isName_iff, and_iff_left]
  exact wordKind_of_not_mem fun hmem => h (reservedWords_spec.keywords _ hmem)

/-- A text that begins like a name, with a digit or with what cannot stand in a name is made a name
if all its characters can stand in one. -/
theorem isName_identifier_iff {d : Char} {ds : List Char}
    (hd : beginsIdentifier d = true ∨ Text.isDigit d = true ∨ continuesIdentifier d = false) :
    isName (identifier (d :: ds)) = true ↔ ∀ e ∈ d :: ds, continuesIdentifier e = true := by
  by_cases hword : String.ofList (d :: ds) ∈ reservedWords
  · have hname := reservedWords_spec.marked_isName _ hword
    have hcontinues := reservedWords_spec.continues _ hword
    rw [String.toList_ofList] at hname hcontinues
    rw [identifier, if_pos hword]
    exact ⟨fun _ => hcontinues, fun _ => hname⟩
  · have hfree := identifier_not_reserved (d :: ds)
    rw [isName_iff_of_not_reserved hfree, identifier, if_neg hword]
    cases hdigit : Text.isDigit d with
    | true =>
      simp only [List.head?_cons, Option.any_some, hdigit, if_true]
      constructor
      · rintro ⟨c, rest, heq, -, hrest⟩
        obtain ⟨rfl, rfl⟩ := List.cons_eq_cons.mp heq
        exact hrest
      · intro hall
        exact ⟨'_', d :: ds, rfl, by decide, hall⟩
    | false =>
      simp only [List.head?_cons, Option.any_some, hdigit]
      constructor
      · rintro ⟨c, rest, heq, hc, hrest⟩
        obtain ⟨rfl, rfl⟩ := List.cons_eq_cons.mp heq
        exact List.forall_mem_cons.mpr ⟨continuesIdentifier_of_beginsIdentifier hc, hrest⟩
      · intro hall
        obtain ⟨hfirst, hrest⟩ := List.forall_mem_cons.mp hall
        refine ⟨d, ds, rfl, ?_, hrest⟩
        rcases hd with hbegins | hdigit' | hnot
        · exact hbegins
        · rw [hdigit] at hdigit'
          cases hdigit'
        · rw [hfirst] at hnot
          cases hnot

/-- A text without letters and numerals behind its first character, which is no digit, is made a
name only if it is one. -/
theorem isName_identifier_of_not_letters {d : Char} {ds : List Char}
    (hd : Text.isDigit d = false) (hds : ∀ e ∈ ds, isAlphanumeric e = false) :
    isName (identifier (d :: ds)) = true ↔ isName (d :: ds) = true := by
  rw [identifier]
  split
  · rename_i hword
    rw [eq_score_of_reserved hword hds]
    decide
  · rw [List.head?_cons, Option.any_some, hd]
    rfl

/-! ## Names without letters -/

theorem isAlphanumeric_of_isDigit {c : Char} (h : Text.isDigit c = true) :
    isAlphanumeric c = true := by
  by_cases hascii : c.toNat < 128
  · exact forall_below (P := fun c => Text.isDigit c = true → isAlphanumeric c = true)
      (by decide) hascii h
  · rw [Text.isDigit, (isAlpha_of_not_ascii hascii).2, Bool.false_or] at h
    rw [isAlphanumeric, CodePoints.has_of_subset numeralTables.digits h, Bool.or_true]

/-- The upper-case form of a character that is neither a letter nor a numeral is one character,
which is no digit, and no ASCII character unless it is the same one. -/
theorem upperChar_of_not_alphanumeric {c : Char} (hc : isAlphanumeric c = false) :
    ∃ d, upperChar c = [d] ∧ Text.isDigit d = false ∧
      (d = c ∨ ¬ c.toNat < 128 ∧ ¬ d.toNat < 128) := by
  have hsame : Text.isDigit c = false := by
    by_contra hdigit
    rw [Bool.not_eq_false] at hdigit
    rw [isAlphanumeric_of_isDigit hdigit] at hc
    cases hc
  by_cases hascii : c.toNat < 128
  · have hkept : upperChar c = [c] :=
      forall_below (P := fun c => isAlphanumeric c = false → upperChar c = [c]) (by decide)
        hascii hc
    exact ⟨c, hkept, hsame, .inl rfl⟩
  · have hletter : Property.alphanumeric.has c.toNat = false :=
      (Bool.or_eq_false_iff.mp hc).2
    rw [upperChar, if_neg hascii]
    split
    · rename_i long hlookup
      obtain ⟨before, after, heq, -⟩ := List.lookup_eq_some_iff.mp hlookup
      have hinitial := (isInitial_of_casedStretches
        (caseForms.heads (c.toNat, long) (by simp [heq])).1).2
      rw [Char.ofNat_toNat, isInitial, hc] at hinitial
      cases hinitial
    · cases himage : CaseRun.image? CaseMapping.toUpper c.toNat with
      | none => exact ⟨c, rfl, hsame, .inl rfl⟩
      | some d =>
        obtain ⟨run, hfind, rfl⟩ := Option.map_eq_some_iff.mp himage
        have hbounds := List.find?_some hfind
        simp only [CaseRun.moves, Bool.and_eq_true, decide_eq_true_eq] at hbounds
        obtain ⟨⟨hfirst, hlast⟩, -⟩ := hbounds
        have hkeeps := numeralTables.signs run (List.mem_of_find?_eq_some hfind)
        simp only [keepsSigns, Bool.or_eq_true, Bool.and_eq_true, beq_iff_eq,
          decide_eq_true_eq] at hkeeps
        rcases hkeeps with ⟨hsingle, hfirstLetter⟩ | ⟨⟨hbeyond, hvalid⟩, hdigits⟩
        · have hpoint : run.first = c.toNat := by omega
          rw [hpoint, hletter] at hfirstLetter
          cases hfirstLetter
        · have hlow : run.target run.first ≤ run.target c.toNat := by
            simp only [CaseRun.target]; omega
          have hhigh : run.target c.toNat ≤ run.target run.last := by
            simp only [CaseRun.target]; omega
          have htoNat : (Char.ofNat (run.target c.toNat)).toNat = run.target c.toNat :=
            toNat_ofNat_of_has (by decide)
              (CodePoints.has_of_throughout hvalid hlow hhigh)
          have hnot : ¬ (Char.ofNat (run.target c.toNat)).toNat < 128 := by omega
          refine ⟨Char.ofNat (run.target c.toNat), rfl, ?_, .inr ⟨hascii, hnot⟩⟩
          rw [Text.isDigit, (isAlpha_of_not_ascii hnot).2, Bool.false_or, htoNat]
          exact CodePoints.has_of_throughout hdigits hlow hhigh

/-! ## Names of fields and classes -/

/-- Letters and numerals in another case are made a name if all of them can stand in one. -/
theorem isName_identifier_of_recased {cs x : List Char} (h : Recased cs x) (hne : cs ≠ [])
    (hcs : ∀ c ∈ cs, isAlphanumeric c = true) :
    isName (identifier x) = true ↔ ∀ c ∈ cs, continuesIdentifier c = true := by
  obtain ⟨c, rest, rfl⟩ := List.exists_cons_of_ne_nil hne
  obtain ⟨d, ds, rfl, hd⟩ := h.head
  rw [← h.forall_continues_iff]
  refine isName_identifier_iff ?_
  rcases hd with rfl | ⟨-, hinitial⟩
  · cases hname : continuesIdentifier d with
    | true =>
      rcases begins_or_isDigit (hcs d List.mem_cons_self) hname with hbegins | hdigit
      · exact .inl hbegins
      · exact .inr (.inl hdigit)
    | false => exact .inr (.inr rfl)
  · rw [isInitial, Bool.and_eq_true] at hinitial
    exact .inl hinitial.2

theorem letters_eq_nil_iff {name : List Char} :
    letters name = [] ↔ ∀ c ∈ name, isAlphanumeric c = false := by
  rw [letters, List.filter_eq_nil_iff]
  simp

/-- Whether a name can be made a name in Java: its letters and numerals can stand in one, or it has
none and what is kept of it is one. -/
def isFit (name kept : List Char) : Bool :=
  if letters name = [] then isName kept else (letters name).all continuesIdentifier

variable {name : String}

theorem isName_fieldName (h : name ≠ "") :
    isName (fieldName name).toList = isFit name.toList name.toList := by
  rw [Bool.eq_iff_iff, fieldName, String.toList_ofList, isFit]
  split
  · rename_i hnone
    obtain ⟨c, cs, hname⟩ := List.exists_cons_of_ne_nil (show name.toList ≠ [] by simpa using h)
    rw [camelCase_of_letters_eq_nil hnone]
    rw [letters_eq_nil_iff, hname, List.forall_mem_cons] at hnone
    rw [hname]
    refine isName_identifier_of_not_letters ?_ hnone.2
    by_contra hdigit
    rw [Bool.not_eq_false] at hdigit
    rw [isAlphanumeric_of_isDigit hdigit] at hnone
    cases hnone.1
  · rename_i hsome
    rw [List.all_eq_true]
    exact isName_identifier_of_recased (recased_camelCase hsome) hsome (forall_mem_letters _)

theorem isName_className (h : name ≠ "") :
    isName (className name).toList = isFit name.toList (capitalize name.toList) := by
  rw [Bool.eq_iff_iff, className, String.toList_ofList, isFit]
  split
  · rename_i hnone
    obtain ⟨c, cs, hname⟩ := List.exists_cons_of_ne_nil (show name.toList ≠ [] by simpa using h)
    rw [pascalCase, camelCase_of_letters_eq_nil hnone]
    rw [letters_eq_nil_iff, hname, List.forall_mem_cons] at hnone
    obtain ⟨d, hupper, hdigit, -⟩ := upperChar_of_not_alphanumeric hnone.1
    rw [hname, capitalize, hupper, List.singleton_append]
    exact isName_identifier_of_not_letters hdigit hnone.2
  · rename_i hsome
    rw [List.all_eq_true]
    exact isName_identifier_of_recased (recased_pascalCase hsome) hsome (forall_mem_letters _)

theorem camelCase_ne_nil (h : name ≠ "") : camelCase name.toList ≠ [] := by
  by_cases hletters : letters name.toList = []
  · rw [camelCase_of_letters_eq_nil hletters]
    simpa using h
  · exact (recased_camelCase hletters).ne_nil hletters

theorem pascalCase_ne_nil (h : name ≠ "") : pascalCase name.toList ≠ [] := by
  by_cases hletters : letters name.toList = []
  · obtain ⟨c, cs, hname⟩ := List.exists_cons_of_ne_nil (show name.toList ≠ [] by simpa using h)
    rw [pascalCase, camelCase_of_letters_eq_nil hletters]
    rw [letters_eq_nil_iff, hname, List.forall_mem_cons] at hletters
    obtain ⟨d, hupper, -⟩ := upperChar_of_not_alphanumeric hletters.1
    simp [hname, capitalize, hupper]
  · exact (recased_pascalCase hletters).ne_nil hletters

/-- The name of a field is not empty and no reserved word. -/
theorem fieldName_spec (h : name ≠ "") :
    fieldName name ≠ "" ∧ fieldName name ∉ reservedWords := by
  refine ⟨?_, identifier_not_reserved _⟩
  have hne := identifier_ne_nil (camelCase_ne_nil h)
  simpa [fieldName] using hne

/-- The name of a class is not empty and no reserved word. -/
theorem className_spec (h : name ≠ "") :
    className name ≠ "" ∧ className name ∉ reservedWords := by
  refine ⟨?_, identifier_not_reserved _⟩
  have hne := identifier_ne_nil (pascalCase_ne_nil h)
  simpa [className] using hne

end EntityMapper.Naming

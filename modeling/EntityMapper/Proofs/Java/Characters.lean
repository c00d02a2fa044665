import EntityMapper.Java.Token
import EntityMapper.Naming.Case
import EntityMapper.Proofs.Text.CodePoints
import Mathlib.Data.List.Dedup

/-!
# Characters of Java names

What begins a name is no white space, no digit and no sign, and both it and its upper-case form can
continue a name.
-/

namespace EntityMapper.Text.CodePoints

/-- Whether all points from the first to the last are members, or none of them is. -/
def throughout : Bool → CodePoints → Nat → Nat → Bool
  | member, [], _, _ => !member
  | member, bound :: bounds, first, last =>
    bif bound.ble first then throughout (!member) bounds first last else !member && last.blt bound

/-- A point of a stretch that is uniform is a member as the stretch says. -/
theorem has_of_throughout {member : Bool} {set : CodePoints} {first last n : Nat}
    (h : throughout member set first last = true) (hfirst : first ≤ n) (hlast : n ≤ last) :
    set.has n = member := by
  induction set generalizing member with
  | nil =>
    rw [throughout, Bool.not_eq_true'] at h
    rw [has_nil, h]
  | cons bound bounds ih =>
    rw [throughout] at h
    cases hbound : bound.ble first with
    | true =>
      rw [hbound, cond_true] at h
      have hle : bound ≤ n := Nat.le_trans (Nat.le_of_ble_eq_true hbound) hfirst
      rw [has_of_le _ hle, ih h, Bool.not_not]
    | false =>
      rw [hbound, cond_false, Bool.and_eq_true, Bool.not_eq_true', Nat.blt_eq] at h
      rw [has_eq_false_of_lt _ (Nat.lt_of_le_of_lt hlast h.2), h.1]

end EntityMapper.Text.CodePoints

namespace EntityMapper.Text

/-- Where a run moves a code point that it moves. -/
def CaseRun.target (run : CaseRun) (n : Nat) : Nat :=
  ((n : Int) + run.shift).toNat

end EntityMapper.Text

namespace EntityMapper.Java

open Text

/-- No character beyond ASCII is a letter or digit of ASCII. -/
theorem isAlpha_of_not_ascii {c : Char} (h : ¬ c.toNat < 128) :
    c.isAlpha = false ∧ c.isDigit = false := by
  simpa only [Char.isAlphanum, Bool.or_eq_false_iff] using isAlphanum_of_not_ascii h

/-- Beyond ASCII the table alone says what begins a name. -/
theorem beginsIdentifier_of_not_ascii {c : Char} (h : ¬ c.toNat < 128) :
    beginsIdentifier c = Property.identifierStart.has c.toNat := by
  have hscore : c ≠ '_' := fun heq => h (heq ▸ by decide)
  have hdollar : c ≠ '$' := fun heq => h (heq ▸ by decide)
  simp [beginsIdentifier, (isAlpha_of_not_ascii h).1, hscore, hdollar]

/-- Beyond ASCII the table alone says what continues a name. -/
theorem continuesIdentifier_of_not_ascii {c : Char} (h : ¬ c.toNat < 128) :
    continuesIdentifier c = Property.identifierPart.has c.toNat := by
  have hscore : c ≠ '_' := fun heq => h (heq ▸ by decide)
  have hdollar : c ≠ '$' := fun heq => h (heq ▸ by decide)
  simp [continuesIdentifier, isAlphanum_of_not_ascii h, hscore, hdollar]

/-! ## Tables -/

/-- The code points of characters. -/
def validPoints : CodePoints :=
  [0, 0xd800, 0xe000, 0x110000]

/-- Stretches of letters beyond ASCII which hold every letter that changes case, in either case. -/
def casedStretches : CodePoints :=
  [181, 182, 192, 215, 216, 247, 248, 706, 880, 885, 886, 888, 890, 894, 895, 896, 902, 903, 904,
   907, 908, 909, 910, 930, 931, 1014, 1015, 1154, 1162, 1328, 1329, 1367, 1376, 1417, 4256, 4294,
   4295, 4296, 4301, 4302, 4304, 4347, 4348, 4681, 5024, 5110, 5112, 5118, 7296, 7305, 7312, 7355,
   7357, 7360, 7424, 7616, 7680, 7958, 7960, 7966, 7968, 8006, 8008, 8014, 8016, 8024, 8025, 8026,
   8027, 8028, 8029, 8030, 8031, 8062, 8064, 8117, 8118, 8125, 8126, 8127, 8130, 8133, 8134, 8141,
   8144, 8148, 8150, 8156, 8160, 8173, 8178, 8181, 8182, 8189, 8486, 8487, 8490, 8494, 8495, 8506,
   8526, 8527, 8544, 8585, 11264, 11493, 11499, 11503, 11506, 11508, 11520, 11558, 11559, 11560,
   11565, 11566, 42560, 42607, 42623, 42654, 42786, 42889, 42891, 42955, 42960, 42962, 42965,
   42970, 42994, 43010, 43824, 43867, 43888, 44003, 64256, 64263, 64275, 64280, 65313, 65339,
   65345, 65371, 66560, 66718, 66736, 66772, 66776, 66812, 66928, 66939, 66940, 66955, 66956,
   66963, 66964, 66966, 66967, 66978, 66979, 66994, 66995, 67002, 67003, 67005, 68736, 68787,
   68800, 68851, 71840, 71904, 93760, 93824, 125184, 125252]

/-- How the tables of characters are related: what begins a name is no digit and no white space and
continues one, and the stretches of letters hold characters that begin names. -/
structure TableRelations : Prop where
  start_digit : Property.identifierStart.relates (fun p q => !(p && q)) Property.digit = true
  start_space : Property.identifierStart.relates (fun p q => !(p && q)) Property.space = true
  start_part : Property.identifierStart.relates (fun p q => !p || q) Property.identifierPart = true
  cased_valid : casedStretches.relates (fun p q => !p || q) validPoints = true
  cased_start : casedStretches.relates (fun p q => !p || q) Property.identifierStart = true
  cased_letter : casedStretches.relates (fun p q => !p || q) Property.alphanumeric = true

/-- The relations hold of the tables. -/
theorem tableRelations : TableRelations where
  start_digit := by decide +kernel
  start_space := by decide +kernel
  start_part := by decide +kernel
  cased_valid := by decide +kernel
  cased_start := by decide +kernel
  cased_letter := by decide +kernel

/-! ## What begins a name -/

/-- The signs that are looked for at the front of a text before a name is. -/
def signs : List Char :=
  ['/', '.', '@', '(', ')', '\x7b', '\x7d', '[', ']', ';', ',', '"', '\x27']

/-- A character that begins an identifier is no sign. -/
theorem not_mem_signs {c : Char} (h : beginsIdentifier c = true) : c ∉ signs := by
  have hsigns : ∀ sign ∈ signs, beginsIdentifier sign = false := by decide
  intro hmem
  rw [hsigns c hmem] at h
  cases h

/-- A character that begins an identifier is no digit. -/
theorem isDigit_of_beginsIdentifier {c : Char} (h : beginsIdentifier c = true) :
    Text.isDigit c = false := by
  by_cases hc : c.toNat < 128
  · exact forall_below (P := fun c => beginsIdentifier c = true → Text.isDigit c = false)
      (by decide) hc h
  · rw [beginsIdentifier_of_not_ascii hc] at h
    rw [Text.isDigit, (isAlpha_of_not_ascii hc).2, Bool.false_or]
    exact CodePoints.not_has_of_disjoint tableRelations.start_digit h

/-- A character that begins an identifier is no white space. -/
theorem isSpace_of_beginsIdentifier {c : Char} (h : beginsIdentifier c = true) :
    isSpace c = false := by
  by_cases hc : c.toNat < 128
  · exact forall_below (P := fun c => beginsIdentifier c = true → isSpace c = false)
      (by decide) hc h
  · rw [beginsIdentifier_of_not_ascii hc] at h
    have hspace : Property.space.has c.toNat = false :=
      CodePoints.not_has_of_disjoint tableRelations.start_space h
    have hblank : c ≠ ' ' := fun heq => hc (heq ▸ by decide)
    simp only [isSpace, hspace, Bool.or_false, Bool.or_eq_false_iff, beq_eq_false_iff_ne,
      Bool.and_eq_false_iff, decide_eq_false_iff_not]
    exact ⟨⟨hblank, by omega⟩, by omega⟩

/-- What begins a name also continues one. -/
theorem continuesIdentifier_of_beginsIdentifier {c : Char} (h : beginsIdentifier c = true) :
    continuesIdentifier c = true := by
  by_cases hc : c.toNat < 128
  · exact forall_below (P := fun c => beginsIdentifier c = true → continuesIdentifier c = true)
      (by decide) hc h
  · rw [beginsIdentifier_of_not_ascii hc] at h
    rw [continuesIdentifier_of_not_ascii hc]
    exact CodePoints.has_of_subset tableRelations.start_part h

/-! ## Case forms -/

/-- Whether a character is a letter that begins a name. -/
def isInitial (c : Char) : Bool :=
  isAlphanumeric c && beginsIdentifier c

/-- Whether a character can stand behind a letter in one of its forms. -/
def isFollower (c : Char) : Bool :=
  continuesIdentifier c && c != '_'

/-- What a character becomes in another case: itself, or a letter that begins a name, perhaps with
followers, if the character begins a name as well. -/
def isForm (c : Char) (form : List Char) : Bool :=
  form == [c] || (beginsIdentifier c && form.head?.any isInitial && form.tail.all isFollower)

/-- The check of a form says what a form is. -/
theorem isForm_iff {c : Char} {form : List Char} :
    isForm c form = true ↔ form = [c] ∨ beginsIdentifier c = true ∧ ∃ d ds, form = d :: ds ∧
      isInitial d = true ∧ ∀ e ∈ ds, isFollower e = true := by
  simp only [isForm, Bool.or_eq_true, beq_iff_eq, Bool.and_eq_true, List.all_eq_true, and_assoc]
  refine or_congr_right (and_congr_right fun _ => ?_)
  cases form with
  | nil => simp
  | cons d ds => simp

/-- Every member of the stretches of letters is the number of a character. -/
theorem toNat_ofNat_of_has {set : CodePoints}
    (hset : set.relates (fun p q => !p || q) validPoints = true) {n : Nat}
    (hn : set.has n = true) : (Char.ofNat n).toNat = n := by
  have hvalid : validPoints.has n = true := CodePoints.has_of_subset hset hn
  have hchar : n.isValidChar := by
    simp [validPoints, CodePoints.has] at hvalid
    simp only [Nat.isValidChar]
    omega
  rw [Char.ofNat, dif_pos hchar]
  rfl

/-- The stretches of letters hold only characters that begin names. -/
theorem isInitial_of_casedStretches {n : Nat} (h : casedStretches.has n = true) :
    Property.identifierStart.has n = true ∧ isInitial (Char.ofNat n) = true := by
  have htoNat : (Char.ofNat n).toNat = n := toNat_ofNat_of_has tableRelations.cased_valid h
  have hstart : Property.identifierStart.has n = true :=
    CodePoints.has_of_subset tableRelations.cased_start h
  have hletter : Property.alphanumeric.has n = true :=
    CodePoints.has_of_subset tableRelations.cased_letter h
  exact ⟨hstart, by simp [isInitial, isAlphanumeric, beginsIdentifier, htoNat, hstart, hletter]⟩

/-- Whether a run of a case mapping keeps to the stretches of letters, or moves few points and each
from what begins a name to a letter that begins one, or moves neither letters nor numerals nor what
begins a name. -/
def keepsInitials (run : CaseRun) : Bool :=
  (CodePoints.throughout true casedStretches run.first run.last &&
    CodePoints.throughout true casedStretches (run.target run.first) (run.target run.last)) ||
  (List.range' run.first (run.last + 1 - run.first)).all (fun n =>
    !run.moves n || Property.identifierStart.has n && isInitial (Char.ofNat (run.target n))) ||
  (CodePoints.throughout false Property.alphanumeric run.first run.last &&
    CodePoints.throughout false Property.identifierStart run.first run.last)

/-- What is known of the case mappings: their runs keep what begins a name, the longer upper-case
forms belong to letters, begin with letters and go on with what can follow one, and so does the one
longer lower-case form. -/
structure CaseForms : Prop where
  runs : ∀ run ∈ CaseMapping.toUpper ++ CaseMapping.toLower, keepsInitials run = true
  heads : ∀ entry ∈ CaseMapping.toUpperLong, casedStretches.has entry.1 = true ∧
    ∃ n ∈ entry.2.head?, (n < 128 ∧ (Char.ofNat n).isAlpha) ∨ casedStretches.has n = true
  tails : ∀ n ∈ (CaseMapping.toUpperLong.flatMap (·.2.tail)).dedup,
    isFollower (Char.ofNat n) = true
  dotted : isForm 'İ' ['i', '\u0307'] = true

/-- The facts hold of the case mappings. -/
theorem caseForms : CaseForms where
  runs := by decide +kernel
  heads := by decide +kernel
  tails := by decide +kernel
  dotted := by decide +kernel

/-- What a run moves, if it is a letter or a numeral or begins a name, begins a name before and
after. -/
theorem isInitial_of_moves {run : CaseRun}
    (hrun : run ∈ CaseMapping.toUpper ++ CaseMapping.toLower) {n : Nat}
    (hmoves : run.moves n = true)
    (hn : Property.alphanumeric.has n = true ∨ Property.identifierStart.has n = true) :
    Property.identifierStart.has n = true ∧ isInitial (Char.ofNat (run.target n)) = true := by
  have hbounds := hmoves
  simp only [CaseRun.moves, Bool.and_eq_true, decide_eq_true_eq] at hbounds
  obtain ⟨⟨hfirst, hlast⟩, -⟩ := hbounds
  have hkeeps := caseForms.runs run hrun
  simp only [keepsInitials, Bool.or_eq_true, Bool.and_eq_true] at hkeeps
  rcases hkeeps with (⟨hfrom, hto⟩ | hfew) | ⟨hletters, hstarts⟩
  · have hlow : run.target run.first ≤ run.target n := by simp only [CaseRun.target]; omega
    have hhigh : run.target n ≤ run.target run.last := by simp only [CaseRun.target]; omega
    exact ⟨(isInitial_of_casedStretches (CodePoints.has_of_throughout hfrom hfirst hlast)).1,
      (isInitial_of_casedStretches (CodePoints.has_of_throughout hto hlow hhigh)).2⟩
  · have hmem : n ∈ List.range' run.first (run.last + 1 - run.first) := by
      rw [List.mem_range'_1]
      omega
    simpa [hmoves] using List.all_eq_true.mp hfew n hmem
  · rw [CodePoints.has_of_throughout hletters hfirst hlast,
      CodePoints.has_of_throughout hstarts hfirst hlast] at hn
    simp at hn

/-- The longer upper-case forms of characters are forms of them. -/
theorem isForm_long {c : Char} {long : List Nat} (hascii : ¬ c.toNat < 128)
    (h : (c.toNat, long) ∈ CaseMapping.toUpperLong) : isForm c (long.map Char.ofNat) = true := by
  have hinitials : ∀ n < 128, (Char.ofNat n).isAlpha = true → isInitial (Char.ofNat n) = true := by
    decide
  obtain ⟨hbegins, n, hn, hinitial⟩ := caseForms.heads _ h
  obtain ⟨rest, rfl⟩ := List.head?_eq_some_iff.mp hn
  refine isForm_iff.mpr (.inr ⟨?_, Char.ofNat n, rest.map Char.ofNat, rfl, ?_, ?_⟩)
  · rw [beginsIdentifier_of_not_ascii hascii]
    exact (isInitial_of_casedStretches hbegins).1
  · rcases hinitial with ⟨hlt, halpha⟩ | hstretch
    · exact hinitials n hlt halpha
    · exact (isInitial_of_casedStretches hstretch).2
  · rw [List.forall_mem_map]
    intro m hm
    exact caseForms.tails m (List.mem_dedup.mpr (List.mem_flatMap.mpr ⟨_, h, hm⟩))

section Forms

variable {c : Char} (hc : isAlphanumeric c = true ∨ beginsIdentifier c = true)

include hc

/-- Runs of a case mapping give a letter, a numeral or what begins a name one of its forms. -/
theorem isForm_image {runs : List CaseRun}
    (hruns : ∀ run ∈ runs, run ∈ CaseMapping.toUpper ++ CaseMapping.toLower)
    (hascii : ¬ c.toNat < 128) : isForm c [(CaseRun.image? runs c.toNat).getD c] = true := by
  rw [isForm_iff]
  cases himage : CaseRun.image? runs c.toNat with
  | none => exact .inl rfl
  | some image =>
    obtain ⟨run, hfind, rfl⟩ := Option.map_eq_some_iff.mp himage
    have hmoves := List.find?_some hfind
    have hrun := hruns run (List.mem_of_find?_eq_some hfind)
    rw [isAlphanumeric, isAlphanum_of_not_ascii hascii, Bool.false_or,
      beginsIdentifier_of_not_ascii hascii] at hc
    obtain ⟨hbegins, hinitial⟩ := isInitial_of_moves hrun hmoves hc
    refine .inr ⟨?_, _, [], rfl, hinitial, by simp⟩
    rw [beginsIdentifier_of_not_ascii hascii, hbegins]

/-- The upper-case form of a character is a form of it. -/
theorem isForm_upperChar : isForm c (upperChar c) = true := by
  by_cases hascii : c.toNat < 128
  · exact forall_below (P := fun c => isAlphanumeric c = true ∨ beginsIdentifier c = true →
      isForm c (upperChar c) = true) (by decide) hascii hc
  · rw [upperChar, if_neg hascii]
    split
    · rename_i long hlookup
      obtain ⟨before, after, heq, -⟩ := List.lookup_eq_some_iff.mp hlookup
      exact isForm_long hascii (by simp [heq])
    · exact isForm_image hc (fun run hrun => List.mem_append_left _ hrun) hascii

/-- The lower-case form of a character is a form of it. -/
theorem isForm_lowerChar : isForm c (lowerChar c) = true := by
  by_cases hascii : c.toNat < 128
  · exact forall_below (P := fun c => isAlphanumeric c = true ∨ beginsIdentifier c = true →
      isForm c (lowerChar c) = true) (by decide) hascii hc
  · rw [lowerChar, if_neg hascii]
    split
    · rename_i hdotted
      rw [hdotted]
      exact caseForms.dotted
    · exact isForm_image hc (fun run hrun => List.mem_append_right _ hrun) hascii

end Forms

/-- A part of the upper-case form of what begins a name continues one. -/
theorem continuesIdentifier_of_mem_upperChar {c d : Char} (h : beginsIdentifier c = true)
    (hd : d ∈ upperChar c) : continuesIdentifier d = true := by
  rcases isForm_iff.mp (isForm_upperChar (.inr h)) with hsame | ⟨-, e, es, hform, he, hes⟩
  · rw [hsame, List.mem_singleton] at hd
    exact hd ▸ continuesIdentifier_of_beginsIdentifier h
  · rw [hform] at hd
    rcases List.mem_cons.mp hd with rfl | hd
    · rw [isInitial, Bool.and_eq_true] at he
      exact continuesIdentifier_of_beginsIdentifier he.2
    · exact ((Bool.and_eq_true _ _).mp (hes d hd)).1

/-! ## Names -/

/-- A name begins and goes on as an identifier does and is no word of the language. -/
theorem isName_iff {cs : List Char} :
    isName cs = true ↔
      (∃ c rest, cs = c :: rest ∧ beginsIdentifier c = true ∧
        ∀ d ∈ rest, continuesIdentifier d = true) ∧
      wordKind (String.ofList cs) = .identifier := by
  rw [isName, Bool.and_eq_true, Bool.and_eq_true, beq_iff_eq, List.all_eq_true]
  refine and_congr_left' ?_
  cases cs with
  | nil => simp
  | cons c rest => simp

/-- A name is read as an identifier. -/
theorem wordKind_of_isName {word : String} (h : isName word.toList = true) :
    wordKind word = .identifier := by
  simpa using (isName_iff.mp h).2

/-- A word that is none of the language's words is read as an identifier. -/
theorem wordKind_of_not_mem {word : String}
    (h : word ∉ modifierWords ++ basicTypeWords ++ plainKeywords ++ literalWords) :
    wordKind word = .identifier := by
  simp only [List.mem_append, not_or] at h
  obtain ⟨⟨⟨hmodifier, hbasic⟩, hplain⟩, hliteral⟩ := h
  rw [wordKind, if_neg hmodifier, if_neg hbasic, if_neg hplain, if_neg hliteral]

/-- A capitalized name is still a name when it stands behind the words that accessors begin
with. -/
theorem isName_accessor {start : List Char} (hstart : start ∈ [['g', 'e', 't'], ['s', 'e', 't']])
    {name : List Char} (h : isName name = true) :
    isName (start ++ Naming.capitalize name) = true := by
  obtain ⟨⟨c, rest, rfl, hc, hrest⟩, -⟩ := isName_iff.mp h
  have hcapital : ∀ d ∈ Naming.capitalize (c :: rest), continuesIdentifier d = true := by
    intro d hd
    rcases List.mem_append.mp hd with hd | hd
    · exact continuesIdentifier_of_mem_upperChar hc hd
    · exact hrest d hd
  have hbegins : ∀ start ∈ [['g', 'e', 't'], ['s', 'e', 't']],
      (∃ d ds, start = d :: ds ∧ beginsIdentifier d = true ∧
        ∀ e ∈ ds, continuesIdentifier e = true) ∧
      ∀ word ∈ modifierWords ++ basicTypeWords ++ plainKeywords ++ literalWords,
        ¬ start <+: word.toList := by
    simp only [List.forall_mem_cons, List.cons.injEq]
    refine ⟨⟨⟨_, _, ⟨rfl, rfl⟩, by decide, by decide⟩, by decide⟩,
      ⟨⟨_, _, ⟨rfl, rfl⟩, by decide, by decide⟩, by decide⟩, by simp⟩
  obtain ⟨⟨d, ds, rfl, hd, hds⟩, hnoKeyword⟩ := hbegins start hstart
  refine isName_iff.mpr ⟨⟨d, ds ++ Naming.capitalize (c :: rest), rfl, hd, ?_⟩, ?_⟩
  · intro e he
    rcases List.mem_append.mp he with he | he
    · exact hds e he
    · exact hcapital e he
  · refine wordKind_of_not_mem fun hmem => hnoKeyword _ hmem ?_
    rw [String.toList_ofList]
    exact List.prefix_append _ _

end EntityMapper.Java

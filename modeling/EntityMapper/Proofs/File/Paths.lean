import EntityMapper.File.Path
import Mathlib.Data.List.Basic

/-!
# Paths as they are written

A path that has been read is written in a way that reads as the same path. The last name of a path
decides its suffix, and a name that ends like a class file has no other.
-/

namespace EntityMapper.Text

/-- Cutting at separators is the library's function. -/
theorem splitAfter_eq (separator : Char) (part cs : List Char) :
    splitAfter separator part cs = List.splitOnPPrepend (· == separator) cs part := by
  induction cs generalizing part with
  | nil => rfl
  | cons c cs ih =>
    rw [splitAfter, List.splitOnPPrepend_cons_eq_if]
    by_cases hc : c = separator
    · rw [if_pos hc, if_pos (by simpa using hc), ih, List.splitOnPPrepend_nil_right]
    · rw [if_neg hc, if_neg (by simpa using hc), ih]

/-- Splitting at a separator is what the library does. -/
theorem split_eq_splitOn (separator : Char) (cs : List Char) :
    split separator cs = cs.splitOn separator := by
  rw [split, splitAfter_eq, List.splitOnPPrepend_nil_right, List.splitOn_eq_splitOnP]

/-- Texts without separators come back from the text that they are joined to. -/
theorem split_intercalate {separator : Char} {parts : List String} (hne : parts ≠ [])
    (h : ∀ part ∈ parts, separator ∉ part.toList) :
    split separator ([separator].intercalate (parts.map String.toList)) =
      parts.map String.toList := by
  rw [split_eq_splitOn]
  refine List.splitOn_intercalate separator ?_ (by simpa using hne)
  rw [List.forall_mem_map]
  exact h

/-- A text without separators is its only part. -/
theorem split_of_not_mem {separator : Char} {cs : List Char} (h : separator ∉ cs) :
    split separator cs = [cs] := by
  rw [split_eq_splitOn, List.splitOn_eq_splitOnP, List.splitOnP_eq_singleton]
  intro c hc
  simpa using fun heq : c = separator => h (heq ▸ hc)

/-- No part of a text between separators holds a separator. -/
theorem not_mem_of_mem_split {separator : Char} {cs part : List Char}
    (h : part ∈ split separator cs) : separator ∉ part := by
  suffices key : ∀ front : List Char, separator ∉ front → part ∈ splitAfter separator front cs →
      separator ∉ part from key [] (by simp) h
  clear h
  induction cs with
  | nil =>
    intro front hfront hpart
    rw [splitAfter, List.mem_singleton] at hpart
    simpa [hpart] using hfront
  | cons c cs ih =>
    intro front hfront hpart
    rw [splitAfter] at hpart
    split at hpart
    · rcases List.mem_cons.mp hpart with rfl | hpart
      · simpa using hfront
      · exact ih [] (by simp) hpart
    · rename_i hc
      exact ih (c :: front) (by simp [hfront, Ne.symm hc]) hpart

/-- The last part of a text takes up what is put behind it without a separator. -/
theorem exists_split_append (separator : Char) (cs : List Char) {ending : List Char}
    (h : separator ∉ ending) : ∃ parts last, split separator cs = parts ++ [last] ∧
      split separator (cs ++ ending) = parts ++ [last ++ ending] := by
  suffices key : ∀ front : List Char, ∃ parts last,
      splitAfter separator front cs = parts ++ [last] ∧
        splitAfter separator front (cs ++ ending) = parts ++ [last ++ ending] from key []
  induction cs with
  | nil =>
    intro front
    refine ⟨[], front.reverse, rfl, ?_⟩
    rw [List.nil_append, List.nil_append, splitAfter_eq, List.splitOnPPrepend_eq_modifyHead,
      List.splitOnP_eq_singleton]
    · rfl
    · intro c hc
      simpa using fun heq : c = separator => h (heq ▸ hc)
  | cons c cs ih =>
    intro front
    rw [List.cons_append, splitAfter, splitAfter]
    split
    · obtain ⟨parts, last, hparts, hmore⟩ := ih []
      exact ⟨front.reverse :: parts, last, by rw [hparts]; rfl, by rw [hmore]; rfl⟩
    · exact ih (c :: front)

/-- A text that does not begin with a separator begins in its first part, which is the only one if
there is no separator. -/
theorem split_cons_of_ne {separator c : Char} (h : c ≠ separator) (cs : List Char) :
    ∃ part parts, split separator (c :: cs) = (c :: part) :: parts ∧
      (parts = [] ↔ separator ∉ cs) := by
  obtain ⟨part, parts, hsplit⟩ :=
    List.exists_cons_of_ne_nil (splitAfter_ne_nil separator [] cs)
  change split separator cs = part :: parts at hsplit
  refine ⟨part, parts, ?_, ?_, fun hmem => ?_⟩
  · rw [split_eq_splitOn, List.splitOn_cons_eq_if_modifyHead, ← split_eq_splitOn, hsplit]
    simp [h]
  · rintro rfl
    have hback := intercalate_split separator cs
    rw [hsplit] at hback
    have hpart : part = cs := by simpa using hback
    exact hpart ▸ not_mem_of_mem_split (hsplit ▸ List.mem_cons_self)
  · rw [split_of_not_mem hmem] at hsplit
    exact (List.cons_eq_cons.mp hsplit).2.symm

end EntityMapper.Text

namespace EntityMapper.File

namespace Path

/-- Every name is one that a path which has been read can hold. -/
def IsNormal (p : Path) : Prop :=
  ∀ name ∈ p.names, name ≠ "" ∧ name ≠ "." ∧ '/' ∉ name.toList

instance (p : Path) : Decidable p.IsNormal :=
  inferInstanceAs (Decidable (∀ name ∈ p.names, name ≠ "" ∧ name ≠ "." ∧ '/' ∉ name.toList))

/-- A path that has been read is normal. -/
theorem isNormal_ofString (s : String) : (ofString s).IsNormal := by
  intro name hname
  obtain ⟨hmem, hkept⟩ := List.mem_filter.mp hname
  obtain ⟨part, hpart, rfl⟩ := List.mem_map.mp hmem
  simp only [Bool.and_eq_true, bne_iff_ne] at hkept
  exact ⟨hkept.1, hkept.2, by simpa using Text.not_mem_of_mem_split hpart⟩

/-- The names of a text behind a root: what stands between slashes, without empty names and dots. -/
def namesOf (cs : List Char) : List String :=
  ((Text.split '/' cs).map String.ofList).filter fun name => name != "" && name != "."

/-- A slash in front adds no name. -/
theorem namesOf_slash (cs : List Char) : namesOf ('/' :: cs) = namesOf cs := by
  rw [namesOf, Text.split_eq_splitOn, List.splitOn_cons_eq_if_modifyHead]
  simp [namesOf, Text.split_eq_splitOn]

/-- Names between slashes are read again. -/
theorem namesOf_intercalate {names : List String} (hne : names ≠ [])
    (h : ∀ name ∈ names, name ≠ "" ∧ name ≠ "." ∧ '/' ∉ name.toList) :
    namesOf (['/'].intercalate (names.map String.toList)) = names := by
  have hsplit : Text.split '/' (['/'].intercalate (names.map String.toList)) =
      names.map String.toList :=
    Text.split_intercalate hne fun name hname => (h name hname).2.2
  have hback : (names.map String.toList).map String.ofList = names := by
    simp
  rw [namesOf, hsplit, hback, List.filter_eq_self]
  intro name hname
  obtain ⟨hempty, hdot, -⟩ := h name hname
  simp [hempty, hdot]

/-- Names between slashes do not begin with a slash. -/
theorem head_intercalate_ne {name : String} {names : List String} (hne : name ≠ "")
    (hslash : '/' ∉ name.toList) :
    ∃ c cs, ['/'].intercalate ((name :: names).map String.toList) = c :: cs ∧ c ≠ '/' := by
  obtain ⟨c, cs, hcs⟩ := List.exists_cons_of_ne_nil
    (show name.toList ≠ [] by simpa using hne)
  rw [hcs, List.mem_cons, not_or] at hslash
  cases names with
  | nil => exact ⟨c, cs, by simp [hcs], Ne.symm hslash.1⟩
  | cons next names =>
    refine ⟨c, cs ++ '/' :: ['/'].intercalate ((next :: names).map String.toList), ?_,
      Ne.symm hslash.1⟩
    simp [hcs, List.intercalate_cons_cons]

/-- A normal path is read off its own text. -/
theorem ofString_toString {p : Path} (h : p.IsNormal) : ofString p.toString = p := by
  obtain ⟨root, names⟩ := p
  cases names with
  | nil => cases root <;> decide
  | cons name names =>
    obtain ⟨hne, -, hslash⟩ := h name List.mem_cons_self
    obtain ⟨c, cs, htext, hc⟩ := @head_intercalate_ne name names hne hslash
    have hnames := namesOf_intercalate (List.cons_ne_nil name names) h
    have htoList : (toString ⟨root, name :: names⟩).toList = root.text.toList ++ c :: cs := by
      have hlist : (root.text ++ "/".intercalate (name :: names)).toList =
          root.text.toList ++ c :: cs := by
        rw [String.toList_append, String.toList_intercalate, ← htext]
        rfl
      rw [toString, if_neg]
      · exact hlist
      · intro hempty
        rw [hempty] at hlist
        simp at hlist
    rw [htext] at hnames
    rw [ofString, htoList]
    change Path.mk _ (namesOf _) = _
    cases root with
    | here => simp [Root.text, hc, hnames]
    | slash => simp [Root.text, hc, hnames, namesOf_slash]
    | twoSlashes => simp [Root.text, hc, hnames, namesOf_slash]

/-- A text without slashes is a name. -/
theorem ofString_of_not_mem {s : String} (hslash : '/' ∉ s.toList) (hne : s ≠ "")
    (hdot : s ≠ ".") : ofString s = ⟨.here, [s]⟩ := by
  have hroot : s.toList.takeWhile (· == '/') = [] := by
    cases hcs : s.toList with
    | nil => rfl
    | cons c cs =>
      rw [hcs, List.mem_cons, not_or] at hslash
      simp [Ne.symm hslash.1]
  rw [ofString, Text.split_of_not_mem hslash, hroot]
  simp [hne, hdot]

/-- A path has no root if its text does not begin with a slash. -/
theorem root_ofString_eq_here_iff {s : String} :
    (ofString s).root = .here ↔ s.toList.head? ≠ some '/' := by
  rw [ofString]
  cases s.toList with
  | nil => simp
  | cons c cs =>
    by_cases hc : c = '/'
    · rw [hc]
      simp only [List.takeWhile_cons, beq_self_eq_true, if_true, List.length_cons]
      split
      · rename_i hlength
        cases hlength
      · simp
      · simp
    · simp [hc]

/-! ## Directly in a directory -/

/-- A path leads from a directory to something of one name in it. -/
def IsChildOf (p directory : Path) : Prop :=
  ∃ name : String, p = ⟨directory.root, directory.names ++ [name]⟩ ∧
    name ≠ "" ∧ name ≠ "." ∧ name ≠ ".." ∧ '/' ∉ name.toList

/-- Whether a text, as a path from a directory, leads to something in the directory itself: it does
not begin with a slash, and nothing but single dots stands in front of its slashes. -/
def isDirect (cs : List Char) : Bool :=
  cs.head? != some '/' && (Text.split '/' cs).dropLast.all fun part => part == [] || part == ['.']

/-- A name without a slash is direct. -/
theorem isDirect_of_not_mem {cs : List Char} (h : '/' ∉ cs) : isDirect cs = true := by
  rw [isDirect, Text.split_of_not_mem h, Bool.and_eq_true, bne_iff_ne]
  exact ⟨fun hhead => h (List.mem_of_head? hhead), rfl⟩

/-- A text that begins neither with a slash nor with a dot is direct if it has no slash. -/
theorem isDirect_cons_iff {c : Char} {cs : List Char} (hslash : c ≠ '/') (hdot : c ≠ '.') :
    isDirect (c :: cs) = true ↔ '/' ∉ cs := by
  obtain ⟨part, parts, hsplit, hparts⟩ := Text.split_cons_of_ne hslash cs
  rw [← hparts, isDirect, hsplit]
  cases parts with
  | nil => simp [hslash]
  | cons next parts => simp [hdot]

/-! ## Suffixes -/

/-- A path of the given last name has the suffix of that name. -/
theorem suffix_of_getLast {p : Path} {name : String} (h : p.names.getLast? = some name) :
    p.suffix = String.ofList (suffixOf name.toList) := by
  rw [suffix, Path.name, h]
  rfl

/-- Paths with the same last name have the same suffix. -/
theorem lowerSuffix_congr {p q : Path} (h : p.names.getLast? = q.names.getLast?) :
    p.lowerSuffix = q.lowerSuffix := by
  rw [lowerSuffix, lowerSuffix, suffix, suffix, Path.name, Path.name, h]

/-- A name that ends in a dot and letters without one has those as its suffix, if it has one. -/
theorem suffixOf_append {ending : List Char} (stem : List Char) (hdot : '.' ∉ ending) :
    suffixOf (stem ++ '.' :: ending) = '.' :: ending ∨ suffixOf (stem ++ '.' :: ending) = [] := by
  have hreverse : (stem ++ '.' :: ending).reverse = ending.reverse ++ '.' :: stem.reverse := by
    simp
  have htake : (ending.reverse ++ '.' :: stem.reverse).takeWhile (· != '.') = ending.reverse := by
    rw [List.takeWhile_append_of_pos]
    · simp
    · intro c hc
      simpa using fun heq : c = '.' => hdot (heq ▸ List.mem_reverse.mp hc)
  rw [suffixOf, hreverse, htake, List.reverse_reverse]
  split
  · exact .inr rfl
  · exact .inl rfl

end Path

end EntityMapper.File

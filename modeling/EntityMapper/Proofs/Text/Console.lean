import EntityMapper.Proofs.File.Paths
import EntityMapper.Text.Console

/-!
# Texts that a console shows as they are

A console drops some control characters and fills tabs with blanks, and it keeps every other
character.  So it shows exactly those texts as they are in which none of these stands.
-/

namespace EntityMapper.Text

/-- Whether a console shows something else in the place of a character. -/
def isAltered (c : Char) : Bool :=
  isUnshown c || c == '\t'

/-- Every character of a list of lines stands in a line, or it separates two lines. -/
theorem mem_intercalate {separator : Char} {lines : List (List Char)} {c : Char}
    (h : c ∈ [separator].intercalate lines) : c = separator ∨ ∃ line ∈ lines, c ∈ line := by
  induction lines with
  | nil => cases h
  | cons line lines ih =>
    cases lines with
    | nil => exact .inr ⟨line, List.mem_cons_self, by simpa using h⟩
    | cons next lines =>
      rw [List.intercalate_cons_cons, List.mem_append, List.mem_append, List.mem_singleton] at h
      rcases h with (hline | heq) | hrest
      · exact .inr ⟨line, List.mem_cons_self, hline⟩
      · exact .inl heq
      · rcases ih hrest with heq | ⟨other, hother, hc⟩
        · exact .inl heq
        · exact .inr ⟨other, List.mem_cons_of_mem line hother, hc⟩

/-- Every character of a line stands in the text. -/
theorem mem_intercalate_of_mem {separator : Char} {lines : List (List Char)} {line : List Char}
    {c : Char} (hline : line ∈ lines) (hc : c ∈ line) : c ∈ [separator].intercalate lines := by
  induction lines with
  | nil => cases hline
  | cons first lines ih =>
    cases lines with
    | nil =>
      obtain rfl := List.mem_singleton.mp hline
      simpa using hc
    | cons next lines =>
      rw [List.intercalate_cons_cons, List.mem_append, List.mem_append]
      rcases List.mem_cons.mp hline with rfl | hline
      · exact .inl (.inl hc)
      · exact .inr (ih hline)

/-- Every character of a part stands in the text that was cut. -/
theorem mem_of_mem_split {separator : Char} {cs part : List Char} {c : Char}
    (hpart : part ∈ split separator cs) (hc : c ∈ part) : c ∈ cs := by
  rw [← intercalate_split separator cs]
  exact mem_intercalate_of_mem hpart hc

/-- Filling tabs brings in nothing but blanks. -/
theorem mem_fillTabs {column : Nat} {parts : List (List Char)} {c : Char}
    (h : c ∈ fillTabs column parts) : c = ' ' ∨ ∃ part ∈ parts, c ∈ part := by
  induction parts generalizing column with
  | nil => cases h
  | cons part parts ih =>
    cases parts with
    | nil => exact .inr ⟨part, List.mem_cons_self, h⟩
    | cons next parts =>
      rw [fillTabs] at h
      · rw [List.mem_append, List.mem_append, List.mem_cons] at h
        rcases h with (hpart | heq | hblank) | hrest
        · exact .inr ⟨part, List.mem_cons_self, hpart⟩
        · exact .inl heq
        · exact .inl (List.eq_of_mem_replicate hblank)
        · rcases ih hrest with heq | ⟨other, hother, hc⟩
          · exact .inl heq
          · exact .inr ⟨other, List.mem_cons_of_mem part hother, hc⟩
      · simp

/-- No character that a console alters is left in what it shows. -/
theorem not_isAltered_of_mem {s : String} {c : Char} (h : c ∈ (onConsole s).toList) :
    isAltered c = false := by
  rw [onConsole, ofLines, String.toList_intercalate, List.map_map] at h
  rcases mem_intercalate h with rfl | ⟨line, hline, hc⟩
  · decide
  · obtain ⟨shown, hshown, rfl⟩ := List.mem_map.mp hline
    obtain ⟨kept, hkept, rfl⟩ := List.mem_map.mp hshown
    rw [Function.comp_apply, String.toList_ofList] at hc
    rcases mem_fillTabs hc with rfl | ⟨part, hpart, hc⟩
    · decide
    · have htab : c ≠ '\t' := fun heq => not_mem_of_mem_split hpart (heq ▸ hc)
      have hshown := (List.mem_filter.mp (mem_of_mem_split hkept (mem_of_mem_split hpart hc))).2
      rw [isAltered, Bool.or_eq_false_iff, beq_eq_false_iff_ne]
      exact ⟨by simpa using hshown, htab⟩

/-- A console shows exactly those texts as they are that hold no character which it alters. -/
theorem onConsole_eq_self_iff {s : String} :
    onConsole s = s ↔ ∀ c ∈ s.toList, isAltered c = false := by
  constructor
  · intro h c hc
    rw [← h] at hc
    exact not_isAltered_of_mem hc
  · intro h
    have hkept : s.toList.filter (!isUnshown ·) = s.toList := by
      rw [List.filter_eq_self]
      intro c hc
      have hnot := h c hc
      rw [isAltered, Bool.or_eq_false_iff] at hnot
      simp [hnot.1]
    have hlines : consoleLines s.toList = split '\n' s.toList := by
      rw [consoleLines, hkept]
      refine (List.map_congr_left fun line hline => ?_).trans (List.map_id _)
      have htab : '\t' ∉ line := by
        intro hmem
        have hnot := h '\t' (mem_of_mem_split hline hmem)
        exact absurd hnot (by decide)
      rw [split_of_not_mem htab, fillTabs, id_eq]
    apply String.toList_injective
    rw [onConsole, ofLines, hlines, String.toList_intercalate, List.map_map]
    have hsame : (String.toList ∘ String.ofList) = id := by
      funext cs
      exact String.toList_ofList
    rw [hsame, List.map_id]
    exact intercalate_split '\n' s.toList

end EntityMapper.Text

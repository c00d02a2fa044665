import EntityMapper.Watch.Watcher
import Mathlib.Data.List.Nodup

/-!
# The memory of changed paths

A path is pending at most once. Marking it again changes its time and not its place, and a flush
parts the pending paths into those that are due and those that wait, both in their old order.
-/

namespace EntityMapper.Watch

open File (Path Tree)

variable {τ : Type}

namespace Pending

@[simp] theorem paths_cons (x : Path × τ) (pending : Pending τ) :
    paths (x :: pending) = x.1 :: paths pending := rfl

/-- A path is pending iff it is so since some time. -/
theorem mem_paths_iff {pending : Pending τ} {p : Path} :
    p ∈ pending.paths ↔ ∃ t, (p, t) ∈ pending := by
  simp [paths]

/-! ## Marking -/

/-- A path that is not pending is put behind the others. -/
theorem mark_of_not_mem {p : Path} {pending : Pending τ} (now : τ) (h : p ∉ pending.paths) :
    mark p now pending = pending ++ [(p, now)] := by
  induction pending with
  | nil => rfl
  | cons x rest ih =>
    obtain ⟨q, time⟩ := x
    rw [paths_cons, List.mem_cons, not_or] at h
    rw [mark, if_neg (Ne.symm h.1), ih h.2]
    rfl

/-- A path that is pending keeps its place. -/
theorem paths_mark_of_mem {p : Path} {pending : Pending τ} (now : τ) (h : p ∈ pending.paths) :
    (mark p now pending).paths = pending.paths := by
  induction pending with
  | nil => cases h
  | cons x rest ih =>
    obtain ⟨q, time⟩ := x
    rw [mark]
    split
    · rename_i heq
      rw [paths_cons, paths_cons, heq]
    · rename_i hne
      rw [paths_cons, paths_cons, ih]
      exact (List.mem_cons.mp h).resolve_left (Ne.symm hne)

/-- A mark leaves the paths as they are, or puts a new one behind them. -/
theorem paths_mark (p : Path) (now : τ) (pending : Pending τ) :
    (mark p now pending).paths =
      if p ∈ pending.paths then pending.paths else pending.paths ++ [p] := by
  split
  · rename_i h
    exact paths_mark_of_mem now h
  · rename_i h
    rw [mark_of_not_mem now h]
    simp [paths]

/-- Marking a path keeps every path pending only once. -/
theorem nodup_mark {p : Path} {pending : Pending τ} (now : τ) (h : pending.paths.Nodup) :
    (mark p now pending).paths.Nodup := by
  rw [paths_mark]
  split
  · exact h
  · rename_i hp
    rw [List.nodup_append]
    refine ⟨h, List.nodup_singleton p, ?_⟩
    rintro q hq _ hp' rfl
    exact hp (List.mem_singleton.mp hp' ▸ hq)

/-- Marking a path sets its time and no other. -/
theorem mem_mark_iff {p : Path} {now : τ} {pending : Pending τ} (h : pending.paths.Nodup)
    {x : Path × τ} : x ∈ mark p now pending ↔ x = (p, now) ∨ x.1 ≠ p ∧ x ∈ pending := by
  induction pending with
  | nil => simp [mark]
  | cons y rest ih =>
    obtain ⟨q, time⟩ := y
    rw [paths_cons, List.nodup_cons] at h
    rw [mark]
    split
    · rename_i heq
      subst heq
      have hrest : x ∈ rest → x.1 ≠ q := fun hx heq => h.1 (heq ▸ mem_paths_iff.mpr ⟨x.2, hx⟩)
      rw [List.mem_cons, List.mem_cons]
      constructor
      · rintro (rfl | hx)
        · exact .inl rfl
        · exact .inr ⟨hrest hx, .inr hx⟩
      · rintro (rfl | ⟨hne, rfl | hx⟩)
        · exact .inl rfl
        · exact absurd rfl hne
        · exact .inr hx
    · rename_i hne
      rw [List.mem_cons, List.mem_cons, ih h.2]
      constructor
      · rintro (rfl | rfl | ⟨hx, hmem⟩)
        · exact .inr ⟨hne, .inl rfl⟩
        · exact .inl rfl
        · exact .inr ⟨hx, .inr hmem⟩
      · rintro (rfl | ⟨hx, rfl | hmem⟩)
        · exact .inr (.inl rfl)
        · exact .inl rfl
        · exact .inr (.inr ⟨hx, hmem⟩)

/-- After a mark the marked path is pending and all others as before. -/
theorem mem_paths_mark_iff {p q : Path} {now : τ} {pending : Pending τ} :
    q ∈ (mark p now pending).paths ↔ q = p ∨ q ∈ pending.paths := by
  rw [paths_mark]
  split
  · rename_i h
    exact ⟨.inr, fun hq => hq.elim (fun heq => heq ▸ h) id⟩
  · rw [List.mem_append, List.mem_singleton, or_comm]

/-! ## Flushing -/

section Time

variable [Sub τ] [LE τ] [DecidableLE τ] {quietPeriod now : τ} {pending : Pending τ}

/-- A path is due iff it is pending since a quiet period or more. -/
theorem mem_due_iff {p : Path} :
    p ∈ pending.due quietPeriod now ↔ ∃ t, (p, t) ∈ pending ∧ quietPeriod ≤ now - t := by
  simp [due, isQuiet]

/-- A path waits iff it is pending and a quiet period is not over. -/
theorem mem_waiting_iff {x : Path × τ} :
    x ∈ pending.waiting quietPeriod now ↔ x ∈ pending ∧ ¬ quietPeriod ≤ now - x.2 := by
  simp [waiting, isQuiet]

/-- The due paths are pending ones in their order. -/
theorem due_sublist : (pending.due quietPeriod now).Sublist pending.paths :=
  List.filter_sublist.map Prod.fst

/-- The waiting paths are pending ones in their order. -/
theorem waiting_sublist : (pending.waiting quietPeriod now).Sublist pending :=
  List.filter_sublist

/-- Of paths that are pending once, those wait that are not due. -/
theorem mem_waiting_iff_not_mem_due (h : pending.paths.Nodup) {x : Path × τ} :
    x ∈ pending.waiting quietPeriod now ↔ x ∈ pending ∧ x.1 ∉ pending.due quietPeriod now := by
  rw [mem_waiting_iff, mem_due_iff]
  constructor
  · rintro ⟨hx, hlate⟩
    refine ⟨hx, ?_⟩
    rintro ⟨t, ht, hquiet⟩
    have heq : (x.1, t) = x := List.inj_on_of_nodup_map h ht hx rfl
    rw [← heq] at hlate
    exact hlate hquiet
  · rintro ⟨hx, hdue⟩
    exact ⟨hx, fun hquiet => hdue ⟨x.2, hx, hquiet⟩⟩

end Time

end Pending

end EntityMapper.Watch

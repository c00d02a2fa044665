import EntityMapper.Proofs.Watch.History

/-!
# What is lost when a conversion ends early

A flush takes all the paths that are due out of the memory before it converts the first one. When a
conversion ends early, its path and those behind it have not been converted and are not pending
either, so that only another change brings them back.
-/

namespace EntityMapper.Watch.Watcher

open File (Path Tree)
open Conversion (Failure Run)

variable {τ : Type} [Sub τ] [LE τ] [DecidableLE τ]

/-- A path that a flush returns comes back only after another change. -/
theorem changed_of_returnedAt {w : Watcher τ} (hw : w.pending = []) {h : List (Action τ)}
    {now : τ} {files : Tree} {p : Path} (hp : p ∈ ((w.after h).flush files now).due)
    {later : List (Action τ)} {j : Nat} (hj : h.length < j)
    (hr : w.ReturnedAt (h ++ .flush now files :: later) p j) :
    ∃ k time, h.length < k ∧ k < j ∧
      ChangedAt (h ++ .flush now files :: later) p k time := by
  refine changed_between hw hj ⟨now, files, ?_, ?_⟩ hr
  · simp
  · simpa using hp

/-- When a flush ends early, the paths before the failing one are converted; the failing one and
those behind it are neither converted nor pending, and no flush returns them before they change
again. -/
theorem forgotten_of_failure (q : Conversion.Request) (quietPeriod : τ) (h : List (Action τ))
    (files : Tree) (now : τ) (why : Failure)
    (hfails : (((fresh q quietPeriod).after h).flush files now).run.failure = some why) :
    ∃ (steps : List (Path × Run)) (path : Path) (rest : List Path) (before : Tree),
      steps.map (·.1) ++ path :: rest = (((fresh q quietPeriod).after h).flush files now).due ∧
      Conversions q files steps before ∧ (conversion q before path).failure = some why ∧
      (((fresh q quietPeriod).after h).flush files now).run.tree =
        (conversion q before path).tree ∧
      ∀ p ∈ path :: rest,
        p ∉ ((fresh q quietPeriod).after (h ++ [.flush now files])).pending.paths ∧
        ∀ later j, h.length < j →
          (fresh q quietPeriod).ReturnedAt (h ++ .flush now files :: later) p j →
          ∃ k time, h.length < k ∧ k < j ∧
            ChangedAt (h ++ .flush now files :: later) p k time := by
  obtain ⟨steps, path, rest, before, hpaths, hsteps, hfailing, htree⟩ :=
    conversions_of_failure hfails
  have hrequest : ((fresh q quietPeriod).after h).request = q := after_request _ h
  rw [hrequest] at hsteps hfailing
  have hleft : (((fresh q quietPeriod).after h).flush files now).run.tree =
      (conversion q before path).tree := htree.trans (by rw [hrequest])
  refine ⟨steps, path, rest, before, hpaths, hsteps, hfailing, hleft, fun p hp => ?_⟩
  have hdue : p ∈ (((fresh q quietPeriod).after h).flush files now).due := by
    change p ∈ Pending.due _ _ _
    rw [← hpaths]
    exact List.mem_append_right _ hp
  have hm := remembers (w := fresh q quietPeriod) rfl h
  constructor
  · rw [after_append, Pending.mem_paths_iff]
    rintro ⟨time, hmem⟩
    exact ((flushesExactly hm.nodup files now).mem_pending_iff _).mp hmem |>.2 hdue
  · intro later j hj hr
    exact changed_of_returnedAt rfl hdue hj hr

/-- Two files that declare tables, and a file in the place of the directory of classes. -/
def obstructedTree : Tree where
  files :=
    [(["a.sql"], "CREATE TABLE alpha (id INT)".toList.map fun c => UInt8.ofNat c.toNat),
     (["b.sql"], "CREATE TABLE beta (id INT)".toList.map fun c => UInt8.ofNat c.toNat),
     (["out"], [])]

/-- Both files change. -/
def bothChanged : List (Action Int) :=
  [.event 0 { source := "a.sql" }, .event 0 { source := "b.sql" }]

theorem forgotten_of_failure_obstructed :
    (((fresh {} (1 : Int)).after bothChanged).flush obstructedTree 5).run.failure =
        some (.access .exists_) ∧
      ∃ steps path rest,
        steps.map (·.1) ++ path :: rest = [⟨.here, ["a.sql"]⟩, ⟨.here, ["b.sql"]⟩] ∧
        (∃ before, Conversions {} obstructedTree steps before) ∧
        ∀ p ∈ path :: rest, p ∉ ((fresh {} (1 : Int)).after
          (bothChanged ++ [.flush 5 obstructedTree])).pending.paths := by
  have hfails : (((fresh {} (1 : Int)).after bothChanged).flush obstructedTree 5).run.failure =
      some (.access .exists_) := by
    decide +kernel
  have hdue : (((fresh {} (1 : Int)).after bothChanged).flush obstructedTree 5).due =
      [⟨.here, ["a.sql"]⟩, ⟨.here, ["b.sql"]⟩] := by
    decide +kernel
  obtain ⟨steps, path, rest, before, hpaths, hsteps, -, -, hlost⟩ :=
    forgotten_of_failure {} (1 : Int) bothChanged obstructedTree 5 _ hfails
  exact ⟨hfails, steps, path, rest, hpaths.trans hdue, ⟨before, hsteps⟩, fun p hp =>
    (hlost p hp).1⟩

/-- Neither of two due files is converted or pending after a flush whose first conversion ends
early. -/
theorem not_pending_after_failure :
    (((fresh {} (1 : Int)).after bothChanged).flush obstructedTree 5).run.failure =
        some (.access .exists_) ∧
      (((fresh {} (1 : Int)).after bothChanged).flush obstructedTree 5).due =
        [⟨.here, ["a.sql"]⟩, ⟨.here, ["b.sql"]⟩] ∧
      (((fresh {} (1 : Int)).after bothChanged).flush obstructedTree 5).run.tree =
        obstructedTree ∧
      ((fresh {} (1 : Int)).after (bothChanged ++ [.flush 5 obstructedTree])).pending = [] := by
  refine ⟨?_, ?_, ?_, ?_⟩
  · decide +kernel
  · decide +kernel
  · decide +kernel
  · decide +kernel

end EntityMapper.Watch.Watcher

import EntityMapper.Proofs.Watch.History
import EntityMapper.Watch.Loop
import Mathlib.Algebra.Order.Group.Defs
import Mathlib.Algebra.Order.Group.Unbundled.Basic
import Mathlib.Algebra.Order.Ring.Rat
import Mathlib.Data.List.Chain

/-!
# Whole watches

A watch is a row of iterations, each a pause in which files are modified and a flush of the files
that are due then. A modified file is converted in the first iteration that comes a quiet period
later, unless it is modified again before; no modification leads to two conversions. The first
conversion that ends early is the last one, and however the iterations end, the observer is stopped
and joined once.
-/

namespace EntityMapper.Watch

open Conversion (Failure Report Request Run)
open File (Path Tree)

variable {τ : Type}

/-- What a pause of a watch brings: the clock behind it, and the files that have been modified. -/
structure Beat (τ : Type) where
  now : τ
  modified : List String

/-- The beats of the pauses from a clock on. -/
def beats (clock : τ) : List (Pause τ) → List (Beat τ)
  | [] => []
  | p :: ps => ⟨p.time.getD clock, p.modified⟩ :: beats (p.time.getD clock) ps

/-- A watched path is among those that are modified. -/
def Marks (modified : List String) (p : Path) : Prop :=
  ∃ source ∈ modified, ({ source := source } : Event).isChange = true ∧
    ({ source := source } : Event).path = p

/-! ## Pauses -/

namespace Watcher

variable {w : Watcher τ}

theorem observeAll_cons (w : Watcher τ) (now : τ) (path : String) (paths : List String) :
    w.observeAll now (path :: paths) =
      (w.observe now { source := path }).observeAll now paths := by
  rw [observeAll, List.foldl_cons, observeAll]

@[simp] theorem observeAll_request (w : Watcher τ) (now : τ) (paths : List String) :
    (w.observeAll now paths).request = w.request := by
  induction paths generalizing w with
  | nil => rfl
  | cons path paths ih => rw [observeAll_cons, ih, observe]

@[simp] theorem observeAll_quietPeriod (w : Watcher τ) (now : τ) (paths : List String) :
    (w.observeAll now paths).quietPeriod = w.quietPeriod := by
  induction paths generalizing w with
  | nil => rfl
  | cons path paths ih => rw [observeAll_cons, ih, observe]

/-- A path is pending once after an event, if it was before. -/
theorem nodup_observe (hw : w.pending.paths.Nodup) (now : τ) (e : Event) :
    (w.observe now e).pending.paths.Nodup := by
  rw [observe, Pending.observe]
  split
  · exact Pending.nodup_mark now hw
  · exact hw

/-- A path is pending once after modifications, if it was before. -/
theorem nodup_observeAll (hw : w.pending.paths.Nodup) (now : τ) (paths : List String) :
    (w.observeAll now paths).pending.paths.Nodup := by
  induction paths generalizing w with
  | nil => exact hw
  | cons path paths ih =>
    rw [observeAll_cons]
    exact ih (nodup_observe hw now { source := path })

/-- An event marks its own path with its time and leaves all others. -/
theorem mem_observe_iff (hw : w.pending.paths.Nodup) {now time : τ} {e : Event} {p : Path} :
    (p, time) ∈ (w.observe now e).pending ↔
      (e.isChange = true ∧ e.path = p) ∧ time = now ∨
        ¬ (e.isChange = true ∧ e.path = p) ∧ (p, time) ∈ w.pending := by
  rw [observe, Pending.observe]
  split
  · rename_i hchange
    rw [Pending.mem_mark_iff hw, Prod.mk.injEq]
    by_cases hp : e.path = p
    · simp [hp, hchange]
    · simp [hp, Ne.symm hp]
  · rename_i hchange
    simp [hchange]

/-- After a pause the paths that it has modified are pending from its time, and the others as they
were. -/
theorem mem_observeAll_iff (hw : w.pending.paths.Nodup) {now time : τ} {paths : List String}
    {p : Path} :
    (p, time) ∈ (w.observeAll now paths).pending ↔
      Marks paths p ∧ time = now ∨ ¬ Marks paths p ∧ (p, time) ∈ w.pending := by
  induction paths generalizing w with
  | nil => simp [observeAll, Marks]
  | cons path paths ih =>
    have hmarks : Marks (path :: paths) p ↔ (({ source := path } : Event).isChange = true ∧
        ({ source := path } : Event).path = p) ∨ Marks paths p := by
      simp only [Marks, List.exists_mem_cons_iff]
    rw [observeAll_cons, ih (nodup_observe hw now { source := path }), mem_observe_iff hw, hmarks]
    by_cases hlater : Marks paths p
    · simp only [hlater, or_true, true_and, not_true, false_and, or_false]
    · simp only [hlater, or_false, false_and, not_false_eq_true, true_and, false_or]

end Watcher

/-! ## Iterations -/

/-- What an iteration of a watch does: the paths that are pending as it begins and those that are
due then, the files as it finds them, and the run of the conversions. -/
structure Iteration where
  pending : List Path
  due : List Path
  before : Tree
  run : Run

section Run

variable [Sub τ] [LE τ] [DecidableLE τ]

namespace Watcher

/-- The watcher after a pause and the flush behind it. -/
def beat (w : Watcher τ) (b : Beat τ) : Watcher τ :=
  { w.observeAll b.now b.modified with
    pending := (w.observeAll b.now b.modified).pending.waiting w.quietPeriod b.now }

/-- What a watcher does in an iteration. -/
def iteration (w : Watcher τ) (t : Tree) (b : Beat τ) : Iteration :=
  let due := (w.observeAll b.now b.modified).pending.due w.quietPeriod b.now
  ⟨w.pending.paths, due, t, convertPaths w.request t due⟩

/-- The iterations of a watch, up to the first whose run ends early. -/
def iterations (w : Watcher τ) (t : Tree) : List (Beat τ) → List Iteration
  | [] => []
  | b :: bs =>
    let first := w.iteration t b
    first ::
      match first.run.failure with
      | some _ => []
      | none => (w.beat b).iterations first.run.tree bs

@[simp] theorem beat_request (w : Watcher τ) (b : Beat τ) : (w.beat b).request = w.request :=
  observeAll_request w b.now b.modified

@[simp] theorem beat_quietPeriod (w : Watcher τ) (b : Beat τ) :
    (w.beat b).quietPeriod = w.quietPeriod :=
  observeAll_quietPeriod w b.now b.modified

/-- A path is pending once after a beat, if it was before. -/
theorem nodup_beat {w : Watcher τ} (hw : w.pending.paths.Nodup) (b : Beat τ) :
    (w.beat b).pending.paths.Nodup :=
  (nodup_observeAll hw b.now b.modified).sublist (Pending.waiting_sublist.map _)

/-- A pause and a flush, as the loop goes through them. -/
theorem flush_observeAll (w : Watcher τ) (t : Tree) (now : τ) (paths : List String) :
    (w.observeAll now paths).flush t now =
      ⟨w.beat ⟨now, paths⟩, (w.iteration t ⟨now, paths⟩).due,
        (w.iteration t ⟨now, paths⟩).run⟩ := by
  simp only [flush, beat, iteration, observeAll_request, observeAll_quietPeriod]

end Watcher

end Run

/-! ## When a modification falls due -/

/-- From an index to another no beat modifies a path. -/
def Undisturbed (bs : List (Beat τ)) (p : Path) (i j : Nat) : Prop :=
  ∀ k d, i ≤ k → k ≤ j → bs[k]? = some d → ¬ Marks d.modified p

section Undisturbed

variable {b : Beat τ} {bs : List (Beat τ)} {p : Path} {i j : Nat}

/-- From the first beat on a path is undisturbed iff this beat does not modify it and the others do
not. -/
theorem undisturbed_cons_zero : Undisturbed (b :: bs) p 0 j ↔
    ¬ Marks b.modified p ∧ Undisturbed (b :: bs) p 1 j := by
  constructor
  · intro h
    exact ⟨h 0 b (by omega) (by omega) rfl, fun k d _ hk hd => h k d (by omega) hk hd⟩
  · rintro ⟨hfirst, hlater⟩ k d - hk hd
    cases k with
    | zero =>
      obtain rfl : b = d := Option.some.inj hd
      exact hfirst
    | succ k => exact hlater (k + 1) d (by omega) hk hd

/-- No beat disturbs a path between indices in reverse order. -/
theorem undisturbed_zero_of_lt (hlt : j < i) : Undisturbed bs p i j := by
  intro k d hi hk
  omega

/-- Behind the first beat a path is undisturbed as among the others. -/
theorem undisturbed_cons_succ : Undisturbed (b :: bs) p (i + 1) (j + 1) ↔
    Undisturbed bs p i j := by
  constructor
  · intro h k d hi hk hd
    exact h (k + 1) d (by omega) (by omega) hd
  · intro h k d hi hk hd
    cases k with
    | zero => omega
    | succ k => exact h k d (by omega) (by omega) hd

end Undisturbed

section Due

variable [Add τ] [LE τ]

/-- A beat is the first one, from an index on, that comes a quiet period after a time. -/
def FirstLate (quietPeriod time : τ) (bs : List (Beat τ)) (i j : Nat) : Prop :=
  i ≤ j ∧ (∃ c, bs[j]? = some c ∧ time + quietPeriod ≤ c.now) ∧
    ∀ k d, i ≤ k → k < j → bs[k]? = some d → ¬ time + quietPeriod ≤ d.now

/-- A beat modifies a path, and another is the first that comes a quiet period later; none up to
there modifies the path again, that one included, whose files are modified before its flush. -/
def Triggers (quietPeriod : τ) (bs : List (Beat τ)) (p : Path) (i j : Nat) : Prop :=
  ∃ b, bs[i]? = some b ∧ Marks b.modified p ∧ FirstLate quietPeriod b.now bs i j ∧
    Undisturbed bs p (i + 1) j

variable {quietPeriod time : τ} {b : Beat τ} {bs : List (Beat τ)} {p : Path} {i j : Nat}

/-- At most one beat is the first that comes a quiet period after a time. -/
theorem FirstLate.unique {j' : Nat} (h : FirstLate quietPeriod time bs i j)
    (h' : FirstLate quietPeriod time bs i j') : j = j' := by
  obtain ⟨hle, ⟨c, hc, hlate⟩, hfirst⟩ := h
  obtain ⟨hle', ⟨c', hc', hlate'⟩, hfirst'⟩ := h'
  obtain hlt | heq | hgt := Nat.lt_trichotomy j j'
  · exact absurd hlate (hfirst' j c hle hlt hc)
  · exact heq
  · exact absurd hlate' (hfirst j' c' hle' hgt hc')

/-- A modification falls due once at most. -/
theorem Triggers.unique {j' : Nat} (h : Triggers quietPeriod bs p i j)
    (h' : Triggers quietPeriod bs p i j') : j = j' := by
  obtain ⟨b, hb, -, hfirst, -⟩ := h
  obtain ⟨b', hb', -, hfirst', -⟩ := h'
  obtain rfl : b = b' := Option.some.inj (hb.symm.trans hb')
  exact hfirst.unique hfirst'

/-- The first beat is the first late one iff it comes a quiet period after the time. -/
theorem firstLate_cons_zero_zero :
    FirstLate quietPeriod time (b :: bs) 0 0 ↔ time + quietPeriod ≤ b.now := by
  simp [FirstLate]

/-- A later beat is the first late one iff the first beat is not late and it is so among the others.
-/
theorem firstLate_cons_zero_succ : FirstLate quietPeriod time (b :: bs) 0 (j + 1) ↔
    ¬ time + quietPeriod ≤ b.now ∧ FirstLate quietPeriod time bs 0 j := by
  constructor
  · rintro ⟨-, hlate, hfirst⟩
    refine ⟨hfirst 0 b (by omega) (by omega) rfl, Nat.zero_le _, hlate, fun k d _ hk hd => ?_⟩
    exact hfirst (k + 1) d (by omega) (by omega) hd
  · rintro ⟨hearly, -, hlate, hfirst⟩
    refine ⟨Nat.zero_le _, hlate, fun k d _ hk hd => ?_⟩
    cases k with
    | zero =>
      obtain rfl : b = d := Option.some.inj hd
      exact hearly
    | succ k => exact hfirst k d (by omega) (by omega) hd

/-- Behind the first beat the first late one is that among the others. -/
theorem firstLate_cons_succ : FirstLate quietPeriod time (b :: bs) (i + 1) (j + 1) ↔
    FirstLate quietPeriod time bs i j := by
  constructor
  · rintro ⟨hle, hlate, hfirst⟩
    refine ⟨by omega, hlate, fun k d hi hk hd => ?_⟩
    exact hfirst (k + 1) d (by omega) (by omega) hd
  · rintro ⟨hle, hlate, hfirst⟩
    refine ⟨by omega, hlate, fun k d hi hk hd => ?_⟩
    cases k with
    | zero => omega
    | succ k => exact hfirst k d (by omega) (by omega) hd

/-- What a beat triggers in itself. -/
theorem triggers_cons_zero_iff : (∃ i, Triggers quietPeriod (b :: bs) p i 0) ↔
    Marks b.modified p ∧ b.now + quietPeriod ≤ b.now := by
  constructor
  · rintro ⟨i, c, hc, hmarks, hlate, -⟩
    obtain rfl : i = 0 := Nat.le_zero.mp hlate.1
    obtain rfl : b = c := Option.some.inj hc
    exact ⟨hmarks, firstLate_cons_zero_zero.mp hlate⟩
  · rintro ⟨hmarks, hlate⟩
    exact ⟨0, b, rfl, hmarks, firstLate_cons_zero_zero.mpr hlate, undisturbed_zero_of_lt (by omega)⟩

/-- What triggers a later beat: the first beat, if its modification is not disturbed, or one behind
it. -/
theorem triggers_cons_succ_iff : (∃ i, Triggers quietPeriod (b :: bs) p i (j + 1)) ↔
    (Marks b.modified p ∧ FirstLate quietPeriod b.now (b :: bs) 0 (j + 1) ∧
      Undisturbed bs p 0 j) ∨ ∃ i, Triggers quietPeriod bs p i j := by
  constructor
  · rintro ⟨i, c, hc, hmarks, hlate, hrest⟩
    cases i with
    | zero =>
      obtain rfl : b = c := Option.some.inj hc
      exact .inl ⟨hmarks, hlate, undisturbed_cons_succ.mp hrest⟩
    | succ i =>
      exact .inr ⟨i, c, hc, hmarks, firstLate_cons_succ.mp hlate, undisturbed_cons_succ.mp hrest⟩
  · rintro (⟨hmarks, hlate, hrest⟩ | ⟨i, c, hc, hmarks, hlate, hrest⟩)
    · exact ⟨0, b, rfl, hmarks, hlate, undisturbed_cons_succ.mpr hrest⟩
    · exact ⟨i + 1, c, hc, hmarks, firstLate_cons_succ.mpr hlate, undisturbed_cons_succ.mpr hrest⟩

end Due

/-! ## What the loop does with its iterations -/

section Run

variable [Sub τ] [LE τ] [DecidableLE τ]

/-- How a watch ends whose conversions have ended early or not. -/
def endingAfter : Option Failure → Ending
  | none => .interrupted
  | some why => .failed why

/-- The pause that is interrupted, where the conversions have not ended early. -/
def interruptedPause (pending : List Path) : Option Failure → List Call
  | none => [.pause pending]
  | some _ => []

/-- A row of iterations, each of which finds the files as the one before leaves them. -/
structure InTurn (q : Request) (t : Tree) (its : List Iteration) : Prop where
  first : ∀ it ∈ its.head?, it.before = t
  next : its.IsChain fun a b => a.run.failure = none ∧ b.before = a.run.tree
  nodup : ∀ it ∈ its, it.due.Nodup
  converts : ∀ it ∈ its, Converts q it.before it.due it.run

namespace Watcher

/-- The conversions of a whole watch as one run. -/
def conversions (w : Watcher τ) (t : Tree) (bs : List (Beat τ)) : Run :=
  convertPaths w.request t ((w.iterations t bs).flatMap (·.due))

variable {w : Watcher τ} {t : Tree} {b : Beat τ}

/-- Where the first iteration fails it is the only one. -/
theorem iterations_cons_of_failure {why : Failure}
    (h : (w.iteration t b).run.failure = some why) (bs : List (Beat τ)) :
    w.iterations t (b :: bs) = [w.iteration t b] := by
  simp only [iterations, h]

/-- Where the first iteration returns the others start from its tree. -/
theorem iterations_cons_of_returns (h : (w.iteration t b).run.failure = none)
    (bs : List (Beat τ)) : w.iterations t (b :: bs) =
      w.iteration t b :: (w.beat b).iterations (w.iteration t b).run.tree bs := by
  simp only [iterations, h]

/-- Where the first iteration fails its run is the whole run. -/
theorem conversions_cons_of_failure {why : Failure}
    (h : (w.iteration t b).run.failure = some why) (bs : List (Beat τ)) :
    w.conversions t (b :: bs) = (w.iteration t b).run := by
  rw [conversions, iterations_cons_of_failure h, List.flatMap_singleton, iteration]

/-- Where the first iteration returns the run goes on from its tree with its report in front. -/
theorem conversions_cons_of_returns (h : (w.iteration t b).run.failure = none)
    (bs : List (Beat τ)) : w.conversions t (b :: bs) =
      { (w.beat b).conversions (w.iteration t b).run.tree bs with
        report := (w.iteration t b).run.report ++
          ((w.beat b).conversions (w.iteration t b).run.tree bs).report } := by
  rw [conversions, conversions, beat_request, iterations_cons_of_returns h, List.flatMap_cons]
  exact convertPaths_append_of_returns h _

/-- The iterations of a watch follow one another, each from the tree that the one before left. -/
theorem inTurn_iterations (hw : w.pending.paths.Nodup) (t : Tree) (bs : List (Beat τ)) :
    InTurn w.request t (w.iterations t bs) := by
  induction bs generalizing w t with
  | nil => exact ⟨by simp [iterations], .nil, by simp [iterations], by simp [iterations]⟩
  | cons b bs ih =>
    have hnodup : (w.iteration t b).due.Nodup :=
      (nodup_observeAll hw b.now b.modified).sublist Pending.due_sublist
    have hconverts : Converts w.request (w.iteration t b).before (w.iteration t b).due
        (w.iteration t b).run :=
      converts_convertPaths w.request t _
    cases hfirst : (w.iteration t b).run.failure with
    | some why =>
      rw [iterations_cons_of_failure hfirst]
      exact ⟨fun it hit => Option.some.inj hit ▸ rfl, .singleton _,
        List.forall_mem_singleton.mpr hnodup, List.forall_mem_singleton.mpr hconverts⟩
    | none =>
      have hrest := ih (nodup_beat hw b) (w.iteration t b).run.tree
      rw [beat_request] at hrest
      rw [iterations_cons_of_returns hfirst]
      exact ⟨fun it hit => Option.some.inj hit ▸ rfl,
        hrest.next.cons fun it hit => ⟨hfirst, hrest.first it hit⟩,
        List.forall_mem_cons.mpr ⟨hnodup, hrest.nodup⟩,
        List.forall_mem_cons.mpr ⟨hconverts, hrest.converts⟩⟩

/-- Where no conversion ends early, every pause has its iteration. -/
theorem length_iterations {bs : List (Beat τ)} (h : (w.conversions t bs).failure = none) :
    (w.iterations t bs).length = bs.length := by
  induction bs generalizing w t with
  | nil => rfl
  | cons b bs ih =>
    cases hfirst : (w.iteration t b).run.failure with
    | some why =>
      rw [conversions_cons_of_failure hfirst, hfirst] at h
      cases h
    | none =>
      rw [conversions_cons_of_returns hfirst] at h
      rw [iterations_cons_of_returns hfirst, List.length_cons, List.length_cons, ih h]

/-- The conversions of a watch end early exactly if those of the last iteration do. -/
theorem getLast_iterations (w : Watcher τ) (t : Tree) (bs : List (Beat τ)) :
    ∀ it ∈ (w.iterations t bs).getLast?, it.run.failure = (w.conversions t bs).failure := by
  induction bs generalizing w t with
  | nil => simp [iterations]
  | cons b bs ih =>
    cases hfirst : (w.iteration t b).run.failure with
    | some why =>
      rw [iterations_cons_of_failure hfirst, conversions_cons_of_failure hfirst]
      exact fun it hit => Option.some.inj hit ▸ rfl
    | none =>
      rw [iterations_cons_of_returns hfirst, conversions_cons_of_returns hfirst]
      cases hrest : (w.beat b).iterations (w.iteration t b).run.tree bs with
      | nil =>
        rintro it hit
        obtain rfl : w.iteration t b = it := Option.some.inj hit
        rw [hfirst, conversions, hrest]
        rfl
      | cons next later =>
        rw [List.getLast?_cons_cons, ← hrest]
        exact ih (w.beat b) (w.iteration t b).run.tree

/-- The loop pauses once for each iteration and once more if it is interrupted, and its conversions
are those of the iterations. -/
theorem loop_eq (w : Watcher τ) (t : Tree) (clock : τ) (ps : List (Pause τ)) :
    ∃ pending, w.loop t clock ps =
      { calls := (w.iterations t (beats clock ps)).map (fun it => Call.pause it.pending) ++
          interruptedPause pending (w.conversions t (beats clock ps)).failure
        run := w.conversions t (beats clock ps)
        ending := endingAfter (w.conversions t (beats clock ps)).failure } := by
  induction ps generalizing w t clock with
  | nil => exact ⟨w.pending.paths, rfl⟩
  | cons p ps ih =>
    rw [loop, beats]
    simp only [flush_observeAll]
    cases hfirst : (w.iteration t ⟨p.time.getD clock, p.modified⟩).run.failure with
    | some why =>
      rw [iterations_cons_of_failure hfirst, conversions_cons_of_failure hfirst, hfirst]
      exact ⟨[], rfl⟩
    | none =>
      obtain ⟨pending, hrest⟩ := ih (w.beat ⟨p.time.getD clock, p.modified⟩)
        (w.iteration t ⟨p.time.getD clock, p.modified⟩).run.tree (p.time.getD clock)
      rw [iterations_cons_of_returns hfirst, conversions_cons_of_returns hfirst]
      exact ⟨pending, by rw [hrest]; rfl⟩

end Watcher

end Run

/-! ## What is due in an iteration -/

section Time

variable [AddCommGroup τ] [LinearOrder τ] [IsOrderedAddMonoid τ]

namespace Watcher

variable {w : Watcher τ}

/-- A path is due iff its last modification, now or before, is a quiet period ago. -/
theorem mem_due_iteration_iff (hw : w.pending.paths.Nodup) {t : Tree} {b : Beat τ} {p : Path} :
    p ∈ (w.iteration t b).due ↔ (Marks b.modified p ∧ b.now + w.quietPeriod ≤ b.now) ∨
      ¬ Marks b.modified p ∧ ∃ time, (p, time) ∈ w.pending ∧ time + w.quietPeriod ≤ b.now := by
  rw [iteration, Pending.mem_due_iff]
  simp only [mem_observeAll_iff hw, le_sub_iff_add_le']
  constructor
  · rintro ⟨time, ⟨hmarks, rfl⟩ | ⟨hmarks, hmem⟩, hlate⟩
    · exact .inl ⟨hmarks, hlate⟩
    · exact .inr ⟨hmarks, time, hmem, hlate⟩
  · rintro (⟨hmarks, hlate⟩ | ⟨hmarks, time, hmem, hlate⟩)
    · exact ⟨b.now, .inl ⟨hmarks, rfl⟩, hlate⟩
    · exact ⟨time, .inr ⟨hmarks, hmem⟩, hlate⟩

/-- A path is pending after a beat iff its last modification, now or before, is not yet a quiet
period ago. -/
theorem mem_beat_iff (hw : w.pending.paths.Nodup) {b : Beat τ} {p : Path} {time : τ} :
    (p, time) ∈ (w.beat b).pending ↔
      (Marks b.modified p ∧ time = b.now ∨ ¬ Marks b.modified p ∧ (p, time) ∈ w.pending) ∧
        ¬ time + w.quietPeriod ≤ b.now := by
  rw [beat, Pending.mem_waiting_iff, mem_observeAll_iff hw, le_sub_iff_add_le']

/-- A path is due in an iteration exactly if a modification falls due then, of the watch or from
before it. -/
theorem mem_due_iff_or_pending (hw : w.pending.paths.Nodup) {t : Tree} {bs : List (Beat τ)}
    {j : Nat} {it : Iteration} (hit : (w.iterations t bs)[j]? = some it) {p : Path} :
    p ∈ it.due ↔ (∃ i, Triggers w.quietPeriod bs p i j) ∨ ∃ time, (p, time) ∈ w.pending ∧
      FirstLate w.quietPeriod time bs 0 j ∧ Undisturbed bs p 0 j := by
  induction bs generalizing w t j with
  | nil => cases hit
  | cons b bs ih =>
    rw [iterations] at hit
    cases j with
    | zero =>
      obtain rfl : w.iteration t b = it := Option.some.inj hit
      rw [mem_due_iteration_iff hw, triggers_cons_zero_iff]
      simp only [firstLate_cons_zero_zero, undisturbed_cons_zero,
        undisturbed_zero_of_lt Nat.zero_lt_one, and_true]
      grind
    | succ j =>
      rw [List.getElem?_cons_succ] at hit
      split at hit
      · cases hit
      · rw [ih (nodup_beat hw b) hit, triggers_cons_succ_iff, beat_quietPeriod]
        simp only [mem_beat_iff hw, firstLate_cons_zero_succ, undisturbed_cons_zero,
          undisturbed_cons_succ]
        grind

/-- The same for a watcher that begins with nothing pending. -/
theorem mem_due_iff_triggers {q : Request} {quietPeriod : τ} {t : Tree} {bs : List (Beat τ)}
    {j : Nat} {it : Iteration} (hit : ((fresh q quietPeriod).iterations t bs)[j]? = some it)
    (p : Path) : p ∈ it.due ↔ ∃ i, Triggers quietPeriod bs p i j := by
  rw [mem_due_iff_or_pending (w := fresh q quietPeriod) .nil hit]
  constructor
  · rintro (htriggers | ⟨time, hmem, -⟩)
    · exact htriggers
    · cases hmem
  · exact .inl

end Watcher

/-! ## Whole watches -/

/-- A watch of a directory consists of iterations. The observer is stopped and joined once at the
end, which is an interruption after all pauses or the failure of the last iteration; what is due is
converted iteration by iteration up to there, and a path is due exactly when a modification falls
due, which none does twice. -/
structure Session.OnTime (q : Request) (quietPeriod : τ) (t : Tree) (path : Path)
    (bs : List (Beat τ)) (its : List Iteration) (s : Session) : Prop where
  calls_eq : ∃ pending, s.calls = [Call.schedule path, Call.start] ++
    (its.map (fun it => Call.pause it.pending) ++ interruptedPause pending s.run.failure) ++
      [Call.stop, Call.join]
  ending_eq : s.ending = endingAfter s.run.failure
  length_eq : s.run.failure = none → its.length = bs.length
  last : ∀ it ∈ its.getLast?, it.run.failure = s.run.failure
  inTurn : InTurn q t its
  converts : Converts q t (its.flatMap (·.due)) s.run
  due_iff : ∀ j it, its[j]? = some it → ∀ p, p ∈ it.due ↔ ∃ i, Triggers quietPeriod bs p i j
  once : ∀ p i j k, Triggers quietPeriod bs p i j → Triggers quietPeriod bs p i k → j = k

/-- However a watch of a directory ends, it has shut the observer down, and up to there it has
converted every modified path on time. -/
theorem watch_of_isDirectory (q : Request) (quietPeriod clock : τ) (t : Tree) (path : Path)
    (pauses : List (Pause τ)) (hpath : t.isDirectory path = .ok true) :
    ∃ session its, watch (Watcher.fresh q quietPeriod) t clock path pauses = .ok session ∧
      session.OnTime q quietPeriod t path (beats clock pauses) its := by
  obtain ⟨pending, hloop⟩ := (Watcher.fresh q quietPeriod).loop_eq t clock pauses
  have hwatch : watch (Watcher.fresh q quietPeriod) t clock path pauses =
      .ok { (Watcher.fresh q quietPeriod).loop t clock pauses with
        calls := [Call.schedule path, Call.start] ++
          ((Watcher.fresh q quietPeriod).loop t clock pauses).calls ++
            [Call.stop, Call.join] } := by
    simp only [watch, hpath]
  rw [hloop] at hwatch
  have hfresh : (Watcher.fresh q quietPeriod).pending.paths.Nodup := .nil
  refine ⟨_, (Watcher.fresh q quietPeriod).iterations t (beats clock pauses), hwatch, ?_⟩
  exact {
    calls_eq := ⟨pending, rfl⟩
    ending_eq := rfl
    length_eq := Watcher.length_iterations
    last := Watcher.getLast_iterations _ t _
    inTurn := Watcher.inTurn_iterations hfresh t _
    converts := converts_convertPaths q t _
    due_iff := fun j it hit p => Watcher.mem_due_iff_triggers hit p
    once := fun p i j k hj hk => hj.unique hk }

end Time

/-- A file is modified twice within a quiet period, spelled in two ways, and then left alone. -/
def twoModifications : List (Pause ℚ) :=
  [{ time := some 1, modified := ["a.sql"] }, { time := some (3 / 2), modified := ["./a.sql"] },
   { time := some 2 }, { time := some (23 / 10) }, { time := some 4 }]

theorem watch_of_isDirectory_twoModifications :
    Watcher.smallTree.isDirectory ⟨.here, []⟩ = .ok true ∧
      ∃ session its,
        watch (Watcher.fresh {} (4 / 5 : ℚ)) Watcher.smallTree 0 ⟨.here, []⟩ twoModifications =
          .ok session ∧
        session.OnTime {} (4 / 5 : ℚ) Watcher.smallTree ⟨.here, []⟩ (beats 0 twoModifications)
          its ∧
        session.ending = .interrupted ∧ its.length = 5 ∧
        ∀ it, its[3]? = some it → ⟨.here, ["a.sql"]⟩ ∈ it.due := by
  have hpath : Watcher.smallTree.isDirectory ⟨.here, []⟩ = .ok true := by decide +kernel
  obtain ⟨session, its, hwatch, hontime⟩ :=
    watch_of_isDirectory {} (4 / 5 : ℚ) 0 Watcher.smallTree ⟨.here, []⟩ twoModifications hpath
  have hfailure : (watch (Watcher.fresh {} (4 / 5 : ℚ)) Watcher.smallTree 0 ⟨.here, []⟩
      twoModifications).toOption.map (·.run.failure) = some none := by
    decide +kernel
  rw [hwatch] at hfailure
  have hreturns : session.run.failure = none := Option.some.inj hfailure
  have htriggers : Triggers (4 / 5 : ℚ) (beats 0 twoModifications) ⟨.here, ["a.sql"]⟩ 1 3 := by
    refine ⟨⟨3 / 2, ["./a.sql"]⟩, rfl, ⟨"./a.sql", List.mem_singleton_self _, ?_⟩, ?_, ?_⟩
    · decide +kernel
    · refine firstLate_cons_succ.mpr (firstLate_cons_zero_succ.mpr ⟨by decide +kernel, ?_⟩)
      refine firstLate_cons_zero_succ.mpr ⟨by decide +kernel, ?_⟩
      exact firstLate_cons_zero_zero.mpr (by decide +kernel)
    · refine undisturbed_cons_succ.mpr (undisturbed_cons_succ.mpr ?_)
      refine undisturbed_cons_zero.mpr ⟨?_, undisturbed_cons_succ.mpr ?_⟩
      · simp [Marks]
      · refine undisturbed_cons_zero.mpr ⟨?_, undisturbed_zero_of_lt Nat.zero_lt_one⟩
        simp [Marks]
  refine ⟨hpath, session, its, hwatch, hontime, ?_, hontime.length_eq hreturns, ?_⟩
  · rw [hontime.ending_eq, hreturns]
    rfl
  · intro it hit
    exact (hontime.due_iff 3 it hit _).mpr ⟨1, htriggers⟩

end EntityMapper.Watch

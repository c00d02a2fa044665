import EntityMapper.Proofs.Conversion.Reports
import EntityMapper.Watch.Watcher

/-!
# Conversions one after the other

What a flush does with the paths that are due: each is converted in a run of its own, on the files
that the run before has left, and the first run that ends early is the last one.
-/

namespace EntityMapper.Watch

open File (Path Tree)
open Conversion (Failure Report Request Run)

/-- The conversion of a pending path by itself. -/
def conversion (q : Request) (t : Tree) (path : Path) : Run :=
  q.run t "" path.toString

/-- Paths are converted one after the other, each by the run that is given with it, and lead from
the files at the beginning to those at the end. -/
inductive Conversions (q : Request) : Tree → List (Path × Run) → Tree → Prop where
  | nil (t : Tree) : Conversions q t [] t
  | cons {t last : Tree} {path : Path} {run : Run} {rest : List (Path × Run)}
      (run_eq : run = conversion q t path) (returns : run.failure = none)
      (further : Conversions q run.tree rest last) : Conversions q t ((path, run) :: rest) last

/-- The run of paths that are converted one after the other. -/
inductive Converts (q : Request) (t : Tree) (paths : List Path) (run : Run) : Prop where
  /-- Every path is converted. -/
  | all (steps : List (Path × Run)) (paths_eq : steps.map (·.1) = paths)
      (steps_done : Conversions q t steps run.tree) (returns : run.failure = none)
      (report_eq : run.report = Report.joined (steps.map (·.2.report)))
  /-- The conversion of a path ends early, and those behind it are not converted. -/
  | until (steps : List (Path × Run)) (path : Path) (rest : List Path) (before : Tree)
      (why : Failure) (paths_eq : steps.map (·.1) ++ path :: rest = paths)
      (steps_done : Conversions q t steps before)
      (fails : (conversion q before path).failure = some why)
      (tree_eq : run.tree = (conversion q before path).tree)
      (failure_eq : run.failure = some why)

/-- A conversion that returns is followed by those of the other paths. -/
theorem convertPaths_cons_of_returns {q : Request} {t : Tree} {path : Path}
    (h : (conversion q t path).failure = none) (paths : List Path) :
    convertPaths q t (path :: paths) =
      { convertPaths q (conversion q t path).tree paths with
        report := (conversion q t path).report ++
          (convertPaths q (conversion q t path).tree paths).report } := by
  rw [conversion] at h ⊢
  rw [convertPaths]
  simp only [h]

/-- A conversion that ends early is the last one. -/
theorem convertPaths_cons_of_failure {q : Request} {t : Tree} {path : Path} {why : Failure}
    (h : (conversion q t path).failure = some why) (paths : List Path) :
    convertPaths q t (path :: paths) = conversion q t path := by
  rw [conversion] at h ⊢
  rw [convertPaths]
  simp only [h]

/-- Paths whose conversions all return are followed by further ones. -/
theorem convertPaths_append_of_returns {q : Request} {t : Tree} {paths : List Path}
    (h : (convertPaths q t paths).failure = none) (later : List Path) :
    convertPaths q t (paths ++ later) =
      { convertPaths q (convertPaths q t paths).tree later with
        report := (convertPaths q t paths).report ++
          (convertPaths q (convertPaths q t paths).tree later).report } := by
  induction paths generalizing t with
  | nil => simp [convertPaths]
  | cons path paths ih =>
    cases hfirst : (conversion q t path).failure with
    | some why =>
      rw [convertPaths_cons_of_failure hfirst, hfirst] at h
      cases h
    | none =>
      rw [convertPaths_cons_of_returns hfirst] at h
      rw [List.cons_append, convertPaths_cons_of_returns hfirst,
        convertPaths_cons_of_returns hfirst, ih h, Report.append_assoc]

/-- A flush converts paths in order until a conversion ends early. -/
theorem converts_convertPaths (q : Request) (t : Tree) (paths : List Path) :
    Converts q t paths (convertPaths q t paths) := by
  induction paths generalizing t with
  | nil => exact .all [] rfl (.nil t) rfl rfl
  | cons path paths ih =>
    cases hfirst : (conversion q t path).failure with
    | some why =>
      rw [convertPaths_cons_of_failure hfirst]
      exact .until [] path paths t why rfl (.nil t) hfirst rfl hfirst
    | none =>
      rw [convertPaths_cons_of_returns hfirst]
      cases ih (conversion q t path).tree with
      | all steps paths_eq steps_done returns report_eq =>
        refine .all ((path, conversion q t path) :: steps) ?_ (.cons rfl hfirst steps_done)
          returns ?_
        · rw [List.map_cons, paths_eq]
        · rw [report_eq, List.map_cons, Report.joined_cons]
      | «until» steps failing rest before why paths_eq steps_done fails tree_eq failure_eq =>
        refine .until ((path, conversion q t path) :: steps) failing rest before why ?_
          (.cons rfl hfirst steps_done) fails tree_eq failure_eq
        rw [List.map_cons, List.cons_append, paths_eq]

/-- Where no conversion ends early, every path is converted. -/
theorem conversions_of_returns {q : Request} {t : Tree} {paths : List Path}
    (h : (convertPaths q t paths).failure = none) :
    ∃ steps : List (Path × Run), steps.map (·.1) = paths ∧
      Conversions q t steps (convertPaths q t paths).tree ∧
      (convertPaths q t paths).report = Report.joined (steps.map (·.2.report)) := by
  cases converts_convertPaths q t paths with
  | all steps paths_eq steps_done _ report_eq => exact ⟨steps, paths_eq, steps_done, report_eq⟩
  | «until» _ _ _ _ why _ _ _ _ failure_eq => simp [h] at failure_eq

/-- Where a conversion ends early, those before it are done and those behind it are not. -/
theorem conversions_of_failure {q : Request} {t : Tree} {paths : List Path} {why : Failure}
    (h : (convertPaths q t paths).failure = some why) :
    ∃ (steps : List (Path × Run)) (path : Path) (rest : List Path) (before : Tree),
      steps.map (·.1) ++ path :: rest = paths ∧ Conversions q t steps before ∧
      (conversion q before path).failure = some why ∧
      (convertPaths q t paths).tree = (conversion q before path).tree := by
  cases converts_convertPaths q t paths with
  | all _ _ _ returns _ => simp [h] at returns
  | «until» steps path rest before other paths_eq steps_done fails tree_eq failure_eq =>
    obtain rfl : other = why := Option.some.inj (failure_eq.symm.trans h)
    exact ⟨steps, path, rest, before, paths_eq, steps_done, fails, tree_eq⟩

end EntityMapper.Watch

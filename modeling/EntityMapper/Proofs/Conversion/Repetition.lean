import EntityMapper.Proofs.Conversion.Overwriting
import EntityMapper.Proofs.File.Spared

/-!
# Converting a directory again

A class file stands at no place that a scan of a directory looks into, wherever the classes are
written to, so a run on a directory leaves its own inputs alone. A second run finds the same inputs,
makes no directories and ends with the same files.
-/

namespace EntityMapper.Conversion

open File (Path Place Tree)

/-! ## Inputs are spared -/

/-- Whether a place keeps what it holds in any run: it is a directory, or does not end like a class
file. -/
def isSpared (t : Tree) (place : Place) : Bool :=
  t.isDirectoryAt place || !([".java", ""].contains (File.Path.mk .slash place).lowerSuffix)

/-- Writing a class spares all places but those of class files. -/
theorem spares_writeClass {t t' : Tree} (h : t.Spares (isSpared t) t') (directory : Path)
    (className text : String) :
    t.Spares (isSpared t) (writeClass t' directory className text).1 := by
  obtain ⟨made, result, hmake⟩ : ∃ made result, t'.makeDirectory directory = (made, result) :=
    ⟨_, _, rfl⟩
  have hmade : t.Spares (isSpared t) made := by
    have hdirectory : t'.Spares (isSpared t) (t'.makeDirectory directory).1 :=
      Tree.spares_makeDirectory t' directory
    rw [hmake] at hdirectory
    exact h.trans hdirectory
  rw [writeClass, hmake]
  cases result with
  | some e => exact hmade
  | none =>
    dsimp only
    split
    · rename_i written hwrite
      obtain ⟨place, hfind, -, hplace, rfl⟩ := Tree.write_eq_ok_iff.mp hwrite
      refine hmade.trans (Tree.spares_put made ?_ _)
      have hsuffix := lowerSuffix_classFile made.home directory className
      rw [← Tree.eq_target_of_find hfind] at hsuffix
      have hdirectory : t.isDirectoryAt place = false := by
        by_contra hbefore
        have hafter := hmade.isDirectoryAt place (by simpa using hbefore)
        rw [hplace] at hafter
        cases hafter
      rw [isSpared, hdirectory, Bool.false_or, List.contains_iff_mem.mpr hsuffix, Bool.not_true]
    · exact hmade

namespace Request

variable {q : Request} {t : Tree} {i : Input} {is : List Input}

/-- What the writing of classes preserves a run preserves. -/
theorem preserves_convertAll {P : Tree → Prop}
    (hwrite : ∀ t directory className text, q.target = .directory directory → P t →
      P (writeClass t directory className text).1) (h : P t) : P (q.convertAll t is).tree := by
  have hinput : ∀ t i, P t → P (q.convertInput t i).tree := by
    intro t i h
    cases q.outcome i with
    | stopped why log heq =>
      rw [heq]
      exact h
    | failed hfate log summaries n heq =>
      rw [heq, tree_notify]
      exact h
    | delivered table hjudge log summaries heq =>
      rw [heq]
      cases htarget : q.target with
      | console =>
        rw [deliver_console htarget]
        exact h
      | directory directory =>
        rw [tree_deliver_eq htarget]
        exact hwrite t directory _ _ htarget h
  induction is generalizing t with
  | nil => exact h
  | cons i is ih =>
    cases hreturns : (q.convertInput t i).failure with
    | some why =>
      rw [convertAll]
      simp only [hreturns]
      exact hinput t i h
    | none =>
      rw [convertAll_cons_of_returns hreturns]
      exact ih (hinput t i h)

/-- A run spares all places but those of class files. -/
theorem spares_convertAll (q : Request) (t : Tree) (is : List Input) :
    t.Spares (isSpared t) (q.convertAll t is).tree :=
  preserves_convertAll (fun _ directory className text _ h =>
    spares_writeClass h directory className text) (.refl t)

/-- Printing class texts changes no file. -/
theorem tree_convertAll_of_console (htarget : q.target = .console) :
    (q.convertAll t is).tree = t := by
  refine preserves_convertAll (P := (· = t)) (fun _ directory _ _ hdirectory _ => ?_) rfl
  cases htarget.symm.trans hdirectory

end Request

/-- A path ends like the place of the file that it leads to. -/
theorem lowerSuffix_join (p : Path) (place : Place) {names : List String} (hne : names ≠ []) :
    (p.join ⟨.here, names⟩).lowerSuffix = (File.Path.mk .slash (place ++ names)).lowerSuffix := by
  refine Path.lowerSuffix_congr ?_
  rw [Path.join, if_pos rfl, List.getLast?_append_of_ne_nil _ hne,
    List.getLast?_append_of_ne_nil _ hne]

theorem exists_place_of_isDirectory {t : Tree} {p : Path} (h : t.isDirectory p = .ok true) :
    ∃ place, t.find p = .ok (some place) ∧ t.isDirectoryAt place = true := by
  rw [Tree.isDirectory] at h
  cases hfind : t.find p with
  | error e => simp [hfind, bind, Except.bind] at h
  | ok found =>
    rw [hfind] at h
    have hany : found.any t.isDirectoryAt = true := Except.ok.inj h
    cases found with
    | none => cases hany
    | some place => exact ⟨place, rfl, hany⟩

/-- A directory stands for the same inputs again as long as all places but those of class files are
spared. -/
theorem inputs_of_spares {t t' : Tree} {source : String}
    (hdirectory : t.isDirectory (Path.ofString source) = .ok true)
    (h : t.Spares (isSpared t) t') (standardInput : String) :
    inputs t' standardInput source = inputs t standardInput source := by
  obtain ⟨place, hfind, hplace⟩ := exists_place_of_isDirectory hdirectory
  have hscan : File.scan t' {} (Path.ofString source) = File.scan t {} (Path.ofString source) := by
    refine File.scan_of_spares h hfind (by rw [isSpared, hplace, Bool.true_or]) ?_
    intro names hne hcovers
    have hsuffix := (Bool.and_eq_true_iff.mp hcovers).1
    rw [lowerSuffix_join _ place hne, List.contains_iff_mem] at hsuffix
    have hother : ∀ suffix ∈ [".sql", ".ddl"], (!([".java", ""].contains suffix)) = true := by
      decide
    rw [isSpared, hother _ hsuffix, Bool.or_true]
  rw [inputs, inputs, hscan]

/-! ## Running again -/

namespace Request

variable {q : Request} {t t' : Tree} {i : Input} {is : List Input}

/-- A class text that can be delivered can be delivered again. -/
theorem Prepared.deliver_returns (hp : Prepared q t t') {r : Report} {table : Schema.Table}
    {text : String} (h : (q.deliver t r table text).failure = none) :
    (q.deliver t' r table text).failure = none := by
  cases htarget : q.target with
  | console => rw [deliver_console htarget]
  | directory directory =>
    cases hp with
    | same => exact h
    | @made other made _ target_eq made_eq same again =>
      obtain rfl : directory = other := Target.directory.inj (htarget.symm.trans target_eq)
      obtain ⟨m, u, shown, hmade, hwrite, hnotice⟩ := exists_write_of_deliver htarget h
      obtain rfl : made = m := (Prod.mk.inj (made_eq.symm.trans hmade)).1
      obtain ⟨u', hwrite'⟩ := same.write hwrite
      rw [deliver_of_write htarget again hwrite' hnotice]

/-- An input that can be converted can be converted again. -/
theorem Prepared.convertInput_returns (hp : Prepared q t t')
    (h : (q.convertInput t i).failure = none) : (q.convertInput t' i).failure = none := by
  cases q.outcome i with
  | stopped why log heq => simp [heq] at h
  | failed hfate log summaries n heq =>
    rw [heq] at h ⊢
    exact (notify_congr t' t _ _ _).1.trans h
  | delivered table hjudge log summaries heq =>
    rw [heq] at h ⊢
    exact hp.deliver_returns h

/-- Inputs each of which can be converted can all be converted again, one after the other. -/
theorem Prepared.convertAll_returns (hp : Prepared q t t')
    (h : ∀ i ∈ is, (q.convertInput t i).failure = none) : (q.convertAll t' is).failure = none := by
  induction is generalizing t' with
  | nil => rfl
  | cons i is ih =>
    obtain ⟨hfirst, hothers⟩ := List.forall_mem_cons.mp h
    have hagain := hp.convertInput_returns hfirst
    exact returns_cons_iff.mpr ⟨hagain, ih (hp.convertInput hagain).2.2 hothers⟩

theorem Prepared.tree_convertAll (hp : Prepared q t t') (h : (q.convertAll t' is).failure = none) :
    Prepared q t (q.convertAll t' is).tree := by
  induction is generalizing t' with
  | nil => exact hp
  | cons i is ih =>
    obtain ⟨hfirst, hrest⟩ := returns_cons_iff.mp h
    rw [convertAll_cons_of_returns hfirst]
    exact ih (hp.convertInput hfirst).2.2 hrest

/-- A run that goes on to its end does so again, with the same report. -/
theorem convertAll_again (h : (q.convertAll t is).failure = none) :
    (q.convertAll (q.convertAll t is).tree is).failure = none ∧
      (q.convertAll (q.convertAll t is).tree is).report = (q.convertAll t is).report := by
  obtain ⟨halone, hreport⟩ := Prepared.same.convertAll h
  have hp := Prepared.same.tree_convertAll h
  have hagain := hp.convertAll_returns halone
  exact ⟨hagain, (hp.convertAll hagain).2.trans hreport.symm⟩

/-- The last entry with a property is the only one. -/
theorem eq_of_last {α : Type} {p : α → Prop} {xs xs' ys ys' : List α} {a b : α}
    (h : xs ++ a :: ys = xs' ++ b :: ys') (ha : p a) (hb : p b) (hys : ∀ y ∈ ys, ¬ p y)
    (hys' : ∀ y ∈ ys', ¬ p y) : a = b := by
  rcases List.append_eq_append_iff.mp h with ⟨more, -, hrest⟩ | ⟨more, -, hrest⟩
  · cases more with
    | nil => exact (List.cons.inj hrest).1
    | cons c more =>
      obtain ⟨-, rfl⟩ := List.cons.inj hrest
      exact absurd hb (hys b (List.mem_append_right _ List.mem_cons_self))
  · cases more with
    | nil => exact (List.cons.inj hrest).1.symm
    | cons c more =>
      obtain ⟨-, rfl⟩ := List.cons.inj hrest
      exact absurd ha (hys' a (List.mem_append_right _ List.mem_cons_self))

/-- Running again leaves every file as it is. -/
theorem bytes?_convertAll_again (h : (q.convertAll t is).failure = none) (place : Place) :
    (q.convertAll (q.convertAll t is).tree is).tree.bytes? place =
      (q.convertAll t is).tree.bytes? place := by
  have hhome := (agreesOutside_convertAll q t is).home_eq
  have hothers := agreesOutside_convertAll q (q.convertAll t is).tree is
  rw [hhome] at hothers
  by_cases hplace : ∃ i ∈ is, q.WritesAt t.home place i
  · obtain ⟨before, i, after, table, his, hi, hafter, hread, hbytes⟩ := holds_last h hplace
    rw [← hhome] at hplace
    obtain ⟨before', j, after', table', his', hj, hafter', hread', hbytes'⟩ :=
      holds_last (convertAll_again h).1 hplace
    rw [hhome] at hj hafter'
    obtain rfl : i = j := eq_of_last (his.symm.trans his') hi hj hafter hafter'
    obtain rfl : table = table' := Except.ok.inj (hread.symm.trans hread')
    rw [hbytes, hbytes']
  · exact hothers.bytes_eq place hplace

/-- What is known of a run on a directory that goes on to its end. -/
structure Repeats (q : Request) (t : Tree) (standardInput source : String) : Prop where
  /-- A file that no written path leads to is as it was. -/
  unchanged : ∀ place,
    (∀ file ∈ (q.run t standardInput source).report.written,
      (q.run t standardInput source).tree.find file ≠ .ok (some place)) →
    (q.run t standardInput source).tree.bytes? place = t.bytes? place
  /-- Where class texts are printed nothing changes. -/
  printed : q.target = .console → (q.run t standardInput source).tree = t
  /-- The source stands for the same inputs again. -/
  inputs_eq : inputs (q.run t standardInput source).tree standardInput source =
    inputs t standardInput source
  /-- A second run goes on to its end, with the same report. -/
  failure_eq : (q.run (q.run t standardInput source).tree standardInput source).failure = none
  report_eq : (q.run (q.run t standardInput source).tree standardInput source).report =
    (q.run t standardInput source).report
  /-- It leaves every file as the first run has left it. -/
  bytes_eq : ∀ place, (q.run (q.run t standardInput source).tree standardInput source).tree.bytes?
    place = (q.run t standardInput source).tree.bytes? place

/-- A run on a directory that goes on to its end changes nothing but the files that it reports, and
is the same when it is repeated. -/
theorem repeats {standardInput source : String}
    (hdirectory : t.isDirectory (Path.ofString source) = .ok true)
    (h : (q.run t standardInput source).failure = none) : Repeats q t standardInput source := by
  obtain ⟨is, his⟩ : ∃ is, inputs t standardInput source = .ok is := by
    cases hinputs : inputs t standardInput source with
    | error e => simp [run, hinputs] at h
    | ok is => exact ⟨is, rfl⟩
  have hrun := run_eq (q := q) his
  have htree : (q.run t standardInput source).tree = (q.convertAll t is).tree := by rw [hrun]
  have hreturns : (q.convertAll t is).failure = none := by
    rw [hrun] at h
    exact h
  have hinputs : inputs (q.run t standardInput source).tree standardInput source =
      inputs t standardInput source := by
    rw [htree]
    exact inputs_of_spares hdirectory (spares_convertAll q t is) standardInput
  have hrun' := run_eq (q := q) (hinputs.trans his)
  rw [htree] at hrun'
  obtain ⟨hagain, hreport⟩ := convertAll_again hreturns
  exact {
    unchanged := by
      intro place hplace
      rw [htree] at hplace ⊢
      refine (agreesOutside_convertAll q t is).bytes_eq place ?_
      rintro ⟨i, hi, file, hfile, rfl⟩
      refine hplace file ?_ (find_of_written hreturns hi hfile)
      have hwritten : (q.run t standardInput source).report.written =
          (q.convertAll t is).report.written := by
        rw [hrun]
        rfl
      rw [hwritten, (accounts hreturns).written_eq]
      exact List.mem_filterMap.mpr ⟨i, hi, hfile⟩
    printed := fun htarget => htree.trans (tree_convertAll_of_console htarget)
    inputs_eq := hinputs
    failure_eq := by
      rw [htree, hrun']
      exact hagain
    report_eq := by
      rw [htree, hrun', hrun, hreport]
    bytes_eq := by
      intro place
      rw [htree, hrun']
      exact bytes?_convertAll_again hreturns place }

/-- Two files declare tables of one name, whose classes are written beside them. -/
theorem repeats_namesakes :
    namesakes.isDirectory (Path.ofString "in") = .ok true ∧
      ({ bareRequest with target := .directory ⟨.here, ["in"]⟩ }.run namesakes "" "in").failure =
        none ∧
      Repeats { bareRequest with target := .directory ⟨.here, ["in"]⟩ } namesakes "" "in" := by
  have hdirectory : namesakes.isDirectory (Path.ofString "in") = .ok true := by decide +kernel
  have hreturns :
      ({ bareRequest with target := .directory ⟨.here, ["in"]⟩ }.run namesakes "" "in").failure =
        none := by
    rw [run_eq inputs_namesakes, convertAll, convertAll_singleton,
      convertInput_of_read rfl rfl _ _ read_first_namesake,
      convertInput_of_read rfl rfl _ _ read_second_namesake]
    decide +kernel
  exact ⟨hdirectory, hreturns, repeats hdirectory hreturns⟩

end Request

end EntityMapper.Conversion

import EntityMapper.Proofs.Conversion.Accounts

/-!
# The files that a run changes

A run changes no files but the class files of inputs that are accepted, whether it goes on to its
end or not.  If it does, each of these files holds the class text of the last input that has it.
-/

namespace EntityMapper.Conversion

open File (Path Place Tree)

theorem agreesOutside_writeClass (t : Tree) (directory : Path) (className text : String) :
    t.AgreesOutside (· = (classFile directory className).target t.home)
      (writeClass t directory className text).1 := by
  obtain ⟨made, result, hmake⟩ : ∃ made result, t.makeDirectory directory = (made, result) :=
    ⟨_, _, rfl⟩
  have hmade : ∀ places, t.AgreesOutside places made := by
    intro places
    have hagrees : t.AgreesOutside places (t.makeDirectory directory).1 :=
      Tree.agreesOutside_makeDirectory t directory
    rwa [hmake] at hagrees
  rw [writeClass, hmake]
  cases result with
  | some e => exact hmade _
  | none =>
    dsimp only
    split
    · rename_i written hwrite
      have hput := Tree.agreesOutside_write hwrite
      rw [(hmade fun _ => False).home_eq] at hput
      exact (hmade _).trans hput
    · exact hmade _

namespace Request

variable {q : Request} {t : Tree} {i : Input} {is : List Input}

/-- The class file of an input that is accepted is that of the table it declares. -/
theorem exists_table_of_written {file : Path} (h : (q.fate i).written? = some file) :
    ∃ directory table, q.target = .directory directory ∧ (Sql.read i.text).result = .ok table ∧
      q.judge (Sql.read i.text).result = .accepted table (Java.classText q.options table) ∧
      file = classFile directory table.className := by
  rcases fate_cases q i with hfate | ⟨table, hread, hjudge⟩
  · rw [hfate] at h
    cases h
  · rw [fate_of_accepted q i hjudge] at h
    cases htarget : q.target with
    | console =>
      rw [htarget] at h
      cases h
    | directory directory =>
      rw [htarget] at h
      exact ⟨directory, table, rfl, hread, hjudge, (Option.some.inj h).symm⟩

/-- Whether the class file of an input that is accepted stands at a place. -/
def WritesAt (q : Request) (home : Place) (place : Place) (i : Input) : Prop :=
  ∃ file, (q.fate i).written? = some file ∧ file.target home = place

/-! ## What is left alone -/

/-- The files behind a delivery to a directory are those behind the writing of the class. -/
theorem tree_deliver_eq {directory : Path} (htarget : q.target = .directory directory) (r : Report)
    (table : Schema.Table) (text : String) :
    (q.deliver t r table text).tree = (writeClass t directory table.className text).1 := by
  rw [deliver, htarget]
  dsimp only
  split
  · rename_i hwrite
    rw [tree_notify, hwrite]
  · rename_i hwrite
    rw [hwrite]

theorem agreesOutside_deliver {r : Report} {table : Schema.Table} {text : String}
    (h : q.judge (Sql.read i.text).result = .accepted table text) :
    t.AgreesOutside (q.WritesAt t.home · i) (q.deliver t r table text).tree := by
  cases htarget : q.target with
  | console =>
    rw [deliver_console htarget]
    exact .refl t
  | directory directory =>
    have hfate : (q.fate i).written? = some (classFile directory table.className) := by
      rw [fate_of_accepted q i h, htarget]
      rfl
    rw [tree_deliver_eq htarget]
    refine (agreesOutside_writeClass t directory table.className text).mono ?_
    rintro place rfl
    exact ⟨_, hfate, rfl⟩

/-- An input changes no file but its class file. -/
theorem agreesOutside_convertInput (q : Request) (t : Tree) (i : Input) :
    t.AgreesOutside (q.WritesAt t.home · i) (q.convertInput t i).tree := by
  cases q.outcome i with
  | stopped why log heq =>
    rw [heq]
    exact .refl t
  | failed hfate log summaries n heq =>
    rw [heq, tree_notify]
    exact .refl t
  | delivered table hjudge log summaries heq =>
    rw [heq]
    exact agreesOutside_deliver hjudge

/-- Inputs change no files but their class files. -/
theorem agreesOutside_convertAll (q : Request) (t : Tree) (is : List Input) :
    t.AgreesOutside (fun place => ∃ i ∈ is, q.WritesAt t.home place i)
      (q.convertAll t is).tree := by
  induction is generalizing t with
  | nil => exact .refl t
  | cons i is ih =>
    have hfirst := (agreesOutside_convertInput q t i).mono
      fun place h => (⟨i, List.mem_cons_self, h⟩ : ∃ j ∈ i :: is, q.WritesAt t.home place j)
    cases hreturns : (q.convertInput t i).failure with
    | some why =>
      rw [convertAll]
      simp only [hreturns]
      exact hfirst
    | none =>
      rw [convertAll_cons_of_returns hreturns]
      refine hfirst.trans ((ih (q.convertInput t i).tree).mono ?_)
      rintro place ⟨j, hj, hwrites⟩
      rw [hfirst.home_eq] at hwrites
      exact ⟨j, List.mem_cons_of_mem i hj, hwrites⟩

/-! ## What is reported -/

/-- What follows from a notice reports no files. -/
theorem written_notify (run : Run) (n : Notice) {following : Report}
    (h : following.written = []) : (run.notify n following).report.written =
      run.report.written := by
  cases hshown : n.text with
  | error why => simp [Run.notify, hshown]
  | ok shown => simp [Run.notify, hshown, h]

/-- An input reports no file but its class file, whether the run goes on or not. -/
theorem written_convertInput {file : Path} (h : file ∈ (q.convertInput t i).report.written) :
    (q.fate i).written? = some file := by
  cases q.outcome i with
  | stopped why log heq => simp [heq] at h
  | failed hfate log summaries n heq => simp [heq, written_notify] at h
  | delivered table hjudge log summaries heq =>
    rw [heq, deliver] at h
    rw [fate_of_accepted q i hjudge]
    cases htarget : q.target with
    | console => simp [htarget] at h
    | directory directory =>
      rw [htarget] at h
      dsimp only at h ⊢
      split at h
      · rename_i path hwrite
        obtain ⟨-, -, rfl, -⟩ := writeClass_eq_ok hwrite
        rw [written_notify _ _ rfl] at h
        obtain rfl : file = classFile directory table.className := by simpa using h
        rfl
      · simp at h

/-- A run reports no files but class files of its inputs. -/
theorem written_convertAll {file : Path} (h : file ∈ (q.convertAll t is).report.written) :
    ∃ i ∈ is, (q.fate i).written? = some file := by
  induction is generalizing t with
  | nil => simp [convertAll] at h
  | cons i is ih =>
    cases hreturns : (q.convertInput t i).failure with
    | some why =>
      simp only [convertAll, hreturns] at h
      exact ⟨i, List.mem_cons_self, written_convertInput h⟩
    | none =>
      rw [convertAll_cons_of_returns hreturns, Report.written_append, List.mem_append] at h
      rcases h with h | h
      · exact ⟨i, List.mem_cons_self, written_convertInput h⟩
      · obtain ⟨j, hj, hfile⟩ := ih h
        exact ⟨j, List.mem_cons_of_mem i hj, hfile⟩

/-! ## What is written -/

/-- Where the class text of an input is delivered, its class file holds it. -/
theorem holds_convertInput (h : (q.convertInput t i).failure = none) {file : Path}
    (hfile : (q.fate i).written? = some file) :
    (q.convertInput t i).tree.find file = .ok (some (file.target t.home)) ∧
      ∃ table, (Sql.read i.text).result = .ok table ∧
        (q.convertInput t i).tree.bytes? (file.target t.home) =
          some (Text.encodeUtf8 (Java.classText q.options table)) := by
  obtain ⟨directory, table, htarget, hread, hjudge, rfl⟩ := exists_table_of_written hfile
  rw [convertInput] at h ⊢
  dsimp only at h ⊢
  cases hsummary : q.summary (Sql.read i.text).result with
  | error why => simp [hsummary] at h
  | ok summary =>
    simp only [hsummary, hjudge] at h ⊢
    obtain ⟨made, place, hmade, hfind, htree⟩ := tree_deliver htarget h
    have hwithin := (Tree.makeDirectory_spec t directory).2
    rw [hmade] at hwithin
    have hplace := Tree.eq_target_of_find hfind
    rw [hwithin.home_eq] at hplace
    rw [htree, ← hplace]
    refine ⟨Tree.find_mono (Tree.within_put made place _) hfind, table, hread, ?_⟩
    rw [Tree.bytes?_put, if_pos rfl]

/-- If a run goes on to its end, each class file holds the class text of the last input that has
it. -/
theorem holds_last (h : (q.convertAll t is).failure = none) {place : Place}
    (hplace : ∃ i ∈ is, q.WritesAt t.home place i) :
    ∃ before i after table, is = before ++ i :: after ∧ q.WritesAt t.home place i ∧
      (∀ j ∈ after, ¬ q.WritesAt t.home place j) ∧ (Sql.read i.text).result = .ok table ∧
      (q.convertAll t is).tree.bytes? place =
        some (Text.encodeUtf8 (Java.classText q.options table)) := by
  induction is generalizing t with
  | nil =>
    obtain ⟨i, hi, -⟩ := hplace
    cases hi
  | cons i is ih =>
    obtain ⟨hfirst, hrest⟩ := returns_cons_iff.mp h
    have hhome := (agreesOutside_convertInput q t i).home_eq
    have hothers := agreesOutside_convertAll q (q.convertInput t i).tree is
    have hlast := ih hrest
    rw [hhome] at hothers hlast
    rw [convertAll_cons_of_returns hfirst]
    by_cases hlater : ∃ j ∈ is, q.WritesAt t.home place j
    · obtain ⟨before, j, after, table, rfl, hj⟩ := hlast hlater
      exact ⟨i :: before, j, after, table, rfl, hj⟩
    · have hi : q.WritesAt t.home place i := by
        obtain ⟨j, hj, hwrites⟩ := hplace
        rcases List.mem_cons.mp hj with rfl | hj
        · exact hwrites
        · exact absurd ⟨j, hj, hwrites⟩ hlater
      obtain ⟨file, hfile, rfl⟩ := hi
      obtain ⟨-, table, hread, hbytes⟩ := holds_convertInput hfirst hfile
      refine ⟨[], i, is, table, rfl, ⟨file, hfile, rfl⟩, ?_, hread, ?_⟩
      · exact fun j hj hwrites => hlater ⟨j, hj, hwrites⟩
      · exact (hothers.bytes_eq _ hlater).trans hbytes

/-- If a run goes on to its end, every class file can be found. -/
theorem find_of_written (h : (q.convertAll t is).failure = none) (hi : i ∈ is) {file : Path}
    (hfile : (q.fate i).written? = some file) :
    (q.convertAll t is).tree.find file = .ok (some (file.target t.home)) := by
  induction is generalizing t with
  | nil => cases hi
  | cons j is ih =>
    obtain ⟨hfirst, hrest⟩ := returns_cons_iff.mp h
    rw [convertAll_cons_of_returns hfirst]
    have hothers := agreesOutside_convertAll q (q.convertInput t j).tree is
    rcases List.mem_cons.mp hi with rfl | hi
    · exact Tree.find_mono hothers.toWithin (holds_convertInput hfirst hfile).1
    · have hfind := ih hrest hi
      rwa [(agreesOutside_convertInput q t j).home_eq] at hfind

end Request

end EntityMapper.Conversion

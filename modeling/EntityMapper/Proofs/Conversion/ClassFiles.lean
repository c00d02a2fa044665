import EntityMapper.Conversion.Run
import EntityMapper.Proofs.Conversion.Reports
import EntityMapper.Proofs.File.Paths
import EntityMapper.Proofs.File.Trees

/-!
# Class files

Where the file of a class stands, and what writing it does to the files: it adds directories and
puts the class text in that one file.
-/

namespace EntityMapper.Conversion

open File (AccessError Path Place Tree)

/-- A name that ends in the suffix of class files has more characters than two dots. -/
theorem ne_of_length_le {name : String} (stem : List Char) (h : name.toList.length ≤ 2) :
    String.ofList (stem ++ ".java".toList) ≠ name := by
  rintro rfl
  simp at h

/-- The names of a class file are those in front of the last slash of the class name and what
stands behind it with the suffix of class files. -/
theorem names_ofString_class (className : String) : ∃ (parts : List (List Char)) (last : List Char),
    Text.split '/' className.toList = parts ++ [last] ∧
      (Path.ofString (className ++ ".java")).names =
        (parts.map String.ofList).filter (fun name => name != "" && name != ".") ++
          [String.ofList (last ++ ".java".toList)] := by
  obtain ⟨parts, last, hsplit, hmore⟩ :=
    Text.exists_split_append '/' className.toList (show '/' ∉ ".java".toList by decide)
  refine ⟨parts, last, hsplit, ?_⟩
  change Path.namesOf (className ++ ".java").toList = _
  have hkept : [String.ofList (last ++ ".java".toList)].filter
      (fun name => name != "" && name != ".") = [String.ofList (last ++ ".java".toList)] := by
    rw [List.filter_cons_of_pos]
    · rfl
    · rw [Bool.and_eq_true, bne_iff_ne, bne_iff_ne]
      exact ⟨ne_of_length_le last (by decide), ne_of_length_le last (by decide)⟩
  rw [Path.namesOf, String.toList_append, hmore, List.map_append, List.filter_append,
    List.map_cons, List.map_nil, hkept]

/-- The file of a class has a name that ends in the suffix of class files. -/
theorem exists_getLast_classFile (directory : Path) (className : String) :
    ∃ stem : List Char, (classFile directory className).names.getLast? =
      some (String.ofList (stem ++ ".java".toList)) := by
  obtain ⟨parts, stem, -, hnames⟩ := names_ofString_class className
  refine ⟨stem, ?_⟩
  rw [classFile, Path.join]
  split
  · simp [hnames, List.getLast?_append]
  · simp [hnames]

theorem root_ofString_class (className : String) :
    (Path.ofString (className ++ ".java")).root = .here ↔ className.toList.head? ≠ some '/' := by
  rw [Path.root_ofString_eq_here_iff, String.toList_append]
  cases className.toList with
  | nil => simp
  | cons c cs => simp

/-- The file of a class whose name is direct stands in the directory itself. -/
theorem isChildOf_classFile (directory : Path) {className : String}
    (h : Path.isDirect className.toList = true) :
    (classFile directory className).IsChildOf directory := by
  obtain ⟨parts, last, hsplit, hnames⟩ := names_ofString_class className
  rw [Path.isDirect, Bool.and_eq_true, bne_iff_ne, hsplit, List.dropLast_concat,
    List.all_eq_true] at h
  have hnone : (parts.map String.ofList).filter (fun name => name != "" && name != ".") = [] := by
    rw [List.filter_eq_nil_iff, List.forall_mem_map]
    intro part hpart
    have hempty := h.2 part hpart
    rw [Bool.or_eq_true, beq_iff_eq, beq_iff_eq] at hempty
    rcases hempty with rfl | rfl
    · decide
    · decide
  rw [hnone, List.nil_append] at hnames
  refine ⟨String.ofList (last ++ ".java".toList), ?_, ne_of_length_le last (by decide),
    ne_of_length_le last (by decide), ne_of_length_le last (by decide), ?_⟩
  · rw [classFile, Path.join, if_pos ((root_ofString_class className).mpr h.1), hnames]
  · have hslash : '/' ∉ last :=
      Text.not_mem_of_mem_split (hsplit ▸ List.mem_append_right _ List.mem_cons_self)
    rw [String.toList_ofList, List.mem_append, not_or]
    exact ⟨hslash, by decide⟩

/-- From a directory that is named without a root, only a direct class name stays in it. -/
theorem isDirect_of_isChildOf {directory : Path} (hroot : directory.root = .here)
    {className : String} (h : (classFile directory className).IsChildOf directory) :
    Path.isDirect className.toList = true := by
  obtain ⟨parts, last, hsplit, hnames⟩ := names_ofString_class className
  obtain ⟨name, hfile, -⟩ := h
  rw [classFile, Path.join] at hfile
  rw [Path.isDirect, Bool.and_eq_true, bne_iff_ne, hsplit, List.dropLast_concat, List.all_eq_true]
  split at hfile
  · rename_i hhere
    have hsame := List.append_cancel_left (File.Path.mk.inj hfile).2
    rw [hnames] at hsame
    have hnone := (List.append_inj' (hsame.trans (List.nil_append _).symm) rfl).1
    rw [List.filter_eq_nil_iff, List.forall_mem_map] at hnone
    refine ⟨(root_ofString_class className).mp hhere, fun part hpart => ?_⟩
    have hdropped := hnone part hpart
    rw [Bool.and_eq_true, bne_iff_ne, bne_iff_ne, not_and_or, not_not, not_not] at hdropped
    rw [Bool.or_eq_true, beq_iff_eq, beq_iff_eq, ← String.ofList_inj, ← String.ofList_inj]
    exact hdropped
  · rename_i hother
    rw [hfile, hroot] at hother
    exact absurd rfl hother

/-- A class name without slashes is the name of its file. -/
theorem classFile_of_not_mem (directory : Path) {className : String}
    (h : '/' ∉ className.toList) :
    classFile directory className =
      ⟨directory.root, directory.names ++ [className ++ ".java"]⟩ := by
  have hlist : (className ++ ".java").toList = className.toList ++ ".java".toList :=
    String.toList_append
  have hlength : 2 < (className ++ ".java").toList.length := by
    simp [hlist]
  have hpath : Path.ofString (className ++ ".java") = ⟨.here, [className ++ ".java"]⟩ := by
    refine Path.ofString_of_not_mem ?_ ?_ ?_
    · rw [hlist, List.mem_append, not_or]
      exact ⟨h, by decide⟩
    · intro heq
      simp [heq] at hlength
    · intro heq
      simp [heq] at hlength
  rw [classFile, hpath, Path.join]
  rfl

/-- The place of a class file has the suffix of class files or none. -/
theorem lowerSuffix_classFile (home : Place) (directory : Path) (className : String) :
    (File.Path.mk .slash ((classFile directory className).target home)).lowerSuffix ∈
      [".java", ""] := by
  obtain ⟨stem, hlast⟩ := exists_getLast_classFile directory className
  have htarget := Path.getLast_target home hlast (ne_of_length_le stem (by decide))
  have hsuffix := Path.suffix_of_getLast
    (p := .mk .slash ((classFile directory className).target home)) htarget
  rw [Path.lowerSuffix, hsuffix, String.toList_ofList, String.toList_ofList]
  rcases Path.suffixOf_append stem (show '.' ∉ "java".toList by decide) with h | h
  · rw [show stem ++ ".java".toList = stem ++ '.' :: "java".toList from rfl, h]
    decide
  · rw [show stem ++ ".java".toList = stem ++ '.' :: "java".toList from rfl, h]
    decide

/-- Writing a class makes its directory and then puts the class text in its file. -/
theorem writeClass_eq_ok {t t' : Tree} {directory : Path} {className text : String} {file : Path}
    (h : writeClass t directory className text = (t', .ok file)) :
    ∃ made, t.makeDirectory directory = (made, none) ∧ file = classFile directory className ∧
      made.write (classFile directory className) text = .ok t' := by
  rw [writeClass] at h
  split at h
  · cases (Prod.mk.inj h).2
  · rename_i made hmade
    dsimp only at h
    split at h
    · rename_i written hwrite
      obtain ⟨rfl, hfile⟩ := Prod.mk.inj h
      exact ⟨made, hmade, (Except.ok.inj hfile).symm, hwrite⟩
    · cases (Prod.mk.inj h).2

/-- A notice leaves the files as they are. -/
@[simp] theorem tree_notify (run : Run) (n : Notice) (following : Report) :
    (run.notify n following).tree = run.tree := by
  rw [Run.notify]
  split <;> rfl

/-! ## Delivering class texts -/

/-- A class text for the console is printed. -/
theorem deliver_console {q : Request} (htarget : q.target = .console) (t : Tree) (r : Report)
    (table : Schema.Table) (text : String) :
    q.deliver t r table text = ⟨t, r ++ { printed := Text.onConsole text }, none⟩ := by
  rw [Request.deliver, htarget]

section Deliver

variable {q : Request} {directory : Path} (htarget : q.target = .directory directory)
  {t made t' : Tree} {r : Report} {table : Schema.Table} {text shown : String}

include htarget

/-- Where the directory can be made, the file written and the notice shown, a class text is
delivered. -/
theorem deliver_of_write (hmade : t.makeDirectory directory = (made, none))
    (hwrite : made.write (classFile directory table.className) text = .ok t')
    (hnotice : (Notice.written (classFile directory table.className)).text = .ok shown) :
    q.deliver t r table text = ⟨t', r ++ { written := [classFile directory table.className] } ++
      { notices := [.written (classFile directory table.className)] }, none⟩ := by
  have hclass : writeClass t directory table.className text =
      (t', .ok (classFile directory table.className)) := by
    simp [writeClass, hmade, hwrite]
  simp [Request.deliver, htarget, hclass, Run.notify, hnotice]

/-- A class text is delivered only where the directory can be made, the file written and the notice
shown. -/
theorem exists_write_of_deliver (hreturns : (q.deliver t r table text).failure = none) :
    ∃ made t' shown, t.makeDirectory directory = (made, none) ∧
      made.write (classFile directory table.className) text = .ok t' ∧
      (Notice.written (classFile directory table.className)).text = .ok shown := by
  rw [Request.deliver, htarget] at hreturns
  cases hwrite : writeClass t directory table.className text with
  | mk t' result =>
    simp only [hwrite] at hreturns
    cases result with
    | error e => cases hreturns
    | ok path =>
      obtain ⟨made, hmade, rfl, hput⟩ := writeClass_eq_ok hwrite
      cases hshown : (Notice.written (classFile directory table.className)).text with
      | error why => simp [Run.notify, hshown] at hreturns
      | ok shown => exact ⟨made, t', shown, hmade, hput, rfl⟩

/-- Where a class text is delivered to a directory, that directory is made and the file of the class
holds the text. -/
theorem tree_deliver (hreturns : (q.deliver t r table text).failure = none) :
    ∃ made file, t.makeDirectory directory = (made, none) ∧
      made.find (classFile directory table.className) = .ok (some file) ∧
      (q.deliver t r table text).tree = made.put file (Text.encodeUtf8 text) := by
  obtain ⟨made, t', shown, hmade, hwrite, hnotice⟩ := exists_write_of_deliver htarget hreturns
  obtain ⟨file, hfind, -, -, rfl⟩ := Tree.write_eq_ok_iff.mp hwrite
  refine ⟨made, file, hmade, hfind, ?_⟩
  rw [deliver_of_write htarget hmade hwrite hnotice]

end Deliver

/-- An input that declares a table has its class text delivered, if neither checks nor summaries are
asked for. -/
theorem convertInput_of_read {q : Request} (hverify : q.verify = false)
    (hsummaries : q.summaries = .none) (t : Tree) (label : String) {text : String}
    {table : Schema.Table} {remarks : List Sql.Remark}
    (hread : Sql.read text = ⟨.ok table, remarks⟩) :
    q.convertInput t ⟨label, text⟩ =
      q.deliver t ({ log := remarks.map .remark } ++ {}) table
        (Java.classText q.options table) := by
  have hjudge : q.judge (.ok table) = .accepted table (Java.classText q.options table) := by
    simp [Request.judge, hverify]
  have hsummary : q.summary (.ok table) = .ok {} := by
    simp [Request.summary, hsummaries]
  simp only [Request.convertInput, hread, hjudge, hsummary]

/-- An input that declares no table fails, and a notice says so. -/
theorem convertInput_of_unreadable (q : Request) (t : Tree) (label : String) {text : String}
    {why : Sql.ReadingFailure} (hread : (Sql.read text).result = .error why) :
    q.convertInput t ⟨label, text⟩ =
      Run.notify ⟨t, { log := (Sql.read text).remarks.map .remark } ++
        { log := [.unreadable label why] }, none⟩ (.unreadable label) { failed := [label] } := by
  have hsummary : q.summary (.error why) = .ok {} := by
    cases hsummaries : q.summaries <;> simp [Request.summary, hsummaries]
  simp only [Request.convertInput, hread, hsummary, Request.judge]

/-- A run without checks and summaries delivers the class text of a file that declares a table. -/
theorem run_of_file {q : Request} (hverify : q.verify = false) (hsummaries : q.summaries = .none)
    {t : Tree} {p : Path} {place : Place} {table : Schema.Table} (hnormal : p.IsNormal)
    (hdash : p.toString ≠ "-") (hfind : t.find p = .ok (some place))
    (hfile : t.isFileAt place = true) (hread : (Sql.read (t.textAt place)).result = .ok table) :
    ∃ r, (q.run t "" p.toString).tree =
        (q.deliver t r table (Java.classText q.options table)).tree ∧
      (q.run t "" p.toString).failure =
        (q.deliver t r table (Java.classText q.options table)).failure := by
  have hinputs : inputs t "" p.toString = .ok [⟨p.toString, t.textAt place⟩] := by
    rw [inputs, if_neg hdash, Path.ofString_toString hnormal, File.scan, hfind]
    change Except.map _ (if t.isFileAt place = true then _ else _) = _
    rw [if_pos hfile]
    rfl
  have hreading : Sql.read (t.textAt place) = ⟨.ok table, (Sql.read (t.textAt place)).remarks⟩ := by
    rw [← hread]
  have hconvert := convertInput_of_read hverify hsummaries t p.toString hreading
  refine ⟨{ log := (Sql.read (t.textAt place)).remarks.map .remark } ++ {}, ?_⟩
  rw [Request.run, hinputs]
  simp only [Request.convertAll, hconvert]
  split
  · exact ⟨rfl, rfl⟩
  · rename_i hreturns
    exact ⟨rfl, hreturns.symm⟩

end EntityMapper.Conversion

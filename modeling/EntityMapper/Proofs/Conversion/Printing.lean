import EntityMapper.Proofs.Conversion.Containment
import EntityMapper.Proofs.Java.Alphabet
import EntityMapper.Proofs.Text.Console

/-!
# Classes that are printed and classes that are written

A run that writes class files and the run that prints the classes of the same inputs accept the same
inputs.  The files hold the class texts as they are; the console shows a class text as it is exactly
if it holds no tab and none of the control characters that a console drops, and these can stand in
it only if they stand in a name of the table.
-/

namespace EntityMapper.Text

/-- Whether a console shows a text as it is. -/
def isKept (s : String) : Bool :=
  s.toList.all (!isAltered ·)

theorem isKept_iff {s : String} : isKept s = true ↔ ∀ c ∈ s.toList, isAltered c = false := by
  simp [isKept]

theorem onConsole_eq_self_iff_isKept {s : String} : onConsole s = s ↔ isKept s = true := by
  rw [onConsole_eq_self_iff, isKept_iff]

/-- The characters that a console alters are in ASCII and can stand in no Java name. -/
theorem of_isAltered {c : Char} (h : isAltered c = true) :
    c.toNat < 128 ∧ Java.continuesIdentifier c = false := by
  have hlist : c ∈ ['\x07', '\x08', '\x0b', '\x0c', '\r', '\t'] := by
    simpa [isAltered, isUnshown, or_assoc] using h
  have hall : ∀ d ∈ ['\x07', '\x08', '\x0b', '\x0c', '\r', '\t'],
      d.toNat < 128 ∧ Java.continuesIdentifier d = false := by
    decide
  exact hall c hlist

/-- Lines that are kept make up a text that is kept. -/
theorem isKept_lines {lines : List String} (h : ∀ line ∈ lines, isKept line = true) :
    isKept ("\n".intercalate lines) = true := by
  rw [isKept_iff, String.toList_intercalate]
  intro c hc
  rcases mem_intercalate hc with rfl | ⟨line, hline, hmem⟩
  · decide
  · obtain ⟨s, hs, rfl⟩ := List.mem_map.mp hline
    exact isKept_iff.mp (h s hs) c hmem

end EntityMapper.Text

namespace EntityMapper.Naming

open Text Java

variable {name : List Char} {c : Char}

/-- A name in camel case holds nothing that the name does not hold, but for letters. -/
theorem mem_camelCase (h : c ∈ camelCase name) : c ∈ name ∨ continuesIdentifier c = true := by
  by_cases hletters : letters name = []
  · rw [camelCase_of_letters_eq_nil hletters] at h
    exact .inl h
  · exact ((recased_camelCase hletters).mem_or_continues h).imp_left fun hmem =>
      (mem_letters.mp hmem).1

/-- A capitalized text holds no other characters of ASCII than the text, but for letters. -/
theorem mem_capitalize (hascii : c.toNat < 128) (h : c ∈ capitalize name) :
    c ∈ name ∨ continuesIdentifier c = true := by
  cases name with
  | nil => cases h
  | cons d ds =>
    rw [capitalize, List.mem_append] at h
    rcases h with h | h
    · cases hletter : isAlphanumeric d with
      | false =>
        obtain ⟨e, hupper, -, he⟩ := upperChar_of_not_alphanumeric hletter
        rw [hupper, List.mem_singleton] at h
        rcases he with rfl | ⟨-, he⟩
        · exact .inl (h ▸ List.mem_cons_self)
        · exact absurd (h ▸ hascii) he
      | true =>
        have hform : Recased [d] (upperChar d ++ []) := .cons (isForm_upperChar (.inl hletter)) .nil
        refine (hform.mem_or_continues (by simpa using h)).imp_left fun hmem => ?_
        exact List.mem_singleton.mp hmem ▸ List.mem_cons_self
    · exact .inl (List.mem_cons_of_mem d h)

theorem mem_pascalCase (hascii : c.toNat < 128) (h : c ∈ pascalCase name) :
    c ∈ name ∨ continuesIdentifier c = true :=
  (mem_capitalize hascii h).elim mem_camelCase .inr

/-- Text that is made from kept text, but for letters, is kept. -/
theorem isKept_of_mem {s : String} {cs : List Char} (h : isKept s = true)
    (hmem : ∀ c ∈ cs, c.toNat < 128 → c ∈ s.toList ∨ continuesIdentifier c = true) :
    isKept (String.ofList cs) = true := by
  rw [isKept_iff] at h ⊢
  rw [String.toList_ofList]
  intro c hc
  by_contra haltered
  rw [Bool.not_eq_false] at haltered
  obtain ⟨hascii, hname⟩ := of_isAltered haltered
  rcases hmem c hc hascii with hmem | hcontinues
  · rw [h c hmem] at haltered
    cases haltered
  · rw [hname] at hcontinues
    cases hcontinues

theorem isKept_capitalize {s : String} (h : isKept s = true) :
    isKept (String.ofList (capitalize s.toList)) = true :=
  isKept_of_mem h fun _ hc hascii => mem_capitalize hascii hc

theorem isKept_fieldName {name : String} (h : isKept name = true) :
    isKept (fieldName name) = true := by
  refine isKept_of_mem h fun c hc _ => ?_
  rcases mem_identifier hc with hmem | rfl
  · exact mem_camelCase hmem
  · exact .inr (by decide)

theorem isKept_className {name : String} (h : isKept name = true) :
    isKept (className name) = true := by
  refine isKept_of_mem h fun c hc hascii => ?_
  rcases mem_identifier hc with hmem | rfl
  · exact mem_pascalCase hascii hmem
  · exact .inr (by decide)

end EntityMapper.Naming

namespace EntityMapper.Java

open Schema Text

variable {o : Options} {t : Table}

/-! ## Class texts -/

/-- A console alters no character of ASCII that is shown. -/
theorem not_isAltered_of_isPrintable (c : Char) (h : isPrintable c = true) :
    (!isAltered c) = true := by
  have hle : c ≤ '~' := by
    simp only [isPrintable, Bool.and_eq_true, decide_eq_true_eq] at h
    exact h.2
  have hascii : c.toNat < 128 := Nat.lt_of_le_of_lt (UInt32.le_iff_toNat_le.mp hle) (by decide)
  exact forall_below (P := fun c => isPrintable c = true → (!isAltered c) = true) (by decide)
    hascii h

/-- The names that a class text is made from are shown as they are. -/
structure KeepsNames (t : Table) : Prop where
  name : isKept t.name = true
  className : isKept t.className = true
  columns : ∀ c ∈ t.columns, isKept c.name = true ∧ isKept c.fieldName = true

/-- A class text holds no character that a console alters unless one of the names does. -/
theorem isKept_classText (h : KeepsNames t) : isKept (classText o t) = true := by
  have hnames : AllNames (!isAltered ·) t := {
    name := h.name
    className := h.className
    columnNames := fun c hc => (h.columns c hc).1
    fieldNames := fun c hc => (h.columns c hc).2
    accessorNames := fun c hc => Naming.isKept_capitalize (h.columns c hc).2 }
  exact isKept_lines (allOf_classLines not_isAltered_of_isPrintable hnames)

end EntityMapper.Java

namespace EntityMapper.Conversion

open File (Path Tree)

/-! ## Runs that print -/

/-- The class text of a table that an SQL text declares. -/
theorem convert_of_read {o : Java.Options} {sql : String} {table : Schema.Table}
    (h : (Sql.read sql).result = .ok table) : convert o sql = Java.classText o table := by
  unfold convert
  rw [h]

namespace Request

variable {q : Request} {t : Tree} {i : Input} {is : List Input}

/-- The same request with the console as its target. -/
def printing (q : Request) : Request :=
  { q with target := .console }

@[simp] theorem options_printing : q.printing.options = q.options := rfl

theorem judge_printing (declared : Except Sql.ReadingFailure Schema.Table) :
    q.printing.judge declared = q.judge declared := by
  cases declared with
  | error why => rfl
  | ok table =>
    cases hverify : q.verify with
    | false => rw [judge_of_not_verify hverify, judge_of_not_verify (q := q.printing) hverify,
        options_printing]
    | true =>
      cases houtline : Java.outlineFor table (Java.classText q.options table) with
      | error why => rw [judge_of_error hverify houtline,
          judge_of_error (q := q.printing) hverify houtline]
      | ok found => rw [judge_of_ok houtline, judge_of_ok (q := q.printing) houtline,
          options_printing]

/-- What becomes of an input with its own target and with the console: it fails with both, or its
class text is delivered to either. -/
theorem fate_printing_cases (q : Request) (i : Input) :
    (q.fate i = .failed i.label ∧ q.printing.fate i = .failed i.label) ∨
      ∃ table, (Sql.read i.text).result = .ok table ∧
        q.fate i = (match q.target with
          | .console => .printed (Text.onConsole (convert q.options i.text))
          | .directory directory => .written (classFile directory table.className)) ∧
        q.printing.fate i = .printed (Text.onConsole (convert q.options i.text)) := by
  have hsame := judge_printing (q := q) (Sql.read i.text).result
  rcases judge_cases q i with ⟨why, -, hjudge⟩ | ⟨table, why, -, hjudge⟩ | ⟨table, hread, hjudge⟩
  · exact .inl ⟨fate_of_unreadable q i hjudge, fate_of_unreadable _ i (hsame.trans hjudge)⟩
  · exact .inl ⟨fate_of_rejected q i hjudge, fate_of_rejected _ i (hsame.trans hjudge)⟩
  · refine .inr ⟨table, hread, ?_⟩
    rw [convert_of_read hread]
    exact ⟨fate_of_accepted q i hjudge, fate_of_accepted _ i (hsame.trans hjudge)⟩

/-- On the console the class texts of the accepted inputs are printed. -/
theorem printed?_fate_printing (i : Input) : (q.printing.fate i).printed? =
    if q.accepts i = true then some (Text.onConsole (convert q.options i.text)) else none := by
  rcases fate_printing_cases q i with ⟨hfate, hprinting⟩ | ⟨table, -, hfate, hprinting⟩
  · rw [hprinting, accepts, hfate]
    rfl
  · rw [hprinting, accepts, hfate]
    cases q.target <;> rfl

/-- The inputs that fail do not depend on the target. -/
theorem failed?_fate_printing (i : Input) :
    (q.printing.fate i).failed? = (q.fate i).failed? := by
  rcases fate_printing_cases q i with ⟨hfate, hprinting⟩ | ⟨table, -, hfate, hprinting⟩
  · rw [hprinting, hfate]
  · rw [hprinting, hfate]
    cases q.target <;> rfl

/-- An input is accepted into a directory if its class file is written. -/
theorem written?_fate {directory : Path} (htarget : q.target = .directory directory)
    (haccepts : q.accepts i = true) : ∃ table, (Sql.read i.text).result = .ok table ∧
      (q.fate i).written? = some (classFile directory table.className) := by
  rcases fate_printing_cases q i with ⟨hfate, -⟩ | ⟨table, hread, hfate, -⟩
  · rw [accepts, hfate] at haccepts
    cases haccepts
  · refine ⟨table, hread, ?_⟩
    rw [hfate, htarget]
    rfl

/-- Where an input is converted, it is converted for the console as well, whatever the files are,
and no file changes. -/
theorem returns_convertInput_printing (h : (q.convertInput t i).failure = none) (t' : Tree) :
    (q.printing.convertInput t' i).failure = none ∧ (q.printing.convertInput t' i).tree = t' := by
  have hsummaries : q.printing.summary (Sql.read i.text).result =
      q.summary (Sql.read i.text).result := rfl
  rw [convertInput] at h ⊢
  dsimp only at h ⊢
  rw [hsummaries]
  cases hsummary : q.summary (Sql.read i.text).result with
  | error why => simp [hsummary] at h
  | ok summary =>
    simp only [hsummary, judge_printing] at h ⊢
    rcases judge_cases q i with ⟨why, -, hjudge⟩ | ⟨table, why, -, hjudge⟩ | ⟨table, -, hjudge⟩
    · simp only [hjudge] at h ⊢
      exact ⟨(notify_congr t' t _ _ _).1.trans h, tree_notify _ _ _⟩
    · simp only [hjudge] at h ⊢
      exact ⟨(notify_congr t' t _ _ _).1.trans h, tree_notify _ _ _⟩
    · simp only [hjudge]
      rw [deliver_console rfl]
      exact ⟨rfl, rfl⟩

/-- Where a run goes on to its end, so does the run that prints, and no file changes. -/
theorem returns_printing (h : (q.convertAll t is).failure = none) (t' : Tree) :
    (q.printing.convertAll t' is).failure = none ∧ (q.printing.convertAll t' is).tree = t' := by
  induction is generalizing t t' with
  | nil => exact ⟨rfl, rfl⟩
  | cons i is ih =>
    obtain ⟨hfirst, hrest⟩ := returns_cons_iff.mp h
    obtain ⟨hreturns, htree⟩ := returns_convertInput_printing hfirst t'
    obtain ⟨hothers, hsame⟩ := ih hrest t'
    rw [convertAll_cons_of_returns hreturns, htree]
    exact ⟨hothers, hsame⟩

/-- No file is written for an input that fails. -/
theorem written?_of_not_accepts (h : q.accepts i = false) : (q.fate i).written? = none := by
  cases hfate : q.fate i with
  | failed label => rfl
  | printed text => simp [accepts, hfate, Fate.failed?] at h
  | written file => simp [accepts, hfate, Fate.failed?] at h

/-- A run that prints writes no file. -/
theorem written?_fate_printing (i : Input) : (q.printing.fate i).written? = none := by
  rcases fate_printing_cases q i with ⟨-, hprinting⟩ | ⟨table, -, -, hprinting⟩
  · rw [hprinting]
    rfl
  · rw [hprinting]
    rfl

/-- Without checks an input that declares a table is accepted. -/
theorem accepts_of_not_verify (hverify : q.verify = false) {table : Schema.Table}
    (h : (Sql.read i.text).result = .ok table) : q.accepts i = true := by
  have hjudge := judge_of_not_verify hverify table
  rw [← h] at hjudge
  rw [accepts, fate_of_accepted _ _ hjudge]
  cases q.target <;> rfl

/-- What an input comes to by itself where class files are written and where classes are printed. -/
structure PrintsInput (q : Request) (t : Tree) (directory : Path) (i : Input) : Prop where
  /-- An accepted input is written as its class text, and printed as the console shows it. -/
  accepted : q.accepts i = true → ∃ table, (Sql.read i.text).result = .ok table ∧
    (q.convertAll t [i]).report.written = [classFile directory table.className] ∧
    (q.convertAll t [i]).tree.bytes? ((classFile directory table.className).target t.home) =
      some (Text.encodeUtf8 (convert q.options i.text)) ∧
    (q.printing.convertAll t [i]).report.printed = Text.onConsole (convert q.options i.text)
  /-- An input that fails is neither printed nor written. -/
  failed : q.accepts i = false → (q.convertAll t [i]).tree = t ∧
    (q.convertAll t [i]).report.written = [] ∧ (q.printing.convertAll t [i]).report.printed = ""

theorem printsInput {directory : Path} (htarget : q.target = .directory directory)
    (h : (q.convertInput t i).failure = none) : PrintsInput q t directory i := by
  have hprinting := (returns_convertInput_printing h t).1
  have hprinted : (q.printing.convertAll t [i]).report.printed =
      (q.printing.fate i).printed?.getD "" := by
    rw [convertAll_singleton, (report_convertInput hprinting).2.1]
  have hwritten : (q.convertAll t [i]).report.written = (q.fate i).written?.toList := by
    rw [convertAll_singleton, (report_convertInput h).2.2]
  constructor
  · intro haccepts
    obtain ⟨table, hread, hfile⟩ := written?_fate htarget haccepts
    obtain ⟨-, other, hother, hbytes⟩ := holds_convertInput h hfile
    obtain rfl := Except.ok.inj (hother.symm.trans hread)
    refine ⟨other, hread, ?_, ?_, ?_⟩
    · rw [hwritten, hfile]
      rfl
    · rw [convertAll_singleton, convert_of_read hread]
      exact hbytes
    · rw [hprinted, printed?_fate_printing, if_pos haccepts, Option.getD_some]
  · intro hrejected
    refine ⟨?_, ?_, ?_⟩
    · rw [convertAll_singleton]
      exact tree_convertInput_of_failed hrejected t
    · rw [hwritten, written?_of_not_accepts hrejected]
      rfl
    · rw [hprinted, printed?_fate_printing, if_neg (by simp [hrejected]), Option.getD_none]

/-- A run that writes class files and goes on to its end, beside the run on the same files that
prints the classes. -/
structure PrintsWritten (q : Request) (t : Tree) (standardInput source : String)
    (directory : Path) (is : List Input) : Prop where
  inputs_eq : inputs t standardInput source = .ok is
  returns : (q.printing.run t standardInput source).failure = none
  tree_eq : (q.printing.run t standardInput source).tree = t
  nothing_written : (q.printing.run t standardInput source).report.written = []
  nothing_printed : (q.run t standardInput source).report.printed = ""
  failed_eq : (q.printing.run t standardInput source).report.failed =
    (q.run t standardInput source).report.failed
  printed_eq : (q.printing.run t standardInput source).report.printed =
    String.join ((is.filter q.accepts).map fun i => Text.onConsole (convert q.options i.text))
  each : ∀ i ∈ is, PrintsInput q t directory i

theorem printsWritten {standardInput source : String} {directory : Path}
    (htarget : q.target = .directory directory) (hinputs : inputs t standardInput source = .ok is)
    (h : (q.convertAll t is).failure = none) :
    PrintsWritten q t standardInput source directory is := by
  obtain ⟨hreturns, htree⟩ := returns_printing h t
  have hwrites := accounts h
  have hprints := accounts hreturns
  have hrun := run_eq (q := q) hinputs
  have hprint := run_eq (q := q.printing) hinputs
  exact {
    inputs_eq := hinputs
    returns := by
      rw [hprint]
      exact hreturns
    tree_eq := by
      rw [hprint]
      exact htree
    nothing_written := by
      rw [hprint, Report.written_append, hprints.written_eq]
      exact List.filterMap_eq_nil_iff.mpr fun i _ => written?_fate_printing i
    nothing_printed := by
      have hsilent : (is.filterMap fun i => (q.fate i).printed?) = [] :=
        List.filterMap_eq_nil_iff.mpr fun i _ => printed?_eq_none htarget i
      rw [hrun, Report.printed_append, hwrites.printed_eq, hsilent]
      rfl
    failed_eq := by
      rw [hprint, hrun, Report.failed_append, Report.failed_append, hprints.failed_eq,
        hwrites.failed_eq]
      exact congrArg _ (List.filterMap_congr fun i _ => failed?_fate_printing i)
    printed_eq := by
      rw [hprint, Report.printed_append, hprints.printed_eq, ← List.filterMap_eq_map,
        List.filterMap_filter, String.empty_append]
      exact congrArg _ (List.filterMap_congr fun i _ => printed?_fate_printing i)
    each := fun i hi => printsInput htarget (by
      rw [← convertAll_singleton]
      exact hwrites.alone i hi) }

end Request

/-- The class text of a table that is read is shown as it is if the names that are read are. -/
theorem isKept_convert {o : Java.Options} {sql : String} {table : Schema.Table}
    (h : (Sql.read sql).result = .ok table) (hname : Text.isKept table.name = true)
    (hcolumns : ∀ c ∈ table.columns, Text.isKept c.name = true) :
    Text.isKept (convert o sql) = true := by
  have hsound := Sql.soundTable_of_read h
  rw [convert_of_read h]
  refine Java.isKept_classText ⟨hname, ?_, fun c hc => ⟨hcolumns c hc, ?_⟩⟩
  · rw [hsound.className_eq]
    exact Naming.isKept_className hname
  · rw [(hsound.columns_sound c hc).fieldName_eq]
    exact Naming.isKept_fieldName (hcolumns c hc)

/-- Where a run writes its class files and goes on to its end, the run that prints the classes
accepts the same inputs and changes no file.  What is written for an accepted input is its class
text, and what is printed is what the console shows of it.  This is the class text itself exactly if
it holds no character that the console alters, and it holds none if no name of the table does. -/
theorem printed_of_run {q : Request} {t : Tree} {standardInput source : String} {directory : Path}
    (htarget : q.target = .directory directory)
    (h : (q.run t standardInput source).failure = none) :
    ∃ is, q.PrintsWritten t standardInput source directory is ∧
      ∀ i ∈ is, (Text.onConsole (convert q.options i.text) = convert q.options i.text ↔
          ∀ c ∈ (convert q.options i.text).toList, Text.isAltered c = false) ∧
        ∀ table, (Sql.read i.text).result = .ok table → Text.isKept table.name = true →
          (∀ c ∈ table.columns, Text.isKept c.name = true) →
          Text.onConsole (convert q.options i.text) = convert q.options i.text := by
  cases hinputs : inputs t standardInput source with
  | error why => simp [Request.run, hinputs] at h
  | ok is =>
    have hreturns : (q.convertAll t is).failure = none := by
      rwa [run_eq hinputs] at h
    refine ⟨is, Request.printsWritten htarget hinputs hreturns, fun i _ => ⟨?_, ?_⟩⟩
    · exact Text.onConsole_eq_self_iff
    · intro table hread hname hcolumns
      exact Text.onConsole_eq_self_iff_isKept.mpr (isKept_convert hread hname hcolumns)

/-- A request for classes with no annotations but those that name the columns. -/
def namingRequest : Request where
  options := { jpa := false, lombok := false, accessors := false }

/-- The table of an SQL text that declares a column by a name in quotes. -/
def quotedNameTable (column : String) : Schema.Table :=
  ⟨"t", "T", [⟨column, "aB", .integer, "INT", false, false, true, false⟩]⟩

theorem read_quotedName :
    Sql.read "CREATE TABLE t (`a b` INT)" = ⟨.ok (quotedNameTable "a b"), []⟩ :=
  Sql.read_of_isStatement (by decide +kernel)

theorem printed_of_run_quotedName :
    (namingRequest.run {} "CREATE TABLE t (`a b` INT)" "-").failure = none ∧
      ∃ is, namingRequest.PrintsWritten {} "CREATE TABLE t (`a b` INT)" "-"
        ⟨.here, ["out"]⟩ is := by
  have hinputs : inputs {} "CREATE TABLE t (`a b` INT)" "-" =
      .ok [⟨"<stdin>", "CREATE TABLE t (`a b` INT)"⟩] := rfl
  have hreturns : (namingRequest.run {} "CREATE TABLE t (`a b` INT)" "-").failure = none := by
    rw [failure_run hinputs, Request.convertAll_singleton,
      convertInput_of_read rfl rfl _ _ read_quotedName]
    decide +kernel
  obtain ⟨is, hprints, -⟩ := printed_of_run rfl hreturns
  exact ⟨hreturns, is, hprints⟩

/-- A table with a tab in the name of its column. -/
def tabbed : Input :=
  ⟨"<stdin>", "CREATE TABLE t (`a\tb` INT)"⟩

theorem read_tabbed : Sql.read tabbed.text = ⟨.ok (quotedNameTable "a\tb"), []⟩ :=
  Sql.read_of_isStatement (by decide +kernel)

theorem convert_tabbed : convert namingRequest.options tabbed.text = "\n".intercalate
    ["import com.fasterxml.jackson.annotation.JsonProperty;", "", "public class T \x7b",
      "", "    @JsonProperty(\"a\tb\")", "    private Integer aB;", "\x7d", ""] :=
  (convert_of_read (congrArg Sql.Reading.result read_tabbed)).trans (by decide +kernel)

theorem returns_tabbed : (namingRequest.convertInput {} tabbed).failure = none :=
  (congrArg Run.failure (convertInput_of_read rfl rfl {} "<stdin>" read_tabbed)).trans
    (by decide +kernel)

/-- The tab stands in the class file, and blanks are printed in its place. -/
theorem not_printed_tabbed :
    (namingRequest.run {} tabbed.text "-").report.written = [⟨.here, ["out", "T.java"]⟩] ∧
      (namingRequest.run {} tabbed.text "-").tree.bytes? ["out", "T.java"] =
        some (Text.encodeUtf8 (convert namingRequest.options tabbed.text)) ∧
      (namingRequest.printing.run {} tabbed.text "-").report.printed ≠
        convert namingRequest.options tabbed.text := by
  have hinputs : inputs {} tabbed.text "-" = .ok [tabbed] := rfl
  have hread : (Sql.read tabbed.text).result = .ok (quotedNameTable "a\tb") :=
    congrArg Sql.Reading.result read_tabbed
  obtain ⟨table, htable, hwritten, hbytes, hprinted⟩ :=
    (Request.printsInput rfl returns_tabbed).accepted (Request.accepts_of_not_verify rfl hread)
  obtain rfl := Except.ok.inj (htable.symm.trans hread)
  have hfile : classFile ⟨.here, ["out"]⟩ (quotedNameTable "a\tb").className =
      ⟨.here, ["out", "T.java"]⟩ := by
    decide +kernel
  have hplace : (File.Path.mk .here ["out", "T.java"]).target (Tree.home {}) =
    ["out", "T.java"] := by
    decide +kernel
  rw [hfile] at hwritten hbytes
  rw [hplace] at hbytes
  rw [tree_run hinputs, run_eq hinputs, run_eq hinputs, Report.written_append,
    Report.printed_append, hwritten, hprinted]
  refine ⟨rfl, hbytes, fun hsame => ?_⟩
  rw [String.empty_append, Text.onConsole_eq_self_iff_isKept, convert_tabbed] at hsame
  revert hsame
  decide +kernel

end EntityMapper.Conversion

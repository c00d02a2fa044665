import EntityMapper.Proofs.Sql.Places
import EntityMapper.Proofs.Sql.RoundTrip
import EntityMapper.Proofs.Sql.Tables

/-!
# Items behind columns

A declaration that begins with a written header and columns is read as a table with these columns
and with what the items behind them come to, whatever these are and whatever stands behind them: all
that counts is that no statement ends in between.
-/

namespace EntityMapper.Sql

open Pattern Text Schema

/-! ## Columns in front of an item -/

/-- Columns with a comma behind each of them. -/
def aheadText : List WrittenColumn → List Char
  | [] => []
  | c :: cs => c.text ++ (", ".toList ++ aheadText cs)

def aheadTokens : List WrittenColumn → Nat → List Token
  | [], _ => []
  | c :: cs, index => c.tokens index ++
      mark ',' (index + c.text.length) :: aheadTokens cs (index + c.text.length + 2)

/-- The items of the columns. -/
def aheadItems : List WrittenColumn → Nat → List (List Token)
  | [], _ => []
  | c :: cs, index => c.tokens index :: aheadItems cs (index + c.text.length + 2)

/-- Written columns, each with its comma, yield their tokens. -/
theorem yields_ahead (cs : List WrittenColumn) (before : Option Char) (rest : List Char) :
    Yields before (aheadText cs) rest (aheadTokens cs) := by
  induction cs generalizing before with
  | nil => exact yields_nil before rest
  | cons c cs ih =>
    have hmark : ',' ∈ sectionMarks ∧ ',' ∈ argumentEnds := by decide
    have hcomma before := (yields_mark hmark.1 before _).append ((yields_blank _ _).append (ih _))
    have hcolumn := (yields_column c hmark.2 before
      (' ' :: (aheadText cs ++ rest))).append (hcomma _)
    exact hcolumn.congr fun index => by simp [aheadTokens, Nat.add_assoc]

/-- Cutting a section at its commas cuts off the columns and goes on with what stands behind. -/
theorem itemsFrom_ahead (cs : List WrittenColumn) (index : Nat) (more : List Token) :
    itemsFrom 0 [] (aheadTokens cs index ++ more) = aheadItems cs index ++ itemsFrom 0 [] more := by
  induction cs generalizing index with
  | nil => rfl
  | cons c cs ih =>
    rw [aheadTokens, List.append_assoc, passes_column, List.cons_append, itemsFrom.eq_def]
    change ((c.tokens index).reverse ++ []).reverse ::
      itemsFrom 0 [] (aheadTokens cs (index + c.text.length + 2) ++ more) = _
    rw [List.append_nil, List.reverse_reverse, ih, aheadItems, List.cons_append]

/-- No item of a written column is empty. -/
theorem aheadItems_ne_nil {cs : List WrittenColumn} {index : Nat} :
    ∀ item ∈ aheadItems cs index, item ≠ [] := by
  induction cs generalizing index with
  | nil => exact fun _ h => absurd h List.not_mem_nil
  | cons c cs ih => exact List.forall_mem_cons.mpr ⟨List.cons_ne_nil _ _, ih⟩

/-- The items of the columns are read as them. -/
theorem filterMap_aheadItems (cs : List WrittenColumn) (before after : List Char) :
    (aheadItems cs before.length).filterMap
        (ItemReading.ofItem? (before ++ (aheadText cs ++ after))) =
      cs.map fun c => .column c.column := by
  induction cs generalizing before with
  | nil => rfl
  | cons c cs ih =>
    have htext : before ++ (aheadText (c :: cs) ++ after) =
        before ++ c.text ++ (", ".toList ++ (aheadText cs ++ after)) := by
      simp [aheadText]
    have hmore : before ++ (aheadText (c :: cs) ++ after) =
        (before ++ c.text ++ ", ".toList) ++ (aheadText cs ++ after) := by
      simp [aheadText]
    have hc := c.defines before (", ".toList ++ (aheadText cs ++ after))
    have hcs := ih (before ++ c.text ++ ", ".toList)
    rw [← htext] at hc
    rw [← hmore, List.length_append, List.length_append] at hcs
    rw [aheadItems, List.filterMap_cons, hc]
    exact congrArg _ hcs

/-! ## The item behind them -/

/-- An item begins with the tokens that are read at its beginning. -/
theorem exists_itemsFrom (depth : Nat) (read ts : List Token) :
    ∃ xs others, itemsFrom depth read ts = (read.reverse ++ xs) :: others := by
  induction ts generalizing depth read with
  | nil => exact ⟨[], [], by rw [itemsFrom, List.append_nil]⟩
  | cons t ts ih =>
    have further (depth : Nat) : ∃ xs others,
        itemsFrom depth (t :: read) ts = (read.reverse ++ xs) :: others := by
      obtain ⟨xs, others, h⟩ := ih depth (t :: read)
      exact ⟨t :: xs, others, by rw [h]; simp⟩
    rw [itemsFrom.eq_def]
    dsimp only
    split
    · exact further (depth + 1)
    · split
      · split
        · exact ⟨[], [], by rw [List.append_nil]⟩
        · exact further _
      · split
        · exact ⟨[], itemsFrom 0 [] ts, by rw [List.append_nil]⟩
        · exact further depth

/-- A word and a type are an item of their own in front of a comma or a closing parenthesis. -/
theorem items_of_words {first type : Token} (hfirst : first.kind = .word)
    (htype : type.kind = .word) {last : Char} (hlast : last ∈ argumentEnds) (index : Nat)
    (more : List Token) :
    ∃ others, items ([first, type, mark last index] ++ more) = [first, type] :: others := by
  have hwords : Passes 0 [first, type] 0 :=
    (passes_of_not_mark (by simp [hfirst]) 0).cons (passes_of_not_mark (by simp [htype]) 0)
  have hpasses := hwords [] (mark last index :: more)
  have hitem : ∃ others, itemsFrom 0 [] ([first, type, mark last index] ++ more) =
      [first, type] :: others := by
    rw [show [first, type, mark last index] ++ more =
      [first, type] ++ mark last index :: more from rfl, hpasses, itemsFrom.eq_def]
    rcases List.mem_pair.mp hlast with rfl | rfl
    · exact ⟨itemsFrom 0 [] more, rfl⟩
    · exact ⟨[], rfl⟩
  obtain ⟨others, hothers⟩ := hitem
  exact ⟨others.filter (· ≠ []), by rw [items, hothers]; rfl⟩

/-- Tokens that begin with a number have a first item that begins with it. -/
theorem items_of_number (ds : List Char) (index : Nat) (more : List Token) :
    ∃ xs others, items (number ds index :: more) = (number ds index :: xs) :: others := by
  have hpasses := passes_of_not_mark (t := number ds index) (by simp) 0 [] more
  obtain ⟨xs, others, hothers⟩ := exists_itemsFrom 0 [number ds index] more
  refine ⟨xs, others.filter (· ≠ []), ?_⟩
  rw [items, ← List.singleton_append, hpasses, List.append_nil, List.reverse_singleton, hothers]
  rfl

/-! ## Tables with such columns -/

section Table

variable {text : List Char} {name : String} {parts : List (List Token)} {columns : List Column}
  (hnodup : (columns.map fun c => comparable c.name).Nodup)
include hnodup

/-- The column behind columns of other names stands behind them in the table. -/
theorem name_assemble {c : Column} {rs : List ItemReading}
    (hparts : parts.filterMap (ItemReading.ofItem? text) =
      columns.map .column ++ .column c :: rs)
    (hfresh : comparable c.name ∉ columns.map fun c => comparable c.name) :
    ((assemble text name parts).1.columns[columns.length]?).map (·.name) = some c.name := by
  have houtcomes : outcomes name [] (columns.map .column ++ .column c :: rs) =
      columns.map .kept ++ .kept c :: outcomes name (comparable c.name ::
        ((columns.map fun c => comparable c.name).reverse ++ [])) rs := by
    rw [outcomes_append name hnodup (fun _ _ => List.not_mem_nil), outcomes,
      if_neg (by simpa using hfresh)]
  have hkept : (columns.map ItemOutcome.kept).filterMap ItemOutcome.column? = columns := by
    rw [List.filterMap_map]
    exact List.filterMap_some
  rw [assemble, hparts]
  dsimp only
  rw [houtcomes, List.filterMap_append, hkept, List.map_append,
    List.getElem?_append_right (by simp)]
  simp [ItemOutcome.column?]

/-- An item that begins with no name calls for the first remark if the types of the columns in
front of it are known. -/
theorem head?_remarks_assemble {first : Token} {rs : List ItemReading}
    (hparts : parts.filterMap (ItemReading.ofItem? text) =
      columns.map .column ++ .notAName first :: rs)
    (hknown : ∀ c ∈ columns, c.typeUnknown = false) :
    (assemble text name parts).2.head? = some (.notAName first.value name) := by
  have hsilent : (columns.map ItemOutcome.kept).flatMap (ItemOutcome.remarks name) = [] := by
    rw [List.flatMap_map, List.flatMap_eq_nil_iff]
    intro c hc
    simp [ItemOutcome.remarks, ItemOutcome.typeRemarks, hknown c hc]
  rw [assemble, hparts]
  dsimp only
  rw [outcomes_append name hnodup (fun _ _ => List.not_mem_nil), List.flatMap_append, hsilent,
    outcomes, List.flatMap_cons]
  rfl

end Table

/-! ## Declarations with such columns -/

/-- A statement whose tokens begin with a written header declares the table that its items are put
together to. -/
theorem tableOf?_of_tokenize {ifNotExists : Bool} {name : String} (hname : name ≠ "")
    {text : List Char} {more : List Token}
    (h : tokenize (String.ofList text) = headerTokens ifNotExists name 0 ++ more) :
    tableOf? text = some (assemble text name (items more)) := by
  obtain ⟨index, hfind⟩ := find?_headerTokens ifNotExists hname more
  rw [tableOf?, h, hfind]
  rfl

/-- A written header and columns with a comma behind each of them. -/
def frontText (ifNotExists : Bool) (name : String) (columns : List WrittenColumn) : List Char :=
  headerText ifNotExists name ++ aheadText columns

/-- The header and the columns in front of the edited one yield their tokens. -/
theorem yields_front (ifNotExists : Bool) (name : String) (columns : List WrittenColumn)
    (rest : List Char) : Yields none (frontText ifNotExists name columns) rest
      fun index => headerTokens ifNotExists name index ++
        aheadTokens columns (index + (headerText ifNotExists name).length) :=
  (yields_header ifNotExists name _).append (yields_ahead columns _ rest)

/-- A text that goes on calmly behind columns is read as a table with the items behind them, which
are those of a text that begins alike. -/
theorem read_frontText (ifNotExists : Bool) {name : String} (hname : name ≠ "")
    (columns : List WrittenColumn) {cs rest : List Char} {last : Char}
    (hcalm : ∃ ls more, lexemesAt ⟨(frontText ifNotExists name columns).getLast?, cs ++ rest⟩ =
      ls ++ more ∧ textOf ls = cs ∧ ∀ l ∈ ls, l.IsCalm)
    (hlast : cs.getLast? = some last) (hspace : isSpace last = false) :
    ∃ text parts after index before,
      read (String.ofList (frontText ifNotExists name columns ++ (cs ++ rest))) =
        ⟨.ok (assemble text name parts).1, (assemble text name parts).2⟩ ∧
      parts.filterMap (ItemReading.ofItem? text) =
        (columns.map WrittenColumn.column).map .column ++
          (items (tokensAt index ⟨before, cs ++ after⟩)).filterMap (ItemReading.ofItem? text) := by
  obtain ⟨front, hfront, hfrontCalm, -⟩ := yields_front ifNotExists name columns (cs ++ rest)
  obtain ⟨ls, more, hls, htext, hlsCalm⟩ := hcalm
  have hlexemes : lexemes (frontText ifNotExists name columns ++ cs ++ rest) =
      (front ++ ls) ++ more := by
    rw [lexemes_eq, Cursor.start, List.append_assoc, hfront, Option.or_none, hls, List.append_assoc]
  have htextOf : textOf (front ++ ls) = frontText ifNotExists name columns ++ cs := by
    rw [textOf_append, htext, textOf_of_lexemesAt hfront]
  have hfirst : (frontText ifNotExists name columns ++ cs).head? = some 'C' := by
    have hcreate : "CREATE TABLE".toList.head? = some 'C' := by decide
    unfold frontText headerText introText
    simp only [List.head?_append, hcreate, Option.some_or]
  have hend : (frontText ifNotExists name columns ++ cs).getLast? = some last := by
    rw [List.getLast?_append, hlast, Option.some_or]
  obtain ⟨after, others, hstatements⟩ := statements_calm hlexemes htextOf
    (fun l hl => (List.mem_append.mp hl).elim (hfrontCalm l) (hlsCalm l)) hfirst hend
    (by decide) hspace
  rw [List.append_assoc, List.append_assoc] at hstatements
  have htokens := tokensAt_of_yields (yields_front ifNotExists name columns (cs ++ after)) 0
  rw [Nat.zero_add, Nat.zero_add, Option.or_none, List.append_assoc] at htokens
  have htable := tableOf?_of_tokenize hname ((tokenize_eq _).trans htokens)
  refine ⟨frontText ifNotExists name columns ++ (cs ++ after),
    items (aheadTokens columns (headerText ifNotExists name).length ++
      tokensAt (frontText ifNotExists name columns).length
        ⟨(frontText ifNotExists name columns).getLast?, cs ++ after⟩), after,
    (frontText ifNotExists name columns).length, (frontText ifNotExists name columns).getLast?,
    ?_, ?_⟩
  · rw [read, String.toList_ofList, hstatements, List.findSome?_cons, htable]
  · rw [items, itemsFrom_ahead, List.filter_append, List.filterMap_append,
      List.filter_eq_self.mpr fun item hitem => decide_eq_true (aheadItems_ne_nil item hitem)]
    have hcolumns := filterMap_aheadItems columns (headerText ifNotExists name) (cs ++ after)
    rw [← List.append_assoc, ← frontText] at hcolumns
    rw [hcolumns, List.map_map]
    rfl

end EntityMapper.Sql

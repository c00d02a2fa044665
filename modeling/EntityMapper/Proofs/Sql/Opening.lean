import EntityMapper.Proofs.Sql.Announcement
import EntityMapper.Proofs.Sql.Layout
import EntityMapper.Proofs.Sql.Tables
import Mathlib.Data.List.Chain

/-!
# How the declaration that is read begins

The opening of a declaration are the words from `CREATE` through `TABLE` of the header that is read.
The text looks as if it declared a table exactly if its opening is plain, that is with nothing but
white space between the words and no word character in front of them, or if a declaration is
announced elsewhere. With a comment between the words a declaration is read that nothing announces.
-/

namespace EntityMapper.Sql

/-! ## The opening of a header -/

/-- The words from `CREATE` through `TABLE` of the first header in the tokens. -/
def Header.opening? : List Token → Option (List Token)
  | [] => none
  | t :: ts =>
    if t.isWord "CREATE" && (afterCreate? ts).isSome then
      some (t :: (ts.takeWhile (·.isWordIn tableModifiers) ++
        (ts.dropWhile (·.isWordIn tableModifiers)).take 1))
    else opening? ts

/-- A table opens where a header is found. -/
theorem Header.isSome_opening? (ts : List Token) :
    (Header.opening? ts).isSome = (Header.find? ts).isSome := by
  induction ts with
  | nil => rfl
  | cons t ts ih =>
    rw [opening?, find?]
    cases hcreate : t.isWord "CREATE" with
    | false => simpa using ih
    | true =>
      cases hafter : afterCreate? ts with
      | none => simpa using ih
      | some header => simp

/-- An opening is `CREATE`, modifiers and `TABLE`, and another token follows it. -/
theorem Header.opening?_eq_some {ts words : List Token} (h : Header.opening? ts = some words) :
    ∃ before create modifiers table last rest,
      ts = before ++ ((create :: (modifiers ++ [table])) ++ last :: rest) ∧
      words = create :: (modifiers ++ [table]) ∧ create.isWord "CREATE" = true ∧
      (∀ t ∈ modifiers, t.isWordIn tableModifiers = true) ∧ table.isWord "TABLE" = true := by
  induction ts with
  | nil => cases h
  | cons t ts ih =>
    rw [opening?] at h
    split at h
    · rename_i hcond
      obtain ⟨hcreate, hafter⟩ := Bool.and_eq_true_iff.mp hcond
      obtain ⟨header, hheader⟩ := Option.isSome_iff_exists.mp hafter
      rw [afterCreate?] at hheader
      split at hheader
      · cases hheader
      · rename_i table us hdrop
        split at hheader
        · rename_i htable
          rw [hdrop, List.take_succ_cons, List.take_zero] at h
          have hsplit : ts = ts.takeWhile (·.isWordIn tableModifiers) ++ table :: us := by
            rw [← hdrop, List.takeWhile_append_dropWhile]
          cases us with
          | nil => simp [beginsWith, named?] at hheader
          | cons last rest =>
            refine ⟨[], t, ts.takeWhile (·.isWordIn tableModifiers), table, last, rest, ?_,
              (Option.some.inj h).symm, hcreate, fun m hm =>
                List.mem_takeWhile_imp (p := fun t : Token => t.isWordIn tableModifiers) hm, htable⟩
            conv_lhs => rw [hsplit]
            simp
        · cases hheader
    · obtain ⟨before, create, modifiers, table, last, rest, rfl, hrest⟩ := ih h
      exact ⟨t :: before, create, modifiers, table, last, rest, rfl, hrest⟩

/-! ## Words of a text -/

/-- The text from one place on is a slice and the text from the later place on. -/
theorem drop_eq_slice_append {cs : List Char} {start stop : Nat} (h : start ≤ stop) :
    cs.drop start = slice cs start stop ++ cs.drop stop := by
  rw [slice, List.drop_take]
  conv_lhs => rw [← List.take_append_drop (stop - start) (cs.drop start)]
  rw [List.drop_drop, Nat.add_sub_cancel' h]

/-- A token is one of the words iff it is a word with one of these upper-case forms. -/
theorem isWordIn_iff {t : Token} {words : List String} :
    t.isWordIn words = true ↔ t.kind = .word ∧ t.upper ∈ words := by
  rw [Token.isWordIn, Bool.and_eq_true, beq_iff_eq, List.contains_iff_mem]

/-- Behind a word of plain capitals no word of the text goes on. -/
theorem StandsIn.spells {text : List Char} {low : Nat} {t : Token} (h : StandsIn text low t)
    {words : List String} (hwords : ∀ w ∈ words, w ≠ "" ∧ ∀ d ∈ w.toList, d ∈ Text.plainCapitals)
    (ht : t.isWordIn words = true) :
    Spells t.upper.toList t.value.toList ∧
      text.drop t.start = t.value.toList ++ text.drop t.stop ∧
      (text.drop t.stop).head?.any Text.isWord = false := by
  obtain ⟨hkind, hupper⟩ := isWordIn_iff.mp ht
  obtain ⟨hne, hplain⟩ := hwords _ hupper
  have hspells : Spells t.upper.toList t.value.toList := by
    refine spells_of_upper ?_ hplain ?_
    · rwa [Ne, String.toList_eq_nil_iff]
    · rw [Token.upper, String.toList_ofList]
  have hvalue := h.value hkind
  have hconsumes := Pattern.consumes_advance (s := Cursor.start text) h.stop_le
  refine ⟨hspells, ?_, ?_⟩
  · rw [drop_eq_slice_append h.start_lt.le, hvalue]
  · have hsealed := h.sealed hkind
    rw [Cursor.Sealed, hconsumes.2, Cursor.advance_rest] at hsealed
    apply hsealed
    have htake : text.take t.stop = text.take t.start ++ t.value.toList := by
      rw [← hvalue, slice]
      conv_lhs => rw [← List.take_append_drop t.start (text.take t.stop)]
      rw [List.take_take, Nat.min_eq_left h.start_lt.le]
    change ((text.take t.stop).getLast?.or none).any Text.isWord = true
    rw [htake, List.getLast?_append, Option.or_assoc]
    exact getLast_isWord hspells.ne_nil hspells.isWord _

/-- No word goes on where white space stands. -/
theorem head_of_blank {blank : List Char} (hne : blank ≠ [])
    (h : ∀ c ∈ blank, Text.isSpace c = true) (more : List Char) :
    (blank ++ more).head?.any Text.isWord = false := by
  obtain ⟨c, cs, rfl⟩ := List.exists_cons_of_ne_nil hne
  exact Text.isWord_of_isSpace (h c List.mem_cons_self)

/-- What leads to the table does not begin with a character of a word. -/
theorem LeadsToTable.head {cs : List Char} (h : LeadsToTable cs) :
    cs.head?.any Text.isWord = false := by
  obtain ⟨blank, row, rows, table, after, rfl, hne, hspace, -⟩ := h
  rw [List.append_assoc, List.append_assoc]
  exact head_of_blank hne hspace _

/-- The modifiers and the words around them are made of plain capitals. -/
theorem modifiers_plain :
    ∀ w ∈ tableModifiers, w ≠ "" ∧ ∀ d ∈ w.toList, d ∈ Text.plainCapitals := by decide

theorem create_plain : ∀ w ∈ ["CREATE"], w ≠ "" ∧ ∀ d ∈ w.toList, d ∈ Text.plainCapitals := by
  decide

theorem table_plain : ∀ w ∈ ["TABLE"], w ≠ "" ∧ ∀ d ∈ w.toList, d ∈ Text.plainCapitals := by
  decide

/-- Nothing but white space stands between two tokens of a text. -/
def OnlySpaceBetween (text : List Char) (t u : Token) : Prop :=
  ∀ c ∈ slice text t.stop u.start, Text.isSpace c = true

/-- What leads to `TABLE` begins with the gap in front of the next word. -/
theorem LeadsToTable.next {text : List Char} {t u : Token} (h : LeadsToTable (text.drop t.stop))
    (hu : StandsIn text t.stop u) (hword : (text.drop u.start).head?.any Text.isWord = true) :
    OnlySpaceBetween text t u ∧ ∃ row rows table after,
      text.drop u.start = row ++ table ++ after ∧ Pattern.WordRow row rows ∧
        Text.upper table = "TABLE".toList ∧ after.head?.any Text.isWord = false := by
  obtain ⟨blank, row, rows, table, after, hsplit, -, hspace, hrows, htable, hafter⟩ := h
  rw [drop_eq_slice_append hu.low_le, List.append_assoc, List.append_assoc] at hsplit
  have hhead : (row ++ (table ++ after)).head?.any Text.isWord = true := by
    cases rows with
    | nil =>
      obtain rfl : row = [] := hrows.1
      exact head_isWord (spells_table htable).ne_nil (spells_table htable).isWord after
    | cons first rows =>
      obtain ⟨hne, hfirst, -⟩ := hrows.2 first List.mem_cons_self
      rw [hrows.1, List.flatMap_cons, List.append_assoc, List.append_assoc]
      exact head_isWord hne hfirst _
  obtain ⟨hgap, hrest⟩ := hu.gap.eq_of_append hspace hword hhead hsplit
  refine ⟨?_, row, rows, table, after, ?_, hrows, htable, hafter⟩
  · rw [OnlySpaceBetween, hgap]
    exact hspace
  · rw [hrest, List.append_assoc]

/-- Between two neighbouring tokens with only white space the text leads to the table. -/
theorem leadsToTable_of_space {text : List Char} {t u : Token}
    (ht : (text.drop t.stop).head?.any Text.isWord = false) (hu : StandsIn text t.stop u)
    (hword : (text.drop u.start).head?.any Text.isWord = true) (hspace : OnlySpaceBetween text t u)
    {row table after : List Char} (rows : List (List Char × List Char))
    (hsplit : text.drop u.start = row ++ table ++ after) (hrows : Pattern.WordRow row rows)
    (htable : Text.upper table = "TABLE".toList) (hafter : after.head?.any Text.isWord = false) :
    LeadsToTable (text.drop t.stop) := by
  have hdrop := @drop_eq_slice_append text _ _ hu.low_le
  refine ⟨slice text t.stop u.start, row, rows, table, after, ?_, ?_, hspace, hrows, htable, hafter⟩
  · rw [hdrop, hsplit, List.append_assoc, List.append_assoc, List.append_assoc]
  · intro hempty
    rw [hdrop, hempty, List.nil_append, hword] at ht
    cases ht

/-- White space, words and `TABLE` follow a word exactly if there is nothing but white space
between it, the modifiers behind it and `TABLE`. -/
theorem leadsToTable_iff {text : List Char} {t table : Token} {modifiers : List Token}
    (ht : (text.drop t.stop).head?.any Text.isWord = false)
    (h : LaidOut text t.stop (modifiers ++ [table]))
    (hmodifiers : ∀ m ∈ modifiers, m.isWordIn tableModifiers = true)
    (htable : table.isWord "TABLE" = true) :
    LeadsToTable (text.drop t.stop) ↔
      List.IsChain (OnlySpaceBetween text) (t :: (modifiers ++ [table])) := by
  induction modifiers generalizing t with
  | nil =>
    obtain ⟨hstands, -⟩ := h
    obtain ⟨hspells, hdrop, hend⟩ := hstands.spells table_plain htable
    have hword := head_isWord hspells.ne_nil hspells.isWord (text.drop table.stop)
    rw [← hdrop] at hword
    simp only [List.nil_append, List.isChain_cons_cons, List.isChain_singleton, and_true]
    constructor
    · intro hleads
      exact (hleads.next hstands hword).1
    · intro hspace
      have hupper : table.upper = "TABLE" := List.mem_singleton.mp (isWordIn_iff.mp htable).2
      have hnone : text.drop table.start = [] ++ table.value.toList ++ text.drop table.stop := hdrop
      exact leadsToTable_of_space ht hstands hword hspace [] hnone ⟨rfl, by simp⟩
        (hupper ▸ hspells.upper_eq) hend
  | cons m ms ih =>
    obtain ⟨hstands, hms⟩ := h
    have hmodifier := hmodifiers m List.mem_cons_self
    obtain ⟨hspells, hdrop, hend⟩ := hstands.spells modifiers_plain hmodifier
    have hword := head_isWord hspells.ne_nil hspells.isWord (text.drop m.stop)
    rw [← hdrop] at hword
    rw [List.cons_append, List.isChain_cons_cons,
      ← ih hend hms fun u hu => hmodifiers u (List.mem_cons_of_mem m hu)]
    constructor
    · intro hleads
      obtain ⟨hspace, row, rows, table', after, hrow, ⟨hrows, hall⟩, htable', hafter⟩ :=
        hleads.next hstands hword
      refine ⟨hspace, ?_⟩
      rw [hdrop] at hrow
      cases rows with
      | nil =>
        obtain rfl : row = [] := hrows
        obtain ⟨heq, -⟩ := run_unique hspells.isWord (spells_table htable').isWord hend hafter hrow
        have hmem := (isWordIn_iff.mp hmodifier).2
        have hupper : m.upper = "TABLE" := by
          rw [Token.upper, heq, htable', String.ofList_toList]
        rw [hupper] at hmem
        exact absurd hmem (by decide)
      | cons first rows =>
        obtain ⟨-, hfirst, hne, hblank⟩ := hall first List.mem_cons_self
        rw [hrows, List.flatMap_cons, List.append_assoc, List.append_assoc,
          List.append_assoc] at hrow
        obtain ⟨-, hrest⟩ := run_unique hspells.isWord hfirst hend (head_of_blank hne hblank _) hrow
        refine ⟨first.2, _, rows, table', after, ?_, hne, hblank,
          ⟨rfl, fun row hrow => hall row (List.mem_cons_of_mem first hrow)⟩, htable', hafter⟩
        rw [hrest, List.append_assoc, List.append_assoc]
    · rintro ⟨hspace, blank, row, rows, table', after, hrest, hne, hblank, ⟨rfl, hall⟩, htable',
        hafter⟩
      refine leadsToTable_of_space ht hstands hword hspace ((m.value.toList, blank) :: rows) ?_
        ⟨rfl, ?_⟩ htable' hafter
      · rw [hdrop, hrest, List.flatMap_cons]
        simp only [List.append_assoc]
      · exact List.forall_mem_cons.mpr ⟨⟨hspells.ne_nil, hspells.isWord, hne, hblank⟩, hall⟩

/-! ## The opening of a text -/

/-- The opening of the declaration that is read from a text: no earlier part of the text declares a
table. -/
structure Opening (cs : List Char) where
  earlier : List (List Char)
  part : List Char
  later : List (List Char)
  parts_eq : (cut {} [] (lexemes cs)).map textOf = earlier ++ part :: later
  earlier_none : ∀ p ∈ earlier, tableOf? (Text.strip p) = none
  words : List Token
  words_eq : Header.opening? (tokenize (String.ofList (Text.strip part))) = some words

namespace Opening

variable {cs : List Char}

/-- The index of the statement in the text. -/
def offset (o : Opening cs) : Nat :=
  o.earlier.flatten.length + (o.part.takeWhile Text.isSpace).length

/-- The index of the first word in the text. -/
def place (o : Opening cs) : Nat :=
  o.offset + (o.words.head?.map Token.start).getD 0

/-- No word character stands in front of the words, and nothing but white space between them. -/
def IsPlain (o : Opening cs) : Prop :=
  (cs.take o.place).getLast?.any Text.isWord = false ∧
    o.words.IsChain (OnlySpaceBetween (cs.drop o.offset))

/-- The opening is plain, or the text announces a declaration elsewhere. -/
def IsSeen (o : Opening cs) : Prop :=
  o.IsPlain ∨ ∃ place, place ≠ o.place ∧ AnnouncedAt cs place

/-- The stripped part of an opening stands at its offset in the text. -/
theorem exists_drop_offset (o : Opening cs) :
    ∃ more, cs.drop o.offset = Text.strip o.part ++ more := by
  obtain ⟨trailing, htrailing⟩ := stripEnd_isPrefix (o.part.dropWhile Text.isSpace)
  have hpart : o.part = o.part.takeWhile Text.isSpace ++ (Text.strip o.part ++ trailing) := by
    conv_lhs => rw [← List.takeWhile_append_dropWhile (p := Text.isSpace) (l := o.part)]
    rw [Text.strip, htrailing]
  have hcs : cs = o.earlier.flatten ++ o.part.takeWhile Text.isSpace ++
      (Text.strip o.part ++ (trailing ++ o.later.flatten)) := by
    conv_lhs =>
      rw [← flatten_parts cs, o.parts_eq, List.flatten_append, List.flatten_cons, hpart]
    simp only [List.append_assoc]
  have hdrop := congrArg (List.drop o.offset) hcs
  refine ⟨trailing ++ o.later.flatten, ?_⟩
  rw [hdrop, offset, ← List.length_append, List.drop_left]

/-- A declaration is announced where its opening stands exactly if the opening is plain. -/
theorem announcedAt_place_iff (o : Opening cs) : AnnouncedAt cs o.place ↔ o.IsPlain := by
  obtain ⟨more, hmore⟩ := o.exists_drop_offset
  obtain ⟨before, create, modifiers, table, last, rest, htokens, hwords, hcreate, hmodifiers,
    htable⟩ := Header.opening?_eq_some o.words_eq
  have hlaid := laidOut_tokenize (String.ofList (Text.strip o.part))
  rw [htokens, String.toList_ofList] at hlaid
  have hfront : before ++ ((create :: (modifiers ++ [table])) ++ last :: rest) =
      (before ++ create :: (modifiers ++ [table])) ++ [last] ++ rest := by simp
  have hall := (hfront ▸ hlaid).left.extend more
  rw [← hmore] at hall
  obtain ⟨hstands, hrest⟩ := hall.right
  obtain ⟨hspells, hdrop, hend⟩ := hstands.spells create_plain hcreate
  have hplace : cs.drop o.place = create.value.toList ++ (cs.drop o.offset).drop create.stop := by
    rw [← hdrop, List.drop_drop, place, hwords]
    rfl
  have hupper : create.upper = "CREATE" := List.mem_singleton.mp (isWordIn_iff.mp hcreate).2
  rw [IsPlain, hwords, ← leadsToTable_iff hend hrest hmodifiers htable, AnnouncedAt, hplace]
  refine and_congr_right fun _ => ?_
  constructor
  · rintro ⟨word, after, hsplit, hword, hleads⟩
    obtain ⟨-, hafter⟩ :=
      run_unique hspells.isWord (spells_create hword).isWord hend hleads.head hsplit
    exact hafter ▸ hleads
  · intro hleads
    exact ⟨_, _, rfl, hupper ▸ hspells.upper_eq, hleads⟩

end Opening

/-! ## What a text is read to -/

/-- A statement holds a table iff its tokens hold a header. -/
theorem tableOf?_isSome (statement : List Char) :
    (tableOf? statement).isSome =
      (Header.opening? (tokenize (String.ofList statement))).isSome := by
  rw [tableOf?, Option.isSome_map, Header.isSome_opening?]

/-- A text has an opening exactly if a table is read from it. -/
theorem nonempty_opening_iff {text : String} :
    Nonempty (Opening text.toList) ↔ ∃ t, (read text).result = .ok t := by
  simp only [read_result_iff, findSome?_statements]
  constructor
  · rintro ⟨o⟩
    have hsome := tableOf?_isSome (Text.strip o.part)
    rw [o.words_eq] at hsome
    obtain ⟨⟨t, remarks⟩, htable⟩ := Option.isSome_iff_exists.mp hsome
    exact ⟨t, remarks, List.findSome?_eq_some_iff.mpr
      ⟨o.earlier, o.part, o.later, o.parts_eq, htable, o.earlier_none⟩⟩
  · rintro ⟨t, remarks, hfound⟩
    obtain ⟨earlier, part, later, hparts, htable, hearlier⟩ :=
      List.findSome?_eq_some_iff.mp hfound
    have hsome := tableOf?_isSome (Text.strip part)
    rw [htable] at hsome
    obtain ⟨words, hwords⟩ := Option.isSome_iff_exists.mp hsome.symm
    exact ⟨⟨earlier, part, later, hparts, hearlier, words, hwords⟩⟩

/-- A text that a table is read from looks as if it declared one exactly if its opening is plain or
a declaration is announced elsewhere. -/
theorem mayDeclare_iff_of_opening {text : String} (o : Opening text.toList) :
    mayDeclare text = true ↔ o.IsSeen := by
  rw [mayDeclare_iff, Opening.IsSeen, ← o.announcedAt_place_iff]
  constructor
  · rintro ⟨place, h⟩
    by_cases heq : place = o.place
    · exact .inl (heq ▸ h)
    · exact .inr ⟨place, heq, h⟩
  · rintro (h | ⟨place, -, h⟩)
    · exact ⟨_, h⟩
    · exact ⟨_, h⟩

end EntityMapper.Sql

import EntityMapper.Proofs.Schema.JavaTypes
import EntityMapper.Proofs.Sql.Alike
import EntityMapper.Proofs.Sql.Steady

/-!
# Edited texts

A text in which one part is exchanged for another. The two texts are read alike in front of the
part if the lexemes there do not hang on it, and behind it if they are read from the same place on.
Then both declare a table or neither does, and the tables are the same but for the declared types
that the part stands in.
-/

namespace EntityMapper.Sql

open Schema Text

/-! ## Text in front that yields no tokens -/

/-- Names are the same, and places lie a number of characters further on. -/
def Correspondence.further (d : Nat) : Correspondence where
  names := Eq
  places place place' := place' = place + d
  upper_eq := fun h => by rw [h]
  comparable_eq := fun h => by rw [h]
  eq_empty_iff := fun h => by rw [h]

/-- Tokens further on are read alike. -/
theorem allAlike_shift (d : Nat) (ts : List Token) :
    AllAlike (.further d) ts (ts.map (Token.shift d)) := by
  refine List.forall₂_map_right_iff.mpr (List.forall₂_same.mpr fun t _ => ?_)
  exact
    { kind_eq := rfl
      name := fun _ => rfl
      mark := fun _ _ _ => Iff.rfl
      start := rfl
      stop := rfl }

/-- Columns that are declared alike, one of them further on, are the same. -/
theorem ColumnsAlike.eq_of_further {pre cs : List Char} {c c' : Column}
    (h : ColumnsAlike (.further pre.length) cs (pre ++ cs) c c') : c = c' := by
  obtain ⟨start, stop, -, -, rfl, rfl, hsql, hsql'⟩ := h.typed.sqlType_eq
  have hname : c.name = c'.name := h.name
  have hslice : slice (pre ++ cs) (start + pre.length) (stop + pre.length) =
      slice cs start stop := by
    rw [Nat.add_comm start, Nat.add_comm stop, slice, List.take_length_add_append,
      List.drop_length_add_append, slice]
  have htype : c.sqlType = c'.sqlType := by rw [hsql, hsql', hslice]
  obtain ⟨hfield, hfield'⟩ := h.fieldName_eq
  obtain ⟨hjava, hjava'⟩ := h.typed.type_eq
  obtain ⟨hunknown, hunknown'⟩ := h.typed.typeUnknown_eq
  have hkey := h.primaryKey_eq
  have hauto := h.autoIncrement_eq
  have hnull := h.nullable_eq
  cases c
  cases c'
  simp only at hname hfield hfield' htype hjava hjava' hunknown hunknown' hkey hauto hnull
  subst hname htype hkey hauto hnull
  rw [hfield, hfield', hjava, hjava', hunknown, hunknown']

/-- Text in front of a statement that yields no tokens leaves the table that it declares. -/
theorem tableOf?_of_silent [DelimiterForm] {pre cs : List Char}
    (h : tokensAt 0 ⟨none, pre ++ cs⟩ = tokensAt pre.length ⟨none, cs⟩) :
    (tableOf? (pre ++ cs)).map (·.1) = (tableOf? cs).map (·.1) := by
  have halike : AllAlike (.further pre.length) (tokenize (String.ofList cs))
      (tokenize (String.ofList (pre ++ cs))) := by
    rw [tokenize_eq, tokenize_eq, Cursor.start, Cursor.start, h, ← Nat.zero_add pre.length,
      tokensAt_shift, Nat.zero_add]
    exact allAlike_shift pre.length _
  rcases rel_cases (AllAlike.tableOf? halike) with
    ⟨hnone, hnone'⟩ | ⟨found, found', hsome, hsome', htables⟩
  · rw [hnone, hnone']
  · rw [hsome, hsome', Option.map_some, Option.map_some]
    obtain ⟨⟨name, className, columns⟩, remarks⟩ := found
    obtain ⟨⟨name', className', columns'⟩, remarks'⟩ := found'
    obtain ⟨hname, ⟨hclass, hclass'⟩, hcolumns⟩ := htables
    obtain rfl : name = name' := hname
    obtain rfl : columns = columns' :=
      List.forall₂_eq_eq_eq ▸ hcolumns.imp fun _ _ hc => hc.eq_of_further
    have hclasses : className = className' := hclass.trans hclass'.symm
    rw [hclasses]

/-! ## Exchanging a part of a text -/

/-- A text with one part and another that stands in its place. -/
structure Edit where
  front : List Char
  old : List Char
  new : List Char
  back : List Char

namespace Edit

/-- The text before the exchange. -/
def text (e : Edit) : List Char :=
  e.front ++ (e.old ++ e.back)

/-- The text after the exchange. -/
def edited (e : Edit) : List Char :=
  e.front ++ (e.new ++ e.back)

/-- Places of the two texts that stand at the same distance from their beginnings, in front of the
part, or from their ends, behind it. -/
def Places (e : Edit) (place place' : Nat) : Prop :=
  (place ≤ e.front.length ∧ place' = place) ∨
    ∃ k, place = e.front.length + e.old.length + k ∧ place' = e.front.length + e.new.length + k

/-- Names are the same, and places are moved by the exchange. -/
def correspondence (e : Edit) : Correspondence where
  names := Eq
  places := e.Places
  upper_eq := fun h => by rw [h]
  comparable_eq := fun h => by rw [h]
  eq_empty_iff := fun h => by rw [h]

/-- Two texts are the same, or the same but for the exchanged part, which the first one holds. -/
def SameBut (e : Edit) (a b : String) : Prop :=
  a = b ∨ ∃ xs ys, xs <:+ e.front ∧ ys <+: e.back ∧
    a = String.ofList (xs ++ (e.old ++ ys)) ∧ b = String.ofList (xs ++ (e.new ++ ys))

variable {e : Edit}

/-- What stands between corresponding places is the same but for the part. -/
theorem sameBut_slice {start start' stop stop' : Nat} (hstart : e.Places start start')
    (hstop : e.Places stop stop') :
    e.SameBut (String.ofList (slice e.text start stop))
      (String.ofList (slice e.edited start' stop')) := by
  rcases hstart with ⟨hstart, rfl⟩ | ⟨k, rfl, rfl⟩
  · rcases hstop with ⟨hstop, rfl⟩ | ⟨m, rfl, rfl⟩
    · left
      rw [text, edited, slice_append_right hstop, slice_append_right hstop]
    · right
      refine ⟨e.front.drop start', e.back.take m, List.drop_suffix _ _, List.take_prefix _ _, ?_,
        ?_⟩
      · rw [slice, text, Nat.add_assoc, List.take_length_add_append, List.take_length_add_append,
          List.drop_append_of_le_length hstart]
      · rw [slice, edited, Nat.add_assoc, List.take_length_add_append, List.take_length_add_append,
          List.drop_append_of_le_length hstart]
  · left
    rcases hstop with ⟨hstop, rfl⟩ | ⟨m, rfl, rfl⟩
    · have hnone : ∀ (cs : List Char) (place : Nat), stop' ≤ place → slice cs place stop' = [] := by
        intro cs place hle
        rw [slice, List.drop_eq_nil_iff, List.length_take]
        omega
      rw [hnone _ _ (by omega), hnone _ _ (by omega)]
    · have hback : ∀ part : List Char, slice (e.front ++ (part ++ e.back))
          (e.front.length + part.length + k) (e.front.length + part.length + m) =
            slice e.back k m := by
        intro part
        rw [slice, ← List.append_assoc, ← List.length_append, List.take_length_add_append,
          List.drop_length_add_append, slice]
      rw [text, edited, hback, hback]

/-! ## Tokens of the two texts -/

/-- Tokens in front of the part are the same. -/
theorem allAlike_front {ts : List Token} (h : Spanned 0 e.front.length ts) :
    AllAlike e.correspondence ts ts := by
  refine List.forall₂_same.mpr fun t ht => ?_
  obtain ⟨-, hstart, hstop⟩ := h.mem ht
  exact
    { kind_eq := rfl
      name := fun _ => rfl
      mark := fun _ _ _ => Iff.rfl
      start := .inl ⟨by omega, rfl⟩
      stop := .inl ⟨hstop, rfl⟩ }

/-- Tokens behind the part are the same but for their places. -/
theorem allAlike_back [DelimiterForm] (before : Option Char) :
    AllAlike e.correspondence
      (tokensAt (e.front.length + e.old.length) ⟨before, e.back⟩)
      (tokensAt (e.front.length + e.new.length) ⟨before, e.back⟩) := by
  rw [← Nat.zero_add (e.front.length + e.old.length), tokensAt_shift,
    ← Nat.zero_add (e.front.length + e.new.length), tokensAt_shift]
  refine List.forall₂_map_left_iff.mpr (List.forall₂_map_right_iff.mpr
    (List.forall₂_same.mpr fun t _ => ?_))
  exact
    { kind_eq := rfl
      name := fun _ => rfl
      mark := fun _ _ _ => Iff.rfl
      start := .inr ⟨t.start, Nat.add_comm _ _, Nat.add_comm _ _⟩
      stop := .inr ⟨t.stop, Nat.add_comm _ _, Nat.add_comm _ _⟩ }

/-- The two texts are read alike if they share the tokens in front of the part, the tokens of the
part are read alike, and the tokens behind it are read from the same place. -/
theorem allAlike_tokenize [DelimiterForm]
    (hfront : SharesTokens none e.front (e.old ++ e.back) (e.new ++ e.back)) {ts ts' : List Token}
    (hpart : AllAlike e.correspondence ts ts') {before : Option Char}
    (hold : tokensAt e.front.length ⟨e.front.getLast?, e.old ++ e.back⟩ =
      ts ++ tokensAt (e.front.length + e.old.length) ⟨before, e.back⟩)
    (hnew : tokensAt e.front.length ⟨e.front.getLast?, e.new ++ e.back⟩ =
      ts' ++ tokensAt (e.front.length + e.new.length) ⟨before, e.back⟩) :
    AllAlike e.correspondence (tokenize (String.ofList e.text))
      (tokenize (String.ofList e.edited)) := by
  obtain ⟨us, hus, hsame⟩ := hfront 0
  rw [Nat.zero_add] at hus
  rw [List.forall_mem_cons, List.forall_mem_singleton, Nat.zero_add, Option.or_none] at hsame
  rw [tokenize_eq, tokenize_eq, Cursor.start, Cursor.start, text, edited, hsame.1, hsame.2, hold,
    hnew]
  exact List.rel_append (allAlike_front hus) (List.rel_append hpart (allAlike_back before))

/-! ## The tables of the two texts -/

/-- No keyword of declared types occurs in either part. -/
def IsSilent (e : Edit) : Prop :=
  JavaType.ofSql? (String.ofList e.old) = none ∧ JavaType.ofSql? (String.ofList e.new) = none

/-- No keyword of declared types occurs across an end of either part. -/
def IsEnclosed (e : Edit) : Prop :=
  ∀ keyword ∈ JavaType.keywords, ∀ part ∈ [e.old, e.new], ∀ xs ys, xs <:+ e.front → ys <+: e.back →
    occurs keyword.toList (upper (xs ++ (part ++ ys))) =
      (occurs keyword.toList (upper xs) || occurs keyword.toList (upper part) ||
        occurs keyword.toList (upper ys))

/-- Two columns are the same but for the declared type where it holds the part, and the Java type is
the same if no keyword hangs on the part. -/
structure ColumnsSameBut (e : Edit) (c c' : Column) : Prop where
  name_eq : c.name = c'.name
  fieldName_eq : c.fieldName = c'.fieldName
  sqlType : e.SameBut c.sqlType c'.sqlType
  type_eq : c.sqlType = c'.sqlType ∨ e.IsSilent →
    c.type = c'.type ∧ c.typeUnknown = c'.typeUnknown
  primaryKey_eq : c.primaryKey = c'.primaryKey
  autoIncrement_eq : c.autoIncrement = c'.autoIncrement
  nullable_eq : c.nullable = c'.nullable

/-- Two tables are the same but for the declared types that hold the part. -/
structure TablesSameBut (e : Edit) (t t' : Table) : Prop where
  name_eq : t.name = t'.name
  className_eq : t.className = t'.className
  columns : List.Forall₂ (ColumnsSameBut e) t.columns t'.columns

/-- A table is the same as itself. -/
theorem TablesSameBut.refl (t : Table) : e.TablesSameBut t t where
  name_eq := rfl
  className_eq := rfl
  columns := List.forall₂_same.mpr fun _ _ =>
    { name_eq := rfl
      fieldName_eq := rfl
      sqlType := .inl rfl
      type_eq := fun _ => ⟨rfl, rfl⟩
      primaryKey_eq := rfl
      autoIncrement_eq := rfl
      nullable_eq := rfl }

/-- The same rule applies to declared types that are the same but for parts without a keyword. -/
theorem ofSql?_eq_of_sameBut (henclosed : e.IsEnclosed) (hsilent : e.IsSilent) {a b : String}
    (h : e.SameBut a b) : JavaType.ofSql? a = JavaType.ofSql? b := by
  rcases h with rfl | ⟨xs, ys, hxs, hys, rfl, rfl⟩
  · rfl
  · refine JavaType.ofSql?_congr fun keyword hkeyword => ?_
    have hold := JavaType.ofSql?_eq_none_iff.mp hsilent.1 keyword hkeyword
    have hnew := JavaType.ofSql?_eq_none_iff.mp hsilent.2 keyword hkeyword
    rw [String.toList_ofList] at hold hnew
    rw [String.toList_ofList, String.toList_ofList,
      henclosed keyword hkeyword _ (by simp) xs ys hxs hys,
      henclosed keyword hkeyword _ (by simp) xs ys hxs hys, hold, hnew]

/-- Columns that are alike under an enclosed edit are the same but for the text. -/
theorem columnsSameBut_of_columnsAlike (henclosed : e.IsEnclosed) {c c' : Column}
    (h : ColumnsAlike e.correspondence e.text e.edited c c') : e.ColumnsSameBut c c' := by
  obtain ⟨start, stop, start', stop', hstart, hstop, hsql, hsql'⟩ := h.typed.sqlType_eq
  have hname : c.name = c'.name := h.name
  have hsame : e.SameBut c.sqlType c'.sqlType := by
    rw [hsql, hsql']
    exact sameBut_slice hstart hstop
  have htype (hsilent : c.sqlType = c'.sqlType ∨ e.IsSilent) :
      JavaType.ofSql? c.sqlType = JavaType.ofSql? c'.sqlType := by
    rcases hsilent with heq | hsilent
    · rw [heq]
    · exact ofSql?_eq_of_sameBut henclosed hsilent hsame
  exact
    { name_eq := hname
      fieldName_eq := by rw [h.fieldName_eq.1, h.fieldName_eq.2, hname]
      sqlType := hsame
      type_eq := fun hsilent => by
        rw [h.typed.type_eq.1, h.typed.type_eq.2, h.typed.typeUnknown_eq.1,
          h.typed.typeUnknown_eq.2, JavaType.ofSql, JavaType.ofSql, htype hsilent]
        exact ⟨rfl, rfl⟩
      primaryKey_eq := h.primaryKey_eq
      autoIncrement_eq := h.autoIncrement_eq
      nullable_eq := h.nullable_eq }

/-- Texts that are read alike both declare a table or neither does, and the tables are the same but
for the part. -/
theorem tableOf?_of_allAlike [DelimiterForm] (henclosed : e.IsEnclosed)
    (h : AllAlike e.correspondence (tokenize (String.ofList e.text))
      (tokenize (String.ofList e.edited))) :
    Option.Rel (fun found found' => e.TablesSameBut found.1 found'.1) (tableOf? e.text)
      (tableOf? e.edited) := by
  rcases rel_cases (AllAlike.tableOf? h) with ⟨hnone, hnone'⟩ | ⟨found, found', hsome, hsome', ht⟩
  · rw [hnone, hnone']
    exact .none
  · rw [hsome, hsome']
    have hname : found.1.name = found'.1.name := ht.name
    exact .some
      { name_eq := hname
        className_eq := by rw [ht.className_eq.1, ht.className_eq.2, hname]
        columns := ht.columns.imp fun _ _ hc => columnsSameBut_of_columnsAlike henclosed hc }

section

variable {front front' old new back back' : List Char}

/-- What is the same but for a part in the middle of two texts is so in longer texts around it. -/
theorem SameBut.mono (hfront : front <:+ front') (hback : back <+: back') {a b : String}
    (h : SameBut ⟨front, old, new, back⟩ a b) : SameBut ⟨front', old, new, back'⟩ a b := by
  rcases h with rfl | ⟨xs, ys, hxs, hys, ha, hb⟩
  · exact .inl rfl
  · exact .inr ⟨xs, ys, hxs.trans hfront, hys.trans hback, ha, hb⟩

/-- Tables that are the same but for a part in the middle of two texts are so in longer texts. -/
theorem TablesSameBut.mono (hfront : front <:+ front') (hback : back <+: back') {t t' : Table}
    (h : TablesSameBut ⟨front, old, new, back⟩ t t') :
    TablesSameBut ⟨front', old, new, back'⟩ t t' where
  name_eq := h.name_eq
  className_eq := h.className_eq
  columns := h.columns.imp fun _ _ hc =>
    { hc with
      sqlType := hc.sqlType.mono hfront hback
      type_eq := hc.type_eq }

end

end Edit

end EntityMapper.Sql

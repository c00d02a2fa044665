import EntityMapper.Proofs.Sql.Tables
import Mathlib.Data.Option.Basic

/-!
# Texts that are read alike

Two rows of tokens are read alike if they agree in what the reader of declarations looks at: the
kinds, the names as far as they are compared, and the punctuation.  The values of string literals
and numbers do not matter.  Then both hold a header or neither does, they are cut into items at the
same tokens, and the tables have the same columns, but for what the names and the places of the two
texts may differ in.
-/

namespace EntityMapper.Sql

open Schema

/-- Which names and which places of two texts correspond.  Names that do are compared alike. -/
structure Correspondence where
  names : String → String → Prop
  places : Nat → Nat → Prop
  upper_eq : ∀ {a b : String}, names a b → Text.upper a.toList = Text.upper b.toList
  comparable_eq : ∀ {a b : String}, names a b → comparable a = comparable b
  eq_empty_iff : ∀ {a b : String}, names a b → (a = "" ↔ b = "")

variable {r : Correspondence}

/-- Two optional values that are related are both missing or both there. -/
theorem rel_cases {α β : Type} {R : α → β → Prop} {a : Option α} {b : Option β}
    (h : Option.Rel R a b) :
    (a = none ∧ b = none) ∨ ∃ x y, a = some x ∧ b = some y ∧ R x y := by
  cases h with
  | none => exact .inl ⟨rfl, rfl⟩
  | some hxy => exact .inr ⟨_, _, rfl, rfl, hxy⟩

/-! ## Tokens -/

/-- The punctuation that the reader of declarations looks for. -/
def readMarks : List String :=
  ["(", ")", ",", "."]

/-- Two tokens are read alike at places that correspond. -/
structure Token.Alike (r : Correspondence) (t t' : Token) : Prop where
  kind_eq : t.kind = t'.kind
  name : t.isIdentifier = true → r.names t.value t'.value
  mark : t.kind = .punctuation → ∀ mark ∈ readMarks, t.value = mark ↔ t'.value = mark
  start : r.places t.start t'.start
  stop : r.places t.stop t'.stop

namespace Token.Alike

variable {t t' : Token}

/-- Tokens that are read alike are both names or neither is. -/
theorem isIdentifier_eq (h : t.Alike r t') : t.isIdentifier = t'.isIdentifier := by
  rw [isIdentifier, isIdentifier, h.kind_eq]

/-- Names that are read alike are the same in upper case. -/
theorem upper_eq (h : t.Alike r t') (ht : t.isIdentifier = true) : t.upper = t'.upper := by
  rw [upper, upper, r.upper_eq (h.name ht)]

/-- Tokens that are read alike are the same of the words that are looked for. -/
theorem isWordIn_eq (h : t.Alike r t') (words : List String) :
    t.isWordIn words = t'.isWordIn words := by
  rw [isWordIn, isWordIn, ← h.kind_eq]
  cases hkind : t.kind == .word with
  | false => rfl
  | true => rw [h.upper_eq (by simp [isIdentifier, hkind])]

theorem isWord_eq (h : t.Alike r t') (word : String) : t.isWord word = t'.isWord word :=
  h.isWordIn_eq [word]

/-- Tokens that are read alike are the same of the marks that are looked for. -/
theorem isPunctuation_eq (h : t.Alike r t') {mark : String} (hmark : mark ∈ readMarks) :
    t.isPunctuation mark = t'.isPunctuation mark := by
  rw [isPunctuation, isPunctuation, ← h.kind_eq]
  cases hkind : t.kind == .punctuation with
  | false => rfl
  | true =>
    rw [Bool.true_and, Bool.true_and, Bool.eq_iff_iff, beq_iff_eq, beq_iff_eq]
    exact h.mark (beq_iff_eq.mp hkind) mark hmark

theorem isOpening_eq (h : t.Alike r t') : t.isPunctuation "(" = t'.isPunctuation "(" :=
  h.isPunctuation_eq (by decide)

theorem isClosing_eq (h : t.Alike r t') : t.isPunctuation ")" = t'.isPunctuation ")" :=
  h.isPunctuation_eq (by decide)

theorem isComma_eq (h : t.Alike r t') : t.isPunctuation "," = t'.isPunctuation "," :=
  h.isPunctuation_eq (by decide)

theorem isDot_eq (h : t.Alike r t') : t.isPunctuation "." = t'.isPunctuation "." :=
  h.isPunctuation_eq (by decide)

/-- Items that are read alike both begin a clause or neither does. -/
theorem beginsClause_eq (h : t.Alike r t') (ht : t.isIdentifier = true) :
    beginsClause t = beginsClause t' := by
  rw [beginsClause, beginsClause, h.upper_eq ht, h.isWordIn_eq]

end Token.Alike

/-! ## Rows of tokens -/

/-- Two rows of tokens are read alike, token by token. -/
abbrev AllAlike (r : Correspondence) (ts ts' : List Token) : Prop :=
  List.Forall₂ (Token.Alike r) ts ts'

namespace AllAlike

variable {ts ts' : List Token}

/-- Rows that are read alike begin with the same words. -/
theorem beginsWith_eq (h : AllAlike r ts ts') (words : List String) :
    beginsWith words ts = beginsWith words ts' := by
  induction h generalizing words with
  | nil => cases words <;> rfl
  | cons ht _ ih =>
    cases words with
    | nil => rfl
    | cons word words => rw [beginsWith, beginsWith, ht.isWord_eq, ih]

/-- Rows that are read alike hold the same words together. -/
theorem hasSequence_eq (h : AllAlike r ts ts') (words : List String) :
    hasSequence words ts = hasSequence words ts' := by
  induction h with
  | nil => rfl
  | cons ht hts ih =>
    rw [hasSequence, hasSequence, beginsWith_eq (.cons ht hts), ih]

/-- What stands behind given words is read alike. -/
theorem dropWhile_isWordIn (h : AllAlike r ts ts') (words : List String) :
    AllAlike r (ts.dropWhile (·.isWordIn words)) (ts'.dropWhile (·.isWordIn words)) := by
  induction h with
  | nil => exact .nil
  | cons ht hts ih =>
    rw [List.dropWhile_cons, List.dropWhile_cons, ht.isWordIn_eq]
    split
    · exact ih
    · exact .cons ht hts

/-- What stands outside parentheses is read alike. -/
theorem topLevelFrom (h : AllAlike r ts ts') (depth : Nat) :
    AllAlike r (Sql.topLevelFrom depth ts) (Sql.topLevelFrom depth ts') := by
  induction h generalizing depth with
  | nil => exact .nil
  | cons ht _ ih =>
    rw [Sql.topLevelFrom, Sql.topLevelFrom, ht.isOpening_eq, ht.isClosing_eq]
    split
    · exact ih _
    · split
      · exact ih _
      · split
        · exact .cons ht (ih _)
        · exact ih _

/-- Rows that are read alike hold the same of the words that are looked for. -/
theorem any_isWordIn_eq (h : AllAlike r ts ts') (words : List String) :
    ts.any (·.isWordIn words) = ts'.any (·.isWordIn words) := by
  induction h with
  | nil => rfl
  | cons ht _ ih => rw [List.any_cons, List.any_cons, ht.isWordIn_eq, ih]

end AllAlike

/-! ## Headers -/

/-- Two headers of corresponding names, before tokens that are read alike. -/
structure Header.Alike (r : Correspondence) (h h' : Header) : Prop where
  name : r.names h.name h'.name
  rest : AllAlike r h.rest h'.rest

namespace AllAlike

variable {ts ts' : List Token}

/-- Names with further parts are read alike. -/
theorem qualified {name name' : String} (hname : r.names name name') (h : AllAlike r ts ts') :
    (Header.qualified name ts).Alike r (Header.qualified name' ts') := by
  induction hn : ts.length using Nat.strongRecOn generalizing name name' ts ts' with
  | ind n ih =>
    cases h with
    | nil => exact ⟨hname, .nil⟩
    | cons hdot h =>
      cases h with
      | nil => exact ⟨hname, .cons hdot .nil⟩
      | @cons part part' ts ts' hpart h =>
        rw [Header.qualified, Header.qualified, hdot.isDot_eq, hpart.isIdentifier_eq]
        split
        · rename_i hqualified
          have hidentifier : part.isIdentifier = true := by
            rw [hpart.isIdentifier_eq]
            exact (Bool.and_eq_true_iff.mp hqualified).2
          exact ih _ (by rw [← hn, List.length_cons, List.length_cons]; omega)
            (hpart.name hidentifier) h rfl
        · exact ⟨hname, .cons hdot (.cons hpart h)⟩

/-- The names of headers are read alike. -/
theorem named? (h : AllAlike r ts ts') :
    Option.Rel (Header.Alike r) (Header.named? ts) (Header.named? ts') := by
  cases h with
  | nil => exact .none
  | @cons t t' ts ts' ht h =>
    rw [Header.named?, Header.named?, ← ht.isIdentifier_eq]
    by_cases hidentifier : t.isIdentifier = true
    · have hempty : (t.value != "") = (t'.value != "") := by
        rw [Bool.eq_iff_iff, bne_iff_ne, bne_iff_ne]
        exact not_congr (r.eq_empty_iff (ht.name hidentifier))
      rw [hidentifier, hempty]
      split
      · have hheader := qualified (ht.name hidentifier) h
        dsimp only
        rw [if_congr (r.eq_empty_iff hheader.name) rfl rfl]
        split
        · exact .none
        · exact .some hheader
      · exact .none
    · rw [Bool.not_eq_true] at hidentifier
      rw [hidentifier]
      exact .none

/-- Headers behind their first word are read alike. -/
theorem afterCreate? (h : AllAlike r ts ts') :
    Option.Rel (Header.Alike r) (Header.afterCreate? ts) (Header.afterCreate? ts') := by
  have hrest := h.dropWhile_isWordIn tableModifiers
  rw [Header.afterCreate?, Header.afterCreate?]
  revert hrest
  generalize ts.dropWhile (·.isWordIn tableModifiers) = us
  generalize ts'.dropWhile (·.isWordIn tableModifiers) = us'
  intro hrest
  cases hrest with
  | nil => exact .none
  | cons ht hts =>
    dsimp only
    rw [ht.isWord_eq]
    split
    · rw [beginsWith_eq hts]
      split
      · exact named? (List.forall₂_drop 3 hts)
      · exact named? hts
    · exact .none

/-- Where one row of tokens holds a header, so does a row that is read alike, at the same token. -/
theorem find? (h : AllAlike r ts ts') :
    Option.Rel (Header.Alike r) (Header.find? ts) (Header.find? ts') := by
  induction h with
  | nil => exact .none
  | @cons t t' ts ts' ht hts ih =>
    have hhere : Option.Rel (Header.Alike r)
        (if t.isWord "CREATE" then Header.afterCreate? ts else none)
        (if t'.isWord "CREATE" then Header.afterCreate? ts' else none) := by
      rw [ht.isWord_eq]
      split
      · exact afterCreate? hts
      · exact .none
    rw [Header.find?, Header.find?]
    rcases rel_cases hhere with ⟨hfirst, hsecond⟩ | ⟨header, header', hfirst, hsecond, hheader⟩
    · rw [hfirst, hsecond]
      exact ih
    · rw [hfirst, hsecond]
      exact .some hheader

end AllAlike

/-! ## Items -/

namespace AllAlike

variable {ts ts' : List Token}

/-- Items are cut at the same tokens, and each is read alike. -/
theorem itemsFrom {item item' : List Token} (hitem : AllAlike r item item')
    (h : AllAlike r ts ts') (depth : Nat) :
    List.Forall₂ (AllAlike r) (Sql.itemsFrom depth item ts) (Sql.itemsFrom depth item' ts') := by
  induction h generalizing depth item item' with
  | nil => exact .cons (List.rel_reverse hitem) .nil
  | cons ht _ ih =>
    rw [Sql.itemsFrom.eq_def depth, Sql.itemsFrom.eq_def depth]
    dsimp only
    rw [ht.isOpening_eq, ht.isClosing_eq, ht.isComma_eq]
    split
    · exact ih (.cons ht hitem) _
    · split
      · cases depth with
        | zero => exact .cons (List.rel_reverse hitem) .nil
        | succ depth => exact ih (.cons ht hitem) depth
      · split
        · exact .cons (List.rel_reverse hitem) (ih .nil _)
        · exact ih (.cons ht hitem) _

/-- Column sections that are read alike have items that are. -/
theorem items (h : AllAlike r ts ts') :
    List.Forall₂ (AllAlike r) (Sql.items ts) (Sql.items ts') := by
  refine List.rel_filter (fun item item' hitem => ?_) (itemsFrom .nil h 0)
  cases hitem with
  | nil => simp
  | cons _ _ => simp

/-- Lists of one name are read alike. -/
theorem soleColumn? (h : AllAlike r ts ts') :
    Option.Rel (fun a b => r.names a b) (Sql.soleColumn? ts) (Sql.soleColumn? ts') := by
  rcases h with _ | ⟨hopening, _ | ⟨hcolumn, _ | ⟨hclosing, _⟩⟩⟩
  · exact .none
  · exact .none
  · exact .none
  · rw [Sql.soleColumn?, Sql.soleColumn?, ← hopening.isOpening_eq, ← hcolumn.isIdentifier_eq,
      ← hclosing.isClosing_eq]
    split
    · rename_i hsole
      simp only [Bool.and_eq_true] at hsole
      exact .some (hcolumn.name hsole.1.2)
    · exact .none

/-- Clauses name keys that correspond. -/
theorem keyColumn? (h : AllAlike r ts ts') :
    Option.Rel (fun a b => r.names a b) (Sql.keyColumn? ts) (Sql.keyColumn? ts') := by
  induction h with
  | nil => exact .none
  | cons ht hts ih =>
    rw [Sql.keyColumn?, Sql.keyColumn?, beginsWith_eq (.cons ht hts)]
    split
    · exact soleColumn? (List.forall₂_drop 1 hts)
    · exact ih

/-! ## Declared types -/

/-- Parentheses are closed at places that correspond. -/
theorem closeGroup (h : AllAlike r ts ts') (depth : Nat) :
    Option.Rel (fun a b => r.places a.1 b.1 ∧ AllAlike r a.2 b.2) (Sql.closeGroup depth ts)
      (Sql.closeGroup depth ts') := by
  induction h generalizing depth with
  | nil => exact .none
  | cons ht hts ih =>
    rw [Sql.closeGroup, Sql.closeGroup, ht.isOpening_eq, ht.isClosing_eq]
    split
    · exact ih _
    · split
      · split
        · exact .some ⟨ht.stop, hts⟩
        · exact ih _
      · exact ih _

/-- The last of tokens that are read alike are read alike. -/
theorem getLast? (h : AllAlike r ts ts') :
    Option.Rel (Token.Alike r) ts.getLast? ts'.getLast? := by
  have hreverse := List.rel_reverse h
  rw [← List.head?_reverse, ← List.head?_reverse]
  revert hreverse
  generalize ts.reverse = us
  generalize ts'.reverse = us'
  intro hreverse
  cases hreverse with
  | nil => exact .none
  | cons ht _ => exact .some ht

/-- Declared types end at places that correspond. -/
theorem typeExtent (h : AllAlike r ts ts') {type type' : Token} (htype : type.Alike r type') :
    r.places (Sql.typeExtent type ts).1 (Sql.typeExtent type' ts').1 ∧
      AllAlike r (Sql.typeExtent type ts).2 (Sql.typeExtent type' ts').2 := by
  cases h with
  | nil => exact ⟨htype.stop, .nil⟩
  | @cons t t' ts ts' ht hts =>
    rw [Sql.typeExtent, Sql.typeExtent, ht.isOpening_eq]
    split
    · rcases rel_cases (closeGroup hts 1) with
        ⟨hfirst, hsecond⟩ | ⟨extent, extent', hfirst, hsecond, hextent⟩
      · rw [hfirst, hsecond]
        refine ⟨?_, .nil⟩
        rcases rel_cases (getLast? (.cons ht hts)) with
          ⟨hfirst, hsecond⟩ | ⟨last, last', hfirst, hsecond, hlast⟩
        · rw [hfirst, hsecond]
          exact ht.stop
        · rw [hfirst, hsecond]
          exact hlast.stop
      · rw [hfirst, hsecond]
        exact hextent
    · exact ⟨htype.stop, .cons ht hts⟩

end AllAlike

/-! ## Columns -/

/-- Two column definitions that are read alike. -/
structure Definition.Alike (r : Correspondence) (d d' : Definition) : Prop where
  name : r.names d.name.value d'.name.value
  type : d.type.Alike r d'.type
  type_kind : d.type.kind = .word
  typeStop : r.places d.typeStop d'.typeStop
  rest : AllAlike r d.rest d'.rest

namespace Definition.Alike

variable {d d' : Definition}

/-- Definitions that are read alike both make a key or neither does. -/
theorem isKey_eq (h : d.Alike r d') : d.isKey = d'.isKey :=
  (h.rest.topLevelFrom 0).hasSequence_eq _

/-- Definitions that are read alike both exclude nulls or neither does. -/
theorem isNotNull_eq (h : d.Alike r d') : d.isNotNull = d'.isNotNull :=
  (h.rest.topLevelFrom 0).hasSequence_eq _

/-- Definitions that are read alike both number their rows or neither does. -/
theorem isAutoIncrement_eq (h : d.Alike r d') : d.isAutoIncrement = d'.isAutoIncrement := by
  have hidentifier : d.type.isIdentifier = true := by
    rw [Token.isIdentifier, h.type_kind]
    rfl
  have hmarked := (h.rest.topLevelFrom 0).any_isWordIn_eq autoIncrementWords
  rw [isAutoIncrement, isAutoIncrement, h.type.upper_eq hidentifier, topLevel, topLevel, hmarked]

end Definition.Alike

/-- An item that begins with a name is a definition alike. -/
theorem AllAlike.definition? {name name' : Token} {ts ts' : List Token}
    (hname : name.Alike r name') (hidentifier : name.isIdentifier = true)
    (h : AllAlike r ts ts') :
    Option.Rel (Definition.Alike r) (Definition.ofItem? (name :: ts))
      (Definition.ofItem? (name' :: ts')) := by
  have hnames := hname.name hidentifier
  have hempty : (name.value != "") = (name'.value != "") := by
    rw [Bool.eq_iff_iff, bne_iff_ne, bne_iff_ne]
    exact not_congr (r.eq_empty_iff hnames)
  cases h with
  | nil => exact .none
  | @cons type type' ts ts' htype h =>
    rw [Definition.ofItem?, Definition.ofItem?, ← hempty, ← htype.kind_eq]
    split
    · rename_i hdefines
      obtain ⟨hstop, hrest⟩ := AllAlike.typeExtent h htype
      exact .some ⟨hnames, htype, beq_iff_eq.mp (Bool.and_eq_true_iff.mp hdefines).2, hstop, hrest⟩
    · exact .none

/-- The declared types of two columns are read off corresponding places of two texts. -/
structure TypedAlike (r : Correspondence) (text text' : List Char) (c c' : Column) : Prop where
  sqlType_eq : ∃ start stop start' stop', r.places start start' ∧ r.places stop stop' ∧
    c.sqlType = String.ofList (slice text start stop) ∧
    c'.sqlType = String.ofList (slice text' start' stop')
  type_eq : c.type = JavaType.ofSql c.sqlType ∧ c'.type = JavaType.ofSql c'.sqlType
  typeUnknown_eq : c.typeUnknown = (JavaType.ofSql? c.sqlType).isNone ∧
    c'.typeUnknown = (JavaType.ofSql? c'.sqlType).isNone

/-- Two columns are the same but for their names, which correspond, and for their types, which are
declared at corresponding places. -/
structure ColumnsAlike (r : Correspondence) (text text' : List Char) (c c' : Column) : Prop where
  name : r.names c.name c'.name
  fieldName_eq : c.fieldName = Naming.fieldName c.name ∧ c'.fieldName = Naming.fieldName c'.name
  typed : TypedAlike r text text' c c'
  primaryKey_eq : c.primaryKey = c'.primaryKey
  autoIncrement_eq : c.autoIncrement = c'.autoIncrement
  nullable_eq : c.nullable = c'.nullable

variable {text text' : List Char}

section

variable (text : List Char) (d : Definition)

theorem Definition.type_column :
    (d.column text).type = JavaType.ofSql (d.column text).sqlType := by
  simp only [Definition.column]

theorem Definition.typeUnknown_column :
    (d.column text).typeUnknown = (JavaType.ofSql? (d.column text).sqlType).isNone := by
  simp only [Definition.column]

theorem Definition.primaryKey_column : (d.column text).primaryKey = d.isKey := by
  simp only [Definition.column]

theorem Definition.autoIncrement_column : (d.column text).autoIncrement = d.isAutoIncrement := by
  simp only [Definition.column]

theorem Definition.nullable_column :
    (d.column text).nullable = (!d.isNotNull && !d.isKey) := by
  simp only [Definition.column]

end

/-- Definitions that are read alike describe columns that are alike. -/
theorem Definition.Alike.column {d d' : Definition} (h : d.Alike r d') :
    ColumnsAlike r text text' (d.column text) (d'.column text') where
  name := h.name
  fieldName_eq := ⟨rfl, rfl⟩
  typed :=
    { sqlType_eq := ⟨_, _, _, _, h.type.start, h.typeStop, rfl, rfl⟩
      type_eq := ⟨d.type_column text, d'.type_column text'⟩
      typeUnknown_eq := ⟨d.typeUnknown_column text, d'.typeUnknown_column text'⟩ }
  primaryKey_eq := by
    rw [Definition.primaryKey_column, Definition.primaryKey_column, h.isKey_eq]
  autoIncrement_eq := by
    rw [Definition.autoIncrement_column, Definition.autoIncrement_column, h.isAutoIncrement_eq]
  nullable_eq := by
    rw [Definition.nullable_column, Definition.nullable_column, h.isNotNull_eq, h.isKey_eq]

/-- Columns that are alike are alike after the same keys have been marked. -/
theorem ColumnsAlike.markKey {c c' : Column} (h : ColumnsAlike r text text' c c')
    (keys : List String) :
    ColumnsAlike r text text' (markKey keys c) (markKey keys c') := by
  rw [Sql.markKey, Sql.markKey, r.comparable_eq h.name]
  split
  · exact { h with
      typed := ⟨h.typed.sqlType_eq, h.typed.type_eq, h.typed.typeUnknown_eq⟩
      primaryKey_eq := rfl
      nullable_eq := rfl }
  · exact h

/-! ## Readings of items -/

/-- Two items are read alike. -/
inductive ReadingsAlike (r : Correspondence) (text text' : List Char) :
    ItemReading → ItemReading → Prop where
  | notAName (first first' : Token) :
    ReadingsAlike r text text' (.notAName first) (.notAName first')
  | clause (first first' : Token) {key key' : Option String}
      (keys : Option.Rel (fun a b => r.names a b) key key') :
      ReadingsAlike r text text' (.clause first key) (.clause first' key')
  | noType (first first' : Token) : ReadingsAlike r text text' (.noType first) (.noType first')
  | column {c c' : Column} (columns : ColumnsAlike r text text' c c') :
      ReadingsAlike r text text' (.column c) (.column c')

/-- Items that are read alike have readings that are alike. -/
theorem AllAlike.ofItem? {item item' : List Token} (h : AllAlike r item item') :
    Option.Rel (ReadingsAlike r text text') (ItemReading.ofItem? text item)
      (ItemReading.ofItem? text' item') := by
  cases h with
  | nil => exact .none
  | @cons first first' ts ts' hfirst h =>
    rw [ItemReading.ofItem?, ItemReading.ofItem?, ← hfirst.isIdentifier_eq]
    by_cases hidentifier : first.isIdentifier = true
    · rw [hidentifier, ← hfirst.beginsClause_eq hidentifier]
      simp only [Bool.not_true, Bool.false_eq_true, if_false]
      split
      · exact .some (.clause first first' (keyColumn? (.cons hfirst h)))
      · rcases rel_cases (definition? hfirst hidentifier h) with
          ⟨hnone, hnone'⟩ | ⟨d, d', hsome, hsome', hd⟩
        · rw [hnone, hnone']
          exact .some (.noType first first')
        · rw [hsome, hsome']
          exact .some (.column hd.column)
    · rw [Bool.not_eq_true] at hidentifier
      rw [hidentifier]
      exact .some (.notAName first first')

variable {rs rs' : List ItemReading}

/-- The columns that are kept of items that are read alike are alike. -/
theorem kept_alike (h : List.Forall₂ (ReadingsAlike r text text') rs rs') (table table' : String)
    (taken : List String) :
    List.Forall₂ (ColumnsAlike r text text')
      ((outcomes table taken rs).filterMap ItemOutcome.column?)
      ((outcomes table' taken rs').filterMap ItemOutcome.column?) := by
  induction h generalizing taken with
  | nil => exact .nil
  | cons hreading _ ih =>
    cases hreading with
    | notAName first first' => exact ih taken
    | clause first first' _ => exact ih taken
    | noType first first' => exact ih taken
    | column hc =>
      rw [outcomes, outcomes, r.comparable_eq hc.name]
      split
      · exact ih taken
      · exact .cons hc (ih _)

/-- The keys that clauses name are the same. -/
theorem clauseKeys_eq (h : List.Forall₂ (ReadingsAlike r text text') rs rs') :
    clauseKeys rs = clauseKeys rs' := by
  induction h with
  | nil => rfl
  | cons hreading _ ih =>
    rw [clauseKeys, clauseKeys] at ih ⊢
    cases hreading with
    | notAName first first' => exact ih
    | noType first first' => exact ih
    | column hc => exact ih
    | clause first first' hkeys =>
      cases hkeys with
      | none => exact ih
      | @some key key' hkey =>
        simp only [List.filterMap_cons, if_congr (r.eq_empty_iff hkey) rfl rfl,
          r.comparable_eq hkey]
        split
        · exact ih
        · rw [ih]

/-! ## Tables -/

/-- Two tables of corresponding names whose columns are alike. -/
structure TablesAlike (r : Correspondence) (text text' : List Char) (t t' : Table) : Prop where
  name : r.names t.name t'.name
  className_eq : t.className = Naming.className t.name ∧ t'.className = Naming.className t'.name
  columns : List.Forall₂ (ColumnsAlike r text text') t.columns t'.columns

/-- Headers that are alike introduce tables that are alike. -/
theorem Header.Alike.table {h h' : Header} (hheader : h.Alike r h') (text text' : List Char) :
    TablesAlike r text text' (h.table text).1 (h'.table text').1 := by
  have hrest := hheader.rest
  rw [Header.table, Header.table]
  revert hrest
  generalize h.rest = ts
  generalize h'.rest = ts'
  intro hrest
  cases hrest with
  | nil => exact ⟨hheader.name, ⟨rfl, rfl⟩, .nil⟩
  | @cons t t' ts ts' ht hts =>
    dsimp only
    rw [ht.isOpening_eq]
    split
    · have hreadings : List.Forall₂ (ReadingsAlike r text text')
          ((Sql.items ts).filterMap (ItemReading.ofItem? text))
          ((Sql.items ts').filterMap (ItemReading.ofItem? text')) :=
        List.rel_filterMap (fun _ _ hitem => AllAlike.ofItem? hitem) (AllAlike.items hts)
      refine ⟨hheader.name, ⟨rfl, rfl⟩, ?_⟩
      rw [columns_assemble, columns_assemble, clauseKeys_eq hreadings]
      exact List.rel_map (fun _ _ hc => hc.markKey _) (kept_alike hreadings _ _ [])
    · exact ⟨hheader.name, ⟨rfl, rfl⟩, .nil⟩

/-- Statements whose tokens are read alike both declare a table or neither does, and the tables are
alike. -/
theorem AllAlike.tableOf? [DelimiterForm] {statement statement' : List Char}
    (h : AllAlike r (tokenize (String.ofList statement)) (tokenize (String.ofList statement'))) :
    Option.Rel (fun found found' => TablesAlike r statement statement' found.1 found'.1)
      (Sql.tableOf? statement) (Sql.tableOf? statement') := by
  rw [Sql.tableOf?, Sql.tableOf?]
  rcases rel_cases (AllAlike.find? h) with
    ⟨hnone, hnone'⟩ | ⟨header, header', hsome, hsome', hheader⟩
  · rw [hnone, hnone']
    exact .none
  · rw [hsome, hsome']
    exact .some (hheader.table statement statement')

end EntityMapper.Sql

import EntityMapper.Proofs.Sql.Alike
import EntityMapper.Proofs.Sql.Pairs
import EntityMapper.Proofs.Sql.WrittenTokens

/-!
# Refilled groups of parentheses

What stands inside of a group of parentheses behind the type word does not matter for the flags of a
column: other balanced tokens in its place give the same key, generation and null marks, wherever
the tokens behind the group come to stand.  Unless the group holds the arguments of the type, the
whole column is the same.
-/

namespace EntityMapper.Sql

/-! ## Other tokens inside of a group -/

section

variable {opening closing : Token} {inner inner' : List Token}

/-- Refilling a group changes no token at the top level. -/
theorem topLevelFrom_refill (hopening : opening.isPunctuation "(" = true) (hinner : Balanced inner)
    (hinner' : Balanced inner') (hclosing : closing.isPunctuation ")" = true)
    (front back : List Token) (depth : Nat) :
    topLevelFrom depth (front ++ opening :: (inner' ++ closing :: back)) =
      topLevelFrom depth (front ++ opening :: (inner ++ closing :: back)) := by
  induction front generalizing depth with
  | nil =>
    rw [List.nil_append, List.nil_append, topLevelFrom_group hopening hinner' hclosing,
      topLevelFrom_group hopening hinner hclosing]
  | cons t front ih =>
    rw [List.cons_append, List.cons_append, topLevelFrom, topLevelFrom, ih, ih, ih]

/-- Where a type ends, and the tokens outside parentheses behind it. -/
def outsideOf (extent : Nat × List Token) : Nat × List Token :=
  (extent.1, topLevel extent.2)

/-- Refilling a group keeps what stands behind the group around it. -/
theorem closeGroup_refill (hopening : opening.isPunctuation "(" = true) (hinner : Balanced inner)
    (hinner' : Balanced inner') (hclosing : closing.isPunctuation ")" = true)
    (front back : List Token) (depth : Nat) :
    (closeGroup (depth + 1) (front ++ opening :: (inner' ++ closing :: back))).map outsideOf =
      (closeGroup (depth + 1) (front ++ opening :: (inner ++ closing :: back))).map outsideOf := by
  induction front generalizing depth with
  | nil =>
    have passed {inner : List Token} (hinner : Balanced inner) :
        closeGroup (depth + 1) (opening :: (inner ++ closing :: back)) =
          closeGroup (depth + 1) back := by
      have hgroup : Balanced (opening :: (inner ++ [closing])) :=
        .group hopening hinner hclosing .nil
      simpa using hgroup.closeGroup_append depth back
    rw [List.nil_append, List.nil_append, passed hinner, passed hinner']
  | cons t front ih =>
    rw [List.cons_append, List.cons_append]
    rcases t.parenthesis_cases with ⟨ho, -⟩ | ⟨-, hc⟩ | ⟨ho, hc⟩
    · rw [closeGroup_opening ho, closeGroup_opening ho]
      exact ih _
    · cases depth with
      | zero =>
        rw [closeGroup_closing_one hc, closeGroup_closing_one hc]
        refine congrArg some (congrArg (Prod.mk t.stop) ?_)
        exact topLevelFrom_refill hopening hinner hinner' hclosing front back 0
      | succ depth =>
        rw [closeGroup_closing hc, closeGroup_closing hc]
        exact ih depth
    · rw [closeGroup_plain ho hc, closeGroup_plain ho hc]
      exact ih _

/-- The declared type ends at the same place, before the same tokens outside parentheses. -/
theorem typeExtent_refill (hopening : opening.isPunctuation "(" = true) (hinner : Balanced inner)
    (hinner' : Balanced inner') (hclosing : closing.isPunctuation ")" = true)
    (front back : List Token) (type : Token) :
    outsideOf (typeExtent type (front ++ opening :: (inner' ++ closing :: back))) =
      outsideOf (typeExtent type (front ++ opening :: (inner ++ closing :: back))) := by
  have hlast (front inner : List Token) :
      (front ++ opening :: (inner ++ closing :: back)).getLast? = (closing :: back).getLast? := by
    rw [← List.cons_append, ← List.append_assoc,
      List.getLast?_append_of_ne_nil _ (List.cons_ne_nil closing back)]
  cases front with
  | nil =>
    simp only [List.nil_append, typeExtent, hopening, if_true, closeGroup_one hinner hclosing,
      closeGroup_one hinner' hclosing]
  | cons t front =>
    simp only [List.cons_append, typeExtent]
    split
    · have hstop : (t :: (front ++ opening :: (inner' ++ closing :: back))).getLast? =
          (t :: (front ++ opening :: (inner ++ closing :: back))).getLast? :=
        (hlast (t :: front) inner').trans (hlast (t :: front) inner).symm
      have hclose := closeGroup_refill hopening hinner hinner' hclosing front back 0
      rw [Nat.zero_add] at hclose
      rw [hstop]
      revert hclose
      cases closeGroup 1 (front ++ opening :: (inner' ++ closing :: back)) with
      | none =>
        cases closeGroup 1 (front ++ opening :: (inner ++ closing :: back)) with
        | none => exact fun _ => rfl
        | some extent => exact fun hclose => absurd hclose (by simp)
      | some extent' =>
        cases closeGroup 1 (front ++ opening :: (inner ++ closing :: back)) with
        | none => exact fun hclose => absurd hclose (by simp)
        | some extent => exact fun hclose => Option.some.inj hclose
    · refine congrArg (Prod.mk type.stop) ?_
      exact topLevelFrom_refill hopening hinner hinner' hclosing (t :: front) back 0

/-- A name and a type word in front of an item make a definition. -/
theorem Definition.ofItem?_cons_cons (name type : Token) (ts : List Token) :
    Definition.ofItem? (name :: type :: ts) =
      if name.value != "" && type.kind == .word then
        some ⟨name, type, (typeExtent type ts).1, (typeExtent type ts).2⟩
      else none :=
  rfl

/-- A column hangs on what its definition holds outside parentheses. -/
theorem Definition.column_congr {d d' : Definition} (hname : d'.name = d.name)
    (htype : d'.type = d.type) (hstop : d'.typeStop = d.typeStop)
    (hrest : topLevel d'.rest = topLevel d.rest) (text : List Char) :
    d'.column text = d.column text := by
  simp only [column, sqlType, isKey, isNotNull, isAutoIncrement, hname, htype, hstop, hrest]

/-- Other balanced tokens inside of a group give the same column. -/
theorem definition_refill (hopening : opening.isPunctuation "(" = true) (hinner : Balanced inner)
    (hinner' : Balanced inner') (hclosing : closing.isPunctuation ")" = true)
    {name type : Token} {front back : List Token} {d : Definition}
    (hd : Definition.ofItem? (name :: type :: (front ++ opening :: (inner ++ closing :: back))) =
      some d) :
    ∃ d', Definition.ofItem? (name :: type :: (front ++ opening :: (inner' ++ closing :: back))) =
        some d' ∧ ∀ text, d'.column text = d.column text := by
  have hextent := typeExtent_refill hopening hinner hinner' hclosing front back type
  obtain ⟨hstop, htop⟩ := Prod.mk.inj hextent
  rw [Definition.ofItem?_cons_cons] at hd ⊢
  split at hd
  · rename_i hcond
    obtain rfl := Option.some.inj hd
    rw [if_pos hcond]
    exact ⟨_, rfl, Definition.column_congr rfl rfl hstop htop⟩
  · cases hd

end

/-! ## Tokens that have moved -/

/-- The tokens are the same, but may come from other places of a text. -/
def Moved (ts ts' : List Token) : Prop :=
  ts.map (fun t => (t.kind, t.value)) = ts'.map (fun t => (t.kind, t.value))

/-- The same names, at whatever places. -/
def sameNames : Correspondence where
  names name name' := name' = name
  places _ _ := True
  upper_eq h := by rw [h]
  comparable_eq h := by rw [h]
  eq_empty_iff h := by rw [h]

/-- Tokens that only moved are alike. -/
theorem Moved.allAlike {ts ts' : List Token} (h : Moved ts ts') : AllAlike sameNames ts ts' := by
  have hpairs :
      List.Forall₂ (fun t t' : Token => (t.kind, t.value) = (t'.kind, t'.value)) ts ts' := by
    have hmaps := h
    rwa [Moved, ← List.forall₂_eq_eq_eq, List.forall₂_map_left_iff,
      List.forall₂_map_right_iff] at hmaps
  refine hpairs.imp fun t t' heq => ?_
  obtain ⟨hkind, hvalue⟩ := Prod.mk.inj heq
  exact ⟨hkind, fun _ => hvalue.symm, fun _ mark _ => by rw [hvalue], trivial, trivial⟩

/-- Definitions of the same tokens at whatever places have the same flags. -/
theorem Moved.definition? {name type : Token} {ts ts' : List Token} (h : Moved ts ts')
    {d : Definition} (hd : Definition.ofItem? (name :: type :: ts) = some d) :
    ∃ d', Definition.ofItem? (name :: type :: ts') = some d' ∧ d.Alike sameNames d' := by
  rw [Definition.ofItem?_cons_cons] at hd ⊢
  split at hd
  · rename_i hcond
    obtain rfl := Option.some.inj hd
    have htype : type.Alike sameNames type := ⟨rfl, fun _ => rfl, fun _ _ _ => Iff.rfl, trivial,
      trivial⟩
    rw [if_pos hcond]
    exact ⟨_, rfl, rfl, htype, beq_iff_eq.mp (Bool.and_eq_true_iff.mp hcond).2, trivial,
      (h.allAlike.typeExtent htype).2⟩
  · cases hd

/-! ## The column of a refilled item -/

/-- A declared type ends with its arguments. -/
theorem Arguments.typeExtent_append {arguments rest : List Token} (h : Arguments arguments rest)
    (type : Token) :
    typeExtent type (arguments ++ rest) = ((typeExtent type arguments).1, rest) := by
  cases h with
  | absent hrest =>
    cases rest with
    | nil => rfl
    | cons t ts => simp [typeExtent, hrest t rfl]
  | group _ hopening hinner hclosing =>
    simp [typeExtent, hopening, closeGroup_one hinner hclosing]
  | @unclosed opening inner hopening hinner =>
    have hclose : closeGroup 1 inner = none := by
      rw [Option.eq_none_iff_forall_ne_some]
      intro extent hextent
      obtain ⟨front, closing, heq, hfront, hclosing, -⟩ := closeGroup_eq_some hextent
      exact hinner front closing _ heq hclosing hfront
    simp [typeExtent, hopening, hclose]

/-- What stands behind a parenthesis does not matter for the arguments in front of it. -/
theorem Arguments.of_opening {arguments more ts : List Token} {opening : Token}
    (h : Arguments arguments (more ++ opening :: ts)) (ts' : List Token) :
    Arguments arguments (more ++ opening :: ts') := by
  generalize hrest : more ++ opening :: ts = rest at h
  cases h with
  | absent hhead =>
    refine .absent ?_
    rw [← hrest] at hhead
    cases more <;> simpa using hhead
  | group _ hopening hinner hclosing => exact .group _ hopening hinner hclosing
  | unclosed _ _ => simp at hrest

/-- Behind balanced tokens, if there are any, the arguments are over. -/
theorem Arguments.length_le {arguments rest front ts : List Token} (h : Arguments arguments rest)
    (hfront : Balanced front) (hne : front ≠ []) (heq : front ++ ts = arguments ++ rest) :
    arguments.length ≤ front.length := by
  cases hfront with
  | nil => exact absurd rfl hne
  | plain hopening _ _ =>
    cases h with
    | absent _ => exact Nat.zero_le _
    | group _ hopening' _ _ =>
      obtain ⟨rfl, -⟩ := List.cons_eq_cons.mp heq
      exact absurd hopening' (by simp [hopening])
    | unclosed hopening' _ =>
      obtain ⟨rfl, -⟩ := List.cons_eq_cons.mp heq
      exact absurd hopening' (by simp [hopening])
  | @group opening closing inner more _ hinner hclosing _ =>
    cases h with
    | absent _ => exact Nat.zero_le _
    | @group _ closing' inner' _ _ hinner' hclosing' =>
      obtain ⟨-, htail⟩ := List.cons_eq_cons.mp heq
      have hsame : inner ++ closing :: (more ++ ts) = inner' ++ closing' :: rest := by
        simpa using htail
      have hend := closeGroup_one hinner hclosing (more ++ ts)
      rw [hsame, closeGroup_one hinner' hclosing'] at hend
      obtain ⟨-, rfl⟩ := Prod.mk.inj (Option.some.inj hend)
      have hlength := congrArg List.length hsame
      simp only [List.length_append, List.length_cons, List.length_nil] at hlength ⊢
      omega
    | unclosed _ hunclosed =>
      obtain ⟨-, htail⟩ := List.cons_eq_cons.mp heq
      exact absurd hinner
        (hunclosed inner closing (more ++ ts) (by simpa using htail.symm) hclosing)

/-- The type stops where its arguments stop, whatever follows them. -/
theorem Arguments.typeStop_eq {arguments rest : List Token} (h : Arguments arguments rest)
    {name type : Token} {d : Definition}
    (hd : Definition.ofItem? (name :: type :: (arguments ++ rest)) = some d) :
    d.type = type ∧ d.typeStop = (typeExtent type arguments).1 := by
  obtain ⟨-, -, ts, heq, hextent⟩ := Definition.ofItem?_eq_some hd
  simp only [List.cons.injEq] at heq
  obtain ⟨-, rfl, rfl⟩ := heq
  rw [h.typeExtent_append] at hextent
  exact ⟨rfl, (Prod.mk.inj hextent).1.symm⟩

/-- Columns of the same names that are alike are the same if their declared types are. -/
theorem ColumnsAlike.eq_of_sqlType {text text' : List Char} {c c' : Schema.Column}
    (h : ColumnsAlike sameNames text text' c c') (hsql : c'.sqlType = c.sqlType) : c' = c := by
  obtain ⟨hname, ⟨hfield, hfield'⟩, ⟨-, ⟨htype, htype'⟩, hunknown, hunknown'⟩, hkey, hauto,
    hnullable⟩ := h
  have hname : c'.name = c.name := hname
  cases c
  cases c'
  simp_all

/-- If other balanced tokens are put into a group of parentheses behind the type word, and the
tokens from its end on come to stand at other places, then the item still defines a column, with the
same key, generation and null marks.  If the group stands behind the arguments of the type, and the
text is the same as far as the declared type goes, then the whole column is the same. -/
theorem column_of_refilled {name type opening closing closing' : Token}
    {front inner inner' back back' : List Token} {d : Definition}
    (hd : Definition.ofItem? (name :: type :: (front ++ opening :: (inner ++ closing :: back))) =
      some d)
    (hopening : opening.isPunctuation "(" = true) (hclosing : closing.isPunctuation ")" = true)
    (hinner : Balanced inner) (hinner' : Balanced inner')
    (hback : Moved (closing :: back) (closing' :: back')) (text text' : List Char) :
    ∃ d', Definition.ofItem?
        (name :: type :: (front ++ opening :: (inner' ++ closing' :: back'))) = some d' ∧
      (d'.column text').primaryKey = (d.column text).primaryKey ∧
      (d'.column text').autoIncrement = (d.column text).autoIncrement ∧
      (d'.column text').nullable = (d.column text).nullable ∧
      ∀ arguments rest, front ++ opening :: (inner ++ closing :: back) = arguments ++ rest →
        Arguments arguments rest → arguments.length ≤ front.length →
          text'.take d.typeStop = text.take d.typeStop → d'.column text' = d.column text := by
  obtain ⟨e, he, hcolumn⟩ := definition_refill hopening hinner hinner' hclosing hd
  have hmoved : Moved (front ++ opening :: (inner' ++ closing :: back))
      (front ++ opening :: (inner' ++ closing' :: back')) := by
    rw [Moved] at hback ⊢
    simp only [List.map_append, List.map_cons] at hback ⊢
    rw [hback]
  obtain ⟨d', hd', halike⟩ := hmoved.definition? he
  have hflags : ColumnsAlike sameNames text text' (d.column text) (d'.column text') := by
    rw [← hcolumn text]
    exact halike.column
  refine ⟨d', hd', hflags.primaryKey_eq.symm, hflags.autoIncrement_eq.symm,
    hflags.nullable_eq.symm, fun arguments rest heq harguments hle htext =>
      hflags.eq_of_sqlType ?_⟩
  obtain ⟨more, rfl⟩ : arguments <+: front :=
    List.prefix_of_prefix_length_le ⟨rest, heq.symm⟩ (List.prefix_append _ _) hle
  rw [List.append_assoc, List.append_cancel_left_eq] at heq
  rw [← heq] at harguments
  rw [List.append_assoc] at hd hd'
  obtain ⟨htype, hstop⟩ := harguments.typeStop_eq hd
  obtain ⟨htype', hstop'⟩ := (harguments.of_opening _).typeStop_eq hd'
  rw [Definition.column, Definition.column, Definition.sqlType, Definition.sqlType, htype, htype',
    hstop', ← hstop, htext]

/-- The definition `a INT DEFAULT (x) NOT NULL`: a default value in parentheses. -/
def groupedDefault : Definition where
  name := word "a" 0
  type := word "INT" 2
  typeStop := 5
  rest := [word "DEFAULT" 6, mark '(' 14, word "x" 15, mark ')' 16, word "NOT" 18, word "NULL" 22]

theorem column_of_refilled_groupedDefault :
    Definition.ofItem? (tokenize "a INT DEFAULT (x) NOT NULL") = some groupedDefault ∧
      Balanced [word "x" 15] ∧ Balanced [word "PRIMARY" 15, word "KEY" 23] ∧
      Moved [mark ')' 16, word "NOT" 18, word "NULL" 22]
        [mark ')' 26, word "NOT" 28, word "NULL" 32] ∧
      ∃ d', Definition.ofItem? (tokenize "a INT DEFAULT (PRIMARY KEY) NOT NULL") = some d' ∧
        d'.column "a INT DEFAULT (PRIMARY KEY) NOT NULL".toList =
          groupedDefault.column "a INT DEFAULT (x) NOT NULL".toList := by
  have htokens : tokenize "a INT DEFAULT (x) NOT NULL" =
      word "a" 0 :: word "INT" 2 :: ([word "DEFAULT" 6] ++ mark '(' 14 ::
        ([word "x" 15] ++ mark ')' 16 :: [word "NOT" 18, word "NULL" 22])) := by
    decide +kernel
  have htokens' : tokenize "a INT DEFAULT (PRIMARY KEY) NOT NULL" =
      word "a" 0 :: word "INT" 2 :: ([word "DEFAULT" 6] ++ mark '(' 14 ::
        ([word "PRIMARY" 15, word "KEY" 23] ++
          mark ')' 26 :: [word "NOT" 28, word "NULL" 32])) := by
    decide +kernel
  have hd : Definition.ofItem? (tokenize "a INT DEFAULT (x) NOT NULL") = some groupedDefault := by
    rw [htokens]
    decide +kernel
  have hinner : Balanced [word "x" 15] := by decide +kernel
  have hinner' : Balanced [word "PRIMARY" 15, word "KEY" 23] := by decide +kernel
  have hback : Moved [mark ')' 16, word "NOT" 18, word "NULL" 22]
      [mark ')' 26, word "NOT" 28, word "NULL" 32] := by
    rw [Moved]
    decide +kernel
  have hfront : Balanced [word "DEFAULT" 6] := by decide +kernel
  have harguments : Arguments [] ([word "DEFAULT" 6] ++ mark '(' 14 ::
      ([word "x" 15] ++ mark ')' 16 :: [word "NOT" 18, word "NULL" 22])) :=
    .absent (by decide +kernel)
  obtain ⟨d', hd', -, -, -, hcolumn⟩ := column_of_refilled (htokens ▸ hd) (by decide +kernel)
    (by decide +kernel) hinner hinner' hback "a INT DEFAULT (x) NOT NULL".toList
    "a INT DEFAULT (PRIMARY KEY) NOT NULL".toList
  exact ⟨hd, hinner, hinner', hback, d', htokens' ▸ hd',
    hcolumn [] _ rfl harguments (harguments.length_le hfront (List.cons_ne_nil _ _) rfl)
      (by decide +kernel)⟩

end EntityMapper.Sql

import EntityMapper.Proofs.Sql.Sections

/-!
# The grammar of headers

A header is found exactly where the tokens read as one by its grammar: `CREATE`, modifiers, `TABLE`,
`IF NOT EXISTS` if these words come next, and a name with as many further parts as there are.  The
first place at which they do counts, whatever stands in front of it.
-/

namespace EntityMapper.Sql

/-- Identifiers with periods between them, the last of which is given. -/
inductive QualifiedName : List Token → Token → Prop
  | one {t : Token} (ht : t.isIdentifier = true) : QualifiedName [t] t
  | more {t period last : Token} {ts : List Token} (ht : t.isIdentifier = true)
      (hperiod : period.isPunctuation "." = true) (hts : QualifiedName ts last) :
      QualifiedName (t :: period :: ts) last

/-- Tokens with which a qualified name does not go on. -/
def EndsName (rest : List Token) : Prop :=
  ∀ period part more, rest = period :: part :: more →
    (period.isPunctuation "." && part.isIdentifier) = false

/-- The words of a header that asks for the case that there is no table yet. -/
def guardWords : List String :=
  ["IF", "NOT", "EXISTS"]

/-- A header in its parts, in front of the given tokens. -/
structure HeaderBefore (rest : List Token) where
  create : Token
  modifiers : List Token
  table : Token
  guard : List Token
  names : List Token
  last : Token
  create_isWord : create.isWord "CREATE" = true
  modifiers_isWordIn : ∀ t ∈ modifiers, t.isWordIn tableModifiers = true
  table_isWord : table.isWord "TABLE" = true
  guard_length : guard.length = if beginsWith guardWords (guard ++ (names ++ rest)) then 3 else 0
  names_qualified : QualifiedName names last
  first_ne : ∀ t ∈ names.head?, t.value ≠ ""
  last_ne : last.value ≠ ""
  rest_ends : EndsName rest

/-- The tokens of a header. -/
def HeaderBefore.tokens {rest : List Token} (p : HeaderBefore rest) : List Token :=
  p.create :: (p.modifiers ++ p.table :: (p.guard ++ p.names))

namespace Header

/-! ## Names -/

/-- A name with no qualifier behind it is the whole name. -/
theorem qualified_of_endsName (name : String) {rest : List Token} (h : EndsName rest) :
    qualified name rest = ⟨name, rest⟩ := by
  unfold qualified
  split
  · rename_i period part more
    rw [if_neg (by simp [h period part more rfl])]
  · rfl

/-- A qualified name that nothing goes on with is read up to its last part. -/
theorem qualified_of_qualifiedName {names rest : List Token} {last : Token}
    (hnames : QualifiedName names last) (hrest : EndsName rest) :
    ∃ t ts, names = t :: ts ∧ t.isIdentifier = true ∧
      qualified t.value (ts ++ rest) = ⟨last.value, rest⟩ := by
  induction hnames with
  | @one t ht => exact ⟨t, [], rfl, ht, qualified_of_endsName t.value hrest⟩
  | @more t period last ts ht hperiod _ ih =>
    obtain ⟨u, us, rfl, hu, hqualified⟩ := ih
    refine ⟨t, period :: u :: us, rfl, ht, ?_⟩
    rw [List.cons_append, List.cons_append, qualified, if_pos (by simp [hperiod, hu]), hqualified]

/-- The tokens that are read as a name are a qualified name that nothing goes on with. -/
theorem exists_qualifiedName {name : String} {ts : List Token} {t : Token}
    (ht : t.isIdentifier = true) (hname : t.value = name) :
    ∃ names last, QualifiedName (t :: names) last ∧ ts = names ++ (qualified name ts).rest ∧
      last.value = (qualified name ts).name ∧ EndsName (qualified name ts).rest := by
  fun_induction qualified name ts generalizing t with
  | case1 name period part ts hcond ih =>
    rw [Bool.and_eq_true] at hcond
    obtain ⟨names, last, hnames, hts, hlast, hends⟩ := ih hcond.2 rfl
    refine ⟨period :: part :: names, last, .more ht hcond.1 hnames, ?_, hlast, hends⟩
    rw [List.cons_append, List.cons_append, ← hts]
  | case2 name period part ts hcond =>
    refine ⟨[], t, .one ht, rfl, hname, fun period' part' more heq => ?_⟩
    obtain ⟨rfl, hmore⟩ := List.cons_eq_cons.mp heq
    obtain ⟨rfl, -⟩ := List.cons_eq_cons.mp hmore
    simpa using hcond
  | case3 name ts hts =>
    exact ⟨[], t, .one ht, rfl, hname, fun period part more heq =>
      absurd heq (hts period part more)⟩

/-- A name is read exactly if the tokens begin with a qualified name whose first and last parts are
not empty. -/
theorem named?_eq_some_iff {ts : List Token} {h : Header} : named? ts = some h ↔
    ∃ names last, QualifiedName names last ∧ (∀ t ∈ names.head?, t.value ≠ "") ∧
      last.value ≠ "" ∧ EndsName h.rest ∧ ts = names ++ h.rest ∧ last.value = h.name := by
  constructor
  · intro hnamed
    cases ts with
    | nil => cases hnamed
    | cons t ts =>
      rw [named?] at hnamed
      split at hnamed
      · rename_i hcond
        rw [Bool.and_eq_true, bne_iff_ne] at hcond
        dsimp only at hnamed
        split at hnamed
        · cases hnamed
        · rename_i hlast
          obtain rfl := Option.some.inj hnamed
          obtain ⟨names, last, hnames, hts, hvalue, hends⟩ :=
            exists_qualifiedName hcond.1 rfl
          refine ⟨t :: names, last, hnames, by simpa using hcond.2, hvalue ▸ hlast, hends, ?_,
            hvalue⟩
          rw [List.cons_append, ← hts]
      · cases hnamed
  · rintro ⟨names, last, hnames, hfirst, hlast, hends, rfl, hvalue⟩
    obtain ⟨t, ts, rfl, ht, hqualified⟩ := qualified_of_qualifiedName hnames hends
    have hne : t.value ≠ "" := hfirst t rfl
    rw [List.cons_append, named?, if_pos (by simp [ht, hne]), hqualified]
    dsimp only
    rw [if_neg hlast, hvalue]

/-! ## Headers at the front of tokens -/

/-- The header that tokens begin with. -/
def atFront? : List Token → Option Header
  | [] => none
  | t :: ts => if t.isWord "CREATE" then afterCreate? ts else none

/-- The word `TABLE` is no modifier of a table. -/
theorem not_isWordIn_of_isWord_table {t : Token} (h : t.isWord "TABLE" = true) :
    t.isWordIn tableModifiers = false := by
  rw [Token.isWord, Token.isWordIn, Bool.and_eq_true] at h
  have hupper : t.upper = "TABLE" := by simpa using h.2
  simp [Token.isWordIn, hupper, tableModifiers]

/-- Tokens that begin with some words are at least as many. -/
theorem length_le_of_beginsWith {words : List String} {ts : List Token}
    (h : beginsWith words ts = true) : words.length ≤ ts.length := by
  induction words generalizing ts with
  | nil => exact Nat.zero_le _
  | cons word words ih =>
    cases ts with
    | nil => cases h
    | cons t ts =>
      rw [beginsWith, Bool.and_eq_true] at h
      exact Nat.succ_le_succ (ih h.2)

/-- The words of a guard are passed over if they come next. -/
theorem exists_guard (ts : List Token) : ∃ guard,
    ts = guard ++ (if beginsWith guardWords ts then ts.drop 3 else ts) ∧
      guard.length = if beginsWith guardWords ts then 3 else 0 := by
  split
  · rename_i hwords
    have hlength : 3 ≤ ts.length := length_le_of_beginsWith hwords
    exact ⟨ts.take 3, (List.take_append_drop 3 ts).symm, List.length_take_of_le hlength⟩
  · exact ⟨[], rfl, rfl⟩

/-- Dropping a guard where there is one leaves the tokens behind it. -/
theorem drop_guard {guard ts : List Token}
    (h : guard.length = if beginsWith guardWords (guard ++ ts) then 3 else 0) :
    (if beginsWith guardWords (guard ++ ts) then (guard ++ ts).drop 3 else guard ++ ts) = ts := by
  split at h
  · rename_i hwords
    rw [if_pos hwords, ← h, List.drop_left]
  · rename_i hwords
    rw [if_neg hwords, List.eq_nil_of_length_eq_zero h, List.nil_append]

/-- Behind the first word of a header the modifiers are passed over up to the word `TABLE`, and a
guard behind that. -/
theorem afterCreate?_eq_some_iff {ts : List Token} {h : Header} : afterCreate? ts = some h ↔
    ∃ modifiers table guard us, (∀ t ∈ modifiers, t.isWordIn tableModifiers = true) ∧
      table.isWord "TABLE" = true ∧
      guard.length = (if beginsWith guardWords (guard ++ us) then 3 else 0) ∧
      ts = modifiers ++ table :: (guard ++ us) ∧ named? us = some h := by
  rw [afterCreate?, ← guardWords]
  constructor
  · intro hafter
    have hts := List.takeWhile_append_dropWhile (p := (·.isWordIn tableModifiers)) (l := ts)
    cases hdrop : ts.dropWhile (·.isWordIn tableModifiers) with
    | nil =>
      rw [hdrop] at hafter
      cases hafter
    | cons table us =>
      rw [hdrop] at hafter hts
      dsimp only at hafter
      rw [Option.ite_none_right_eq_some] at hafter
      obtain ⟨guard, hguard, hlength⟩ := exists_guard us
      refine ⟨ts.takeWhile (·.isWordIn tableModifiers), table, guard, _,
        List.all_eq_true.mp List.all_takeWhile, hafter.1, ?_, ?_, hafter.2⟩
      · rwa [← hguard]
      · rw [← hguard, hts]
  · rintro ⟨modifiers, table, guard, us, hmodifiers, htable, hguard, rfl, hnamed⟩
    rw [List.dropWhile_append_of_pos hmodifiers,
      List.dropWhile_cons_of_neg (by simp [not_isWordIn_of_isWord_table htable])]
    dsimp only
    rw [if_pos htable, drop_guard hguard, hnamed]

/-- The tokens begin with a header exactly if they read as one. -/
theorem atFront?_eq_some_iff {ts : List Token} {h : Header} : atFront? ts = some h ↔
    ∃ p : HeaderBefore h.rest, ts = p.tokens ++ h.rest ∧ p.last.value = h.name := by
  constructor
  · intro hfront
    cases ts with
    | nil => cases hfront
    | cons create ts =>
      rw [atFront?, Option.ite_none_right_eq_some, afterCreate?_eq_some_iff] at hfront
      obtain ⟨hcreate, modifiers, table, guard, us, hmodifiers, htable, hguard, rfl, hnamed⟩ :=
        hfront
      obtain ⟨names, last, hnames, hfirst, hlast, hends, rfl, hvalue⟩ :=
        named?_eq_some_iff.mp hnamed
      refine ⟨⟨create, modifiers, table, guard, names, last, hcreate, hmodifiers, htable, hguard,
        hnames, hfirst, hlast, hends⟩, ?_, hvalue⟩
      simp [HeaderBefore.tokens]
  · rintro ⟨p, rfl, hvalue⟩
    have hnamed := named?_eq_some_iff.mpr ⟨p.names, p.last, p.names_qualified, p.first_ne,
      p.last_ne, p.rest_ends, rfl, hvalue⟩
    rw [HeaderBefore.tokens, List.cons_append, atFront?, if_pos p.create_isWord]
    refine afterCreate?_eq_some_iff.mpr ⟨p.modifiers, p.table, p.guard, p.names ++ h.rest,
      p.modifiers_isWordIn, p.table_isWord, p.guard_length, ?_, hnamed⟩
    rw [List.append_assoc, List.cons_append, List.append_assoc]

/-! ## The first header -/

/-- The first header is the one at the front, or else the first behind the first token. -/
theorem find?_cons (t : Token) (ts : List Token) :
    find? (t :: ts) = (atFront? (t :: ts)).or (find? ts) := by
  rw [find?, atFront?]
  split <;> rename_i hfront <;> rw [hfront] <;> rfl

/-- The first header is the one at the front of the tokens from the first place on that read as a
header. -/
theorem find?_eq_some_iff {ts : List Token} {h : Header} : find? ts = some h ↔
    ∃ i, atFront? (ts.drop i) = some h ∧ ∀ k < i, atFront? (ts.drop k) = none := by
  induction ts with
  | nil => simp [find?, atFront?]
  | cons t ts ih =>
    rw [find?_cons, Option.or_eq_some_iff, ih]
    constructor
    · rintro (hfront | ⟨hnone, i, hi, hbefore⟩)
      · exact ⟨0, hfront, fun k hk => absurd hk (Nat.not_lt_zero k)⟩
      · refine ⟨i + 1, hi, fun k hk => ?_⟩
        cases k with
        | zero => exact hnone
        | succ k => exact hbefore k (Nat.lt_of_succ_lt_succ hk)
    · rintro ⟨i, hi, hbefore⟩
      cases i with
      | zero => exact .inl hi
      | succ i =>
        exact .inr ⟨hbefore 0 (Nat.succ_pos i), i, hi, fun k hk =>
          hbefore (k + 1) (Nat.succ_lt_succ hk)⟩

/-- No header is found iff none stands at any place. -/
theorem find?_eq_none_iff {ts : List Token} :
    find? ts = none ↔ ∀ i, atFront? (ts.drop i) = none := by
  induction ts with
  | nil => simp [find?, atFront?]
  | cons t ts ih =>
    rw [find?_cons, Option.or_eq_none_iff, ih]
    constructor
    · rintro ⟨hfront, hnone⟩ i
      cases i with
      | zero => exact hfront
      | succ i => exact hnone i
    · intro hnone
      exact ⟨hnone 0, fun i => hnone (i + 1)⟩

/-- A header of the given name stands in the tokens at the first index and ends in front of the
second. -/
def StandsAt (ts : List Token) (i : Nat) (name : String) (j : Nat) : Prop :=
  ∃ (rest : List Token) (p : HeaderBefore rest),
    ts.drop i = p.tokens ++ rest ∧ p.last.value = name ∧ i + p.tokens.length = j

variable {ts : List Token} {i j : Nat} {name : String}

/-- A header is not empty and ends within the tokens. -/
theorem StandsAt.lt (h : StandsAt ts i name j) : i < j ∧ j ≤ ts.length := by
  obtain ⟨rest, p, hdrop, -, rfl⟩ := h
  have hlength := congrArg List.length hdrop
  rw [List.length_drop, List.length_append] at hlength
  have hpos : 0 < p.tokens.length := Nat.succ_pos _
  omega

/-- Headers stand where the tokens from a place on are read as one. -/
theorem standsAt_iff : StandsAt ts i name j ↔
    ∃ h, atFront? (ts.drop i) = some h ∧ h.name = name ∧ h.index ts = j := by
  constructor
  · intro hstands
    have hbounds := hstands.lt
    obtain ⟨rest, p, hdrop, rfl, rfl⟩ := hstands
    refine ⟨⟨p.last.value, rest⟩, atFront?_eq_some_iff.mpr ⟨p, hdrop, rfl⟩, rfl, ?_⟩
    have hlength := congrArg List.length hdrop
    rw [List.length_drop, List.length_append] at hlength
    rw [index]
    dsimp only
    omega
  · rintro ⟨h, hfront, rfl, rfl⟩
    obtain ⟨p, hdrop, hvalue⟩ := atFront?_eq_some_iff.mp hfront
    refine ⟨h.rest, p, hdrop, hvalue, ?_⟩
    have hlength := congrArg List.length hdrop
    rw [List.length_drop, List.length_append] at hlength
    have hpos : 0 < p.tokens.length := Nat.succ_pos _
    rw [index]
    omega

/-- No header stands at a place iff none is read there. -/
theorem not_standsAt_iff : (∀ name j, ¬ StandsAt ts i name j) ↔ atFront? (ts.drop i) = none := by
  constructor
  · intro hnone
    cases hfront : atFront? (ts.drop i) with
    | none => rfl
    | some h => exact absurd (standsAt_iff.mpr ⟨h, hfront, rfl, rfl⟩) (hnone h.name (h.index ts))
  · intro hnone name j hstands
    obtain ⟨h, hfront, -⟩ := standsAt_iff.mp hstands
    rw [hnone] at hfront
    cases hfront

/-- A header is found exactly if one stands in the tokens: the first one, with its name and the
index behind it, and none if at no index the tokens read as a header. -/
theorem find?_iff_standsAt (ts : List Token) :
    (∀ name j, (find? ts).map (fun h => (h.name, h.index ts)) = some (name, j) ↔
      ∃ i, StandsAt ts i name j ∧ (i < j ∧ j ≤ ts.length) ∧
        ∀ k < i, ∀ name' j', ¬ StandsAt ts k name' j') ∧
    (find? ts = none ↔ ∀ i name j, ¬ StandsAt ts i name j) := by
  constructor
  · intro name j
    rw [Option.map_eq_some_iff]
    constructor
    · rintro ⟨h, hfind, heq⟩
      obtain ⟨hname, hindex⟩ := Prod.mk.injEq .. ▸ heq
      obtain ⟨i, hfront, hbefore⟩ := find?_eq_some_iff.mp hfind
      have hstands := standsAt_iff.mpr ⟨h, hfront, hname, hindex⟩
      exact ⟨i, hstands, hstands.lt, fun k hk => not_standsAt_iff.mpr (hbefore k hk)⟩
    · rintro ⟨i, hstands, -, hbefore⟩
      obtain ⟨h, hfront, rfl, rfl⟩ := standsAt_iff.mp hstands
      exact ⟨h, find?_eq_some_iff.mpr ⟨i, hfront, fun k hk => not_standsAt_iff.mp (hbefore k hk)⟩,
        rfl⟩
  · rw [find?_eq_none_iff]
    exact forall_congr' fun i => not_standsAt_iff.symm

end Header

end EntityMapper.Sql

import EntityMapper.Sql.Item
import Mathlib.Data.List.Induction

/-!
# Parentheses among tokens

Tokens are balanced if their parentheses stand in pairs, and nested if every closing parenthesis
has its opening one among them.  Counting the open parentheses from the left decides both.  The
counts of the reader agree with this: what is balanced leaves them as they are, so that a pair of
parentheses ends for all of them at the same token.
-/

namespace EntityMapper.Sql

/-! ## Pairs of parentheses -/

/-- Tokens whose parentheses stand in pairs. -/
inductive Balanced : List Token → Prop where
  | nil : Balanced []
  /-- A token that is no parenthesis stands in front. -/
  | plain {t : Token} {ts : List Token} (hopening : t.isPunctuation "(" = false)
      (hclosing : t.isPunctuation ")" = false) (hts : Balanced ts) : Balanced (t :: ts)
  /-- A pair with balanced tokens inside stands in front. -/
  | group {opening closing : Token} {inner ts : List Token}
      (hopening : opening.isPunctuation "(" = true) (hinner : Balanced inner)
      (hclosing : closing.isPunctuation ")" = true) (hts : Balanced ts) :
      Balanced (opening :: (inner ++ closing :: ts))

/-- Every closing parenthesis among the tokens closes an opening one among them. -/
def Nested (ts : List Token) : Prop :=
  ∀ front closing back, ts = front ++ closing :: back → closing.isPunctuation ")" = true →
    ∃ before opening inner, front = before ++ opening :: inner ∧
      opening.isPunctuation "(" = true ∧ Balanced inner

/-- Balanced rows can be put together. -/
theorem Balanced.append {xs ys : List Token} (hxs : Balanced xs) (hys : Balanced ys) :
    Balanced (xs ++ ys) := by
  induction hxs with
  | nil => exact hys
  | plain hopening hclosing _ ih => exact .plain hopening hclosing ih
  | group hopening hinner hclosing _ _ ih =>
    rw [List.cons_append, List.append_assoc]
    exact .group hopening hinner hclosing ih

/-- The beginning of nested tokens is nested. -/
theorem Nested.left {xs ys : List Token} (h : Nested (xs ++ ys)) : Nested xs := by
  intro front closing back hxs
  exact h front closing (back ++ ys) (by rw [hxs, List.append_assoc, List.cons_append])

/-- A token is an opening parenthesis, a closing one, or neither. -/
theorem Token.parenthesis_cases (t : Token) :
    (t.isPunctuation "(" = true ∧ t.isPunctuation ")" = false) ∨
      (t.isPunctuation "(" = false ∧ t.isPunctuation ")" = true) ∨
      (t.isPunctuation "(" = false ∧ t.isPunctuation ")" = false) := by
  cases hopening : t.isPunctuation "(" with
  | false => cases t.isPunctuation ")" <;> simp
  | true =>
    simp only [Token.isPunctuation, Bool.and_eq_true, beq_iff_eq] at hopening
    simp [Token.isPunctuation, hopening]

/-- An opening parenthesis is no closing one. -/
theorem Token.not_closing_of_opening {t : Token} (h : t.isPunctuation "(" = true) :
    t.isPunctuation ")" = false := by
  rcases t.parenthesis_cases with hcase | hcase | hcase
  · exact hcase.2
  · rw [hcase.1] at h
    cases h
  · exact hcase.2

/-- A closing parenthesis is no opening one. -/
theorem Token.not_opening_of_closing {t : Token} (h : t.isPunctuation ")" = true) :
    t.isPunctuation "(" = false := by
  rw [← Bool.not_eq_true]
  intro hopening
  rw [not_closing_of_opening hopening] at h
  cases h

/-! ## Counting from the left -/

/-- The number of parentheses that are open behind tokens, where so many are open in front of them;
none if one of the tokens closes a parenthesis and none is open. -/
def openAfter? : Nat → List Token → Option Nat
  | depth, [] => some depth
  | depth, t :: ts =>
    if t.isPunctuation "(" then openAfter? (depth + 1) ts
    else if t.isPunctuation ")" then if depth = 0 then none else openAfter? (depth - 1) ts
    else openAfter? depth ts

section

variable {t : Token} {ts : List Token} {depth : Nat}

/-- An opening parenthesis opens one level more. -/
theorem openAfter?_opening (h : t.isPunctuation "(" = true) :
    openAfter? depth (t :: ts) = openAfter? (depth + 1) ts := by
  rw [openAfter?, if_pos h]

/-- A closing parenthesis closes a level that is open. -/
theorem openAfter?_closing (h : t.isPunctuation ")" = true) :
    openAfter? (depth + 1) (t :: ts) = openAfter? depth ts := by
  rw [openAfter?, if_neg (by simp [Token.not_opening_of_closing h]), if_pos h,
    if_neg (Nat.succ_ne_zero depth), Nat.add_sub_cancel]

/-- A closing parenthesis where no level is open leads nowhere. -/
theorem openAfter?_closing_zero (h : t.isPunctuation ")" = true) :
    openAfter? 0 (t :: ts) = none := by
  rw [openAfter?, if_neg (by simp [Token.not_opening_of_closing h]), if_pos h, if_pos rfl]

/-- Other tokens open and close nothing. -/
theorem openAfter?_plain (hopening : t.isPunctuation "(" = false)
    (hclosing : t.isPunctuation ")" = false) :
    openAfter? depth (t :: ts) = openAfter? depth ts := by
  rw [openAfter?, if_neg (by simp [hopening]), if_neg (by simp [hclosing])]

end

/-- The levels that are open behind two rows are counted in one go. -/
theorem openAfter?_append (depth : Nat) (xs ys : List Token) :
    openAfter? depth (xs ++ ys) = (openAfter? depth xs).bind (openAfter? · ys) := by
  induction xs generalizing depth with
  | nil => rfl
  | cons t ts ih =>
    rw [List.cons_append]
    rcases t.parenthesis_cases with ⟨ho, -⟩ | ⟨-, hc⟩ | ⟨ho, hc⟩
    · rw [openAfter?_opening ho, openAfter?_opening ho, ih]
    · cases depth with
      | zero =>
        rw [openAfter?_closing_zero hc, openAfter?_closing_zero hc]
        rfl
      | succ depth => rw [openAfter?_closing hc, openAfter?_closing hc, ih]
    · rw [openAfter?_plain ho hc, openAfter?_plain ho hc, ih]

/-- Balanced tokens leave as many parentheses open as were open before. -/
theorem Balanced.openAfter? {ts : List Token} (h : Balanced ts) (depth : Nat) :
    openAfter? depth ts = some depth := by
  induction h generalizing depth with
  | nil => rfl
  | plain hopening hclosing _ ih => rw [openAfter?_plain hopening hclosing, ih]
  | group hopening _ hclosing _ ihinner ih =>
    rw [openAfter?_opening hopening, openAfter?_append, ihinner, Option.bind_some,
      openAfter?_closing hclosing, ih]

/-- If all parentheses are closed in the end then the outermost open one is closed somewhere. -/
theorem exists_closing {depth : Nat} {ts : List Token}
    (h : openAfter? (depth + 1) ts = some 0) :
    ∃ inner closing back, ts = inner ++ closing :: back ∧ closing.isPunctuation ")" = true ∧
      openAfter? depth inner = some 0 ∧ openAfter? 0 back = some 0 := by
  induction ts generalizing depth with
  | nil => cases h
  | cons t ts ih =>
    rcases t.parenthesis_cases with ⟨ho, -⟩ | ⟨-, hc⟩ | ⟨ho, hc⟩
    · rw [openAfter?_opening ho] at h
      obtain ⟨inner, closing, back, rfl, hclosing, hinner, hback⟩ := ih h
      exact ⟨t :: inner, closing, back, rfl, hclosing, by rw [openAfter?_opening ho, hinner],
        hback⟩
    · rw [openAfter?_closing hc] at h
      cases depth with
      | zero => exact ⟨[], t, ts, rfl, hc, rfl, h⟩
      | succ depth =>
        obtain ⟨inner, closing, back, rfl, hclosing, hinner, hback⟩ := ih h
        exact ⟨t :: inner, closing, back, rfl, hclosing, by rw [openAfter?_closing hc, hinner],
          hback⟩
    · rw [openAfter?_plain ho hc] at h
      obtain ⟨inner, closing, back, rfl, hclosing, hinner, hback⟩ := ih h
      exact ⟨t :: inner, closing, back, rfl, hclosing, by rw [openAfter?_plain ho hc, hinner],
        hback⟩

/-- Tokens are balanced if and only if counting from the left ends at zero.  The induction is over
their number, since the inside of the first pair and what follows it are both shorter. -/
theorem balanced_iff {ts : List Token} : Balanced ts ↔ openAfter? 0 ts = some 0 := by
  refine ⟨fun h => h.openAfter? 0, fun h => ?_⟩
  induction hn : ts.length using Nat.strongRecOn generalizing ts with
  | ind n ih =>
    subst hn
    cases ts with
    | nil => exact .nil
    | cons t ts =>
      rcases t.parenthesis_cases with ⟨ho, -⟩ | ⟨-, hc⟩ | ⟨ho, hc⟩
      · rw [openAfter?_opening ho] at h
        obtain ⟨inner, closing, back, rfl, hclosing, hinner, hback⟩ := exists_closing h
        simp only [List.length_cons, List.length_append] at ih
        exact .group ho (ih _ (by omega) hinner rfl) hclosing (ih _ (by omega) hback rfl)
      · rw [openAfter?_closing_zero hc] at h
        cases h
      · rw [openAfter?_plain ho hc] at h
        exact .plain ho hc (ih _ (Nat.lt_succ_self _) h rfl)

/-- If a parenthesis is open in the end then the last such one is followed by balanced tokens.  The
induction is over their number, since a last parenthesis that closes leads to the tokens in front of
its pair. -/
theorem exists_opening {depth : Nat} {ts : List Token}
    (h : openAfter? 0 ts = some (depth + 1)) :
    ∃ before opening inner, ts = before ++ opening :: inner ∧ opening.isPunctuation "(" = true ∧
      openAfter? 0 before = some depth ∧ Balanced inner := by
  induction hn : ts.length using Nat.strongRecOn generalizing ts depth with
  | ind n ih =>
    subst hn
    rcases ts.eq_nil_or_concat with rfl | ⟨front, t, rfl⟩
    · cases h
    · rw [List.concat_eq_append] at h ih ⊢
      rw [openAfter?_append] at h
      obtain ⟨count, hcount, hlast⟩ := Option.bind_eq_some_iff.mp h
      simp only [List.length_append, List.length_singleton] at ih
      rcases t.parenthesis_cases with ⟨ho, -⟩ | ⟨-, hc⟩ | ⟨ho, hc⟩
      · rw [openAfter?_opening ho] at hlast
        obtain rfl : count = depth := Nat.succ.inj (Option.some.inj hlast)
        exact ⟨front, t, [], rfl, ho, hcount, .nil⟩
      · cases count with
        | zero =>
          rw [openAfter?_closing_zero hc] at hlast
          cases hlast
        | succ count =>
          rw [openAfter?_closing hc] at hlast
          obtain rfl : count = depth + 1 := Option.some.inj hlast
          obtain ⟨middle, opening, inner, rfl, ho, hmiddle, hinner⟩ :=
            ih _ (Nat.lt_succ_self _) hcount rfl
          simp only [List.length_append, List.length_cons] at ih
          obtain ⟨before, first, outer, rfl, hfirst, hbefore, houter⟩ :=
            ih _ (by omega) hmiddle rfl
          exact ⟨before, first, outer ++ opening :: (inner ++ [t]), by simp, hfirst, hbefore,
            houter.append (.group ho hinner hc .nil)⟩
      · rw [openAfter?_plain ho hc] at hlast
        obtain rfl : count = depth + 1 := Option.some.inj hlast
        obtain ⟨before, opening, inner, rfl, hopening, hbefore, hinner⟩ :=
          ih _ (Nat.lt_succ_self _) hcount rfl
        exact ⟨before, opening, inner ++ [t], by simp, hopening, hbefore,
          hinner.append (.plain ho hc .nil)⟩

/-- Tokens are nested if and only if counting from the left comes to an end. -/
theorem nested_iff {ts : List Token} : Nested ts ↔ ∃ depth, openAfter? 0 ts = some depth := by
  constructor
  · intro h
    induction ts using List.reverseRecOn with
    | nil => exact ⟨0, rfl⟩
    | append_singleton ts t ih =>
      obtain ⟨depth, hdepth⟩ := ih h.left
      rw [openAfter?_append, hdepth, Option.bind_some]
      rcases t.parenthesis_cases with ⟨ho, -⟩ | ⟨-, hc⟩ | ⟨ho, hc⟩
      · exact ⟨depth + 1, openAfter?_opening ho⟩
      · obtain ⟨before, opening, inner, rfl, hopening, hinner⟩ := h ts t [] rfl hc
        rw [openAfter?_append] at hdepth
        obtain ⟨count, -, hcount⟩ := Option.bind_eq_some_iff.mp hdepth
        rw [openAfter?_opening hopening, hinner.openAfter?] at hcount
        obtain rfl := Option.some.inj hcount
        exact ⟨count, openAfter?_closing hc⟩
      · exact ⟨depth, openAfter?_plain ho hc⟩
  · rintro ⟨depth, h⟩ front closing back rfl hclosing
    rw [openAfter?_append] at h
    obtain ⟨count, hcount, hrest⟩ := Option.bind_eq_some_iff.mp h
    cases count with
    | zero =>
      rw [openAfter?_closing_zero hclosing] at hrest
      cases hrest
    | succ count =>
      obtain ⟨before, opening, inner, hfront, hopening, -, hinner⟩ := exists_opening hcount
      exact ⟨before, opening, inner, hfront, hopening, hinner⟩

instance decidableBalanced (ts : List Token) : Decidable (Balanced ts) :=
  decidable_of_iff _ balanced_iff.symm

theorem Balanced.nested {ts : List Token} (h : Balanced ts) : Nested ts :=
  nested_iff.mpr ⟨0, h.openAfter? 0⟩

/-- Behind a balanced row balance hangs on the rest alone. -/
theorem balanced_append_iff {xs ys : List Token} (hxs : Balanced xs) :
    Balanced (xs ++ ys) ↔ Balanced ys := by
  rw [balanced_iff, balanced_iff, openAfter?_append, hxs.openAfter?, Option.bind_some]

/-- Behind a balanced row nesting hangs on the rest alone. -/
theorem nested_append_iff {xs ys : List Token} (hxs : Balanced xs) :
    Nested (xs ++ ys) ↔ Nested ys := by
  rw [nested_iff, nested_iff, openAfter?_append, hxs.openAfter?, Option.bind_some]

/-! ## The counts of the reader -/

section

variable {t opening closing : Token} {inner front ts : List Token} {depth : Nat}

/-- An opening parenthesis is passed over one level deeper. -/
theorem topLevelFrom_opening (h : t.isPunctuation "(" = true) :
    topLevelFrom depth (t :: ts) = topLevelFrom (depth + 1) ts := by
  rw [topLevelFrom, if_pos h]

/-- A closing parenthesis is passed over one level higher. -/
theorem topLevelFrom_closing (h : t.isPunctuation ")" = true) :
    topLevelFrom (depth + 1) (t :: ts) = topLevelFrom depth ts := by
  rw [topLevelFrom, if_neg (by simp [Token.not_opening_of_closing h]), if_pos h,
    Nat.add_sub_cancel]

/-- Other tokens inside parentheses are passed over. -/
theorem topLevelFrom_plain (hopening : t.isPunctuation "(" = false)
    (hclosing : t.isPunctuation ")" = false) :
    topLevelFrom (depth + 1) (t :: ts) = topLevelFrom (depth + 1) ts := by
  rw [topLevelFrom, if_neg (by simp [hopening]), if_neg (by simp [hclosing]),
    if_neg (Nat.succ_ne_zero depth)]

/-- Other tokens outside parentheses are kept. -/
theorem topLevel_plain (hopening : t.isPunctuation "(" = false)
    (hclosing : t.isPunctuation ")" = false) : topLevel (t :: ts) = t :: topLevel ts := by
  rw [topLevel, topLevelFrom, if_neg (by simp [hopening]), if_neg (by simp [hclosing]), if_pos rfl,
    topLevel]

/-- An opening parenthesis is to be closed too. -/
theorem closeGroup_opening (h : t.isPunctuation "(" = true) :
    closeGroup depth (t :: ts) = closeGroup (depth + 1) ts := by
  rw [closeGroup, if_pos h]

/-- The parenthesis that closes the last level ends the group. -/
theorem closeGroup_closing_one (h : t.isPunctuation ")" = true) :
    closeGroup 1 (t :: ts) = some (t.stop, ts) := by
  rw [closeGroup, if_neg (by simp [Token.not_opening_of_closing h]), if_pos h,
    if_pos (Nat.le_refl 1)]

/-- A parenthesis that closes an inner level leaves the group open. -/
theorem closeGroup_closing (h : t.isPunctuation ")" = true) :
    closeGroup (depth + 2) (t :: ts) = closeGroup (depth + 1) ts := by
  rw [closeGroup, if_neg (by simp [Token.not_opening_of_closing h]), if_pos h, if_neg (by omega)]
  rfl

/-- Other tokens leave the group open. -/
theorem closeGroup_plain (hopening : t.isPunctuation "(" = false)
    (hclosing : t.isPunctuation ")" = false) :
    closeGroup depth (t :: ts) = closeGroup depth ts := by
  rw [closeGroup, if_neg (by simp [hopening]), if_neg (by simp [hclosing])]

/-- No token inside of a parenthesis is kept. -/
theorem Balanced.topLevelFrom_append (h : Balanced inner) (depth : Nat) (ts : List Token) :
    topLevelFrom (depth + 1) (inner ++ ts) = topLevelFrom (depth + 1) ts := by
  induction h generalizing depth ts with
  | nil => rfl
  | plain hopening hclosing _ ih =>
    rw [List.cons_append, topLevelFrom_plain hopening hclosing, ih]
  | group hopening _ hclosing _ ihinner ih =>
    rw [List.cons_append, List.append_assoc, topLevelFrom_opening hopening, ihinner,
      List.cons_append, topLevelFrom_closing hclosing, ih]

/-- A pair of parentheses is left out with what stands inside of it. -/
theorem topLevelFrom_group (hopening : opening.isPunctuation "(" = true) (hinner : Balanced inner)
    (hclosing : closing.isPunctuation ")" = true) (depth : Nat) (ts : List Token) :
    topLevelFrom depth (opening :: (inner ++ closing :: ts)) = topLevelFrom depth ts := by
  rw [topLevelFrom_opening hopening, hinner.topLevelFrom_append, topLevelFrom_closing hclosing]

/-- A group stands outside the top level. -/
theorem topLevel_group (hopening : opening.isPunctuation "(" = true) (hinner : Balanced inner)
    (hclosing : closing.isPunctuation ")" = true) (ts : List Token) :
    topLevel (opening :: (inner ++ closing :: ts)) = topLevel ts :=
  topLevelFrom_group hopening hinner hclosing 0 ts

/-- Behind a balanced row the top level goes on. -/
theorem Balanced.topLevel_append (h : Balanced front) (ts : List Token) :
    topLevel (front ++ ts) = topLevel front ++ topLevel ts := by
  induction h with
  | nil => rfl
  | plain hopening hclosing _ ih =>
    rw [List.cons_append, topLevel_plain hopening hclosing, topLevel_plain hopening hclosing, ih,
      List.cons_append]
  | group hopening hinner hclosing _ _ ih =>
    rw [List.cons_append, List.append_assoc, List.cons_append,
      topLevel_group hopening hinner hclosing, topLevel_group hopening hinner hclosing, ih]

/-- A balanced row is passed over on the way to the end of a group. -/
theorem Balanced.closeGroup_append (h : Balanced inner) (depth : Nat) (ts : List Token) :
    closeGroup (depth + 1) (inner ++ ts) = closeGroup (depth + 1) ts := by
  induction h generalizing depth ts with
  | nil => rfl
  | plain hopening hclosing _ ih => rw [List.cons_append, closeGroup_plain hopening hclosing, ih]
  | group hopening _ hclosing _ ihinner ih =>
    rw [List.cons_append, List.append_assoc, closeGroup_opening hopening, ihinner,
      List.cons_append, closeGroup_closing hclosing, ih]

/-- A group ends at the parenthesis behind its balanced inside. -/
theorem closeGroup_one (hinner : Balanced inner) (hclosing : closing.isPunctuation ")" = true)
    (ts : List Token) : closeGroup 1 (inner ++ closing :: ts) = some (closing.stop, ts) := by
  rw [hinner.closeGroup_append, closeGroup_closing_one hclosing]

/-- A group that is closed holds what leads up to the parenthesis that closes it. -/
theorem exists_of_closeGroup {stop : Nat} {rest : List Token}
    (h : closeGroup (depth + 1) ts = some (stop, rest)) :
    ∃ inner closing, ts = inner ++ closing :: rest ∧ closing.isPunctuation ")" = true ∧
      openAfter? depth inner = some 0 ∧ closing.stop = stop := by
  induction ts generalizing depth with
  | nil => cases h
  | cons t ts ih =>
    rcases t.parenthesis_cases with ⟨ho, -⟩ | ⟨-, hc⟩ | ⟨ho, hc⟩
    · rw [closeGroup_opening ho] at h
      obtain ⟨inner, closing, rfl, hclosing, hinner, hstop⟩ := ih h
      exact ⟨t :: inner, closing, rfl, hclosing, by rw [openAfter?_opening ho, hinner], hstop⟩
    · cases depth with
      | zero =>
        rw [closeGroup_closing_one hc] at h
        obtain ⟨rfl, rfl⟩ := Prod.mk.inj (Option.some.inj h)
        exact ⟨[], t, rfl, hc, rfl, rfl⟩
      | succ depth =>
        rw [closeGroup_closing hc] at h
        obtain ⟨inner, closing, rfl, hclosing, hinner, hstop⟩ := ih h
        exact ⟨t :: inner, closing, rfl, hclosing, by rw [openAfter?_closing hc, hinner], hstop⟩
    · rw [closeGroup_plain ho hc] at h
      obtain ⟨inner, closing, rfl, hclosing, hinner, hstop⟩ := ih h
      exact ⟨t :: inner, closing, rfl, hclosing, by rw [openAfter?_plain ho hc, hinner], hstop⟩

/-- Where a group ends, it ends behind balanced tokens. -/
theorem closeGroup_eq_some {stop : Nat} {rest : List Token}
    (h : closeGroup 1 ts = some (stop, rest)) :
    ∃ inner closing, ts = inner ++ closing :: rest ∧ Balanced inner ∧
      closing.isPunctuation ")" = true ∧ closing.stop = stop := by
  obtain ⟨inner, closing, hts, hclosing, hinner, hstop⟩ := exists_of_closeGroup h
  exact ⟨inner, closing, hts, balanced_iff.mpr hinner, hclosing, hstop⟩

/-- Where a group does not end, all tokens are inside of it. -/
theorem topLevelFrom_of_closeGroup (h : closeGroup (depth + 1) ts = none) :
    topLevelFrom (depth + 1) ts = [] := by
  induction ts generalizing depth with
  | nil => rfl
  | cons t ts ih =>
    rcases t.parenthesis_cases with ⟨ho, -⟩ | ⟨-, hc⟩ | ⟨ho, hc⟩
    · rw [closeGroup_opening ho] at h
      rw [topLevelFrom_opening ho, ih h]
    · cases depth with
      | zero =>
        rw [closeGroup_closing_one hc] at h
        cases h
      | succ depth =>
        rw [closeGroup_closing hc] at h
        rw [topLevelFrom_closing hc, ih h]
    · rw [closeGroup_plain ho hc] at h
      rw [topLevelFrom_plain ho hc, ih h]

end

end EntityMapper.Sql

import EntityMapper.Java.Syntax
import EntityMapper.Proofs.Java.Pieces

/-!
# What a grammar reads

A grammar reads given trees off the front of a row of tokens, whatever number of steps may be nested
beyond a bound.  There is one lemma for each form of grammar, and one for each form that is put
together from these.
-/

namespace EntityMapper.Java

open Grammar

/-! ## Steps of reading -/

namespace Grammar

variable {rules : Rule → Grammar Rule} {fuel : Nat} {g g' : Grammar Rule} {question : Lookahead}
  {ts : List Token}

/-- One token is read if it passes the test; a token that is no token of the language is a lexical
error. -/
theorem read_token (test : TokenTest) (t : Token) (ts : List Token) :
    read rules (fuel + 1) (.token test) (t :: ts) =
      if t.kind = .fault then .error .lexical
      else if test.accepts t then .ok ([.leaf t], ts)
      else .error (misfitBefore ts) := rfl

/-- Two grammars in a row are read one behind the other. -/
theorem read_followedBy : read rules (fuel + 1) (.followedBy g g') ts =
    (read rules fuel g ts >>= fun first => read rules fuel g' first.2 >>= fun second =>
      pure (first.1 ++ second.1, second.2)) := rfl

/-- A choice is read by the answer to its question. -/
theorem read_choose : read rules (fuel + 1) (.choose question g g') ts =
      (question ts >>= fun answer =>
        if answer then read rules fuel g ts else read rules fuel g' ts) :=
  rfl

/-- A loop is read again as long as its question is answered with yes. -/
theorem read_loop : read rules (fuel + 1) (.loop question g) ts =
    (question ts >>= fun answer =>
      if answer then
        read rules fuel g ts >>= fun first => read rules fuel (.loop question g) first.2 >>=
          fun others => pure (first.1 ++ others.1, others.2)
      else pure ([], ts)) := rfl

/-- A rule is read as its grammar, and what it read becomes one node. -/
theorem read_rule (name : Rule) : read rules (fuel + 1) (.rule name) ts =
    (read rules fuel (rules name) ts >>= fun inside =>
      pure ([.node name inside.1], inside.2)) := rfl

/-- Where the first grammar of an attempt misfits the second one is read from the same place. -/
theorem read_attempt (h : read rules fuel g ts = .error .syntactic) :
    read rules (fuel + 1) (.attempt g g') ts = read rules fuel g' ts := by
  rw [read, h]

end Grammar

/-- Reading by a grammar gives the trees and leaves the tokens, if at least so many steps may be
nested. -/
def Reads (bound : Nat) (g : Grammar Rule) (ts : List Token) (parts : List (Tree Rule))
    (rest : List Token) : Prop :=
  ∀ fuel, bound ≤ fuel → Grammar.read Syntax.rules fuel g ts = .ok (parts, rest)

/-- A grammar does not fit the tokens, if at least so many steps may be nested. -/
def Misfits (bound : Nat) (g : Grammar Rule) (ts : List Token) : Prop :=
  ∀ fuel, bound ≤ fuel → Grammar.read Syntax.rules fuel g ts = .error .syntactic

namespace Reads

variable {n n' : Nat} {g g' : Grammar Rule} {ts ts' rest : List Token}
  {parts parts' : List (Tree Rule)} {question : Lookahead} {t : Token} {test : TokenTest}

/-- More fuel reads the same. -/
theorem mono (h : Reads n g ts parts rest) (hn : n ≤ n') : Reads n' g ts parts rest :=
  fun fuel hfuel => h fuel (Nat.le_trans hn hfuel)

/-- A reading may be stated with equal parts and with more fuel. -/
theorem of_eq (h : Reads n g ts parts rest) (hparts : parts = parts') (hn : n ≤ n') :
    Reads n' g ts parts' rest :=
  hparts ▸ h.mono hn

/-! ## The forms of grammars -/

/-- Reading nothing leaves the tokens as they are. -/
theorem nothing : Reads 1 .nothing ts [] ts := by
  intro fuel hfuel
  obtain ⟨fuel, rfl⟩ := Nat.exists_eq_add_of_le' hfuel
  rfl

/-- A token that passes the test is read as a leaf. -/
theorem token (hkind : t.kind ≠ .fault) (h : test.accepts t = true) :
    Reads 1 (.token test) (t :: rest) [.leaf t] rest := by
  intro fuel hfuel
  obtain ⟨fuel, rfl⟩ := Nat.exists_eq_add_of_le' hfuel
  rw [Grammar.read_token, if_neg hkind, if_pos h]

/-- Two readings, the second from where the first one ends, are a reading of the sequence. -/
theorem seq (h : Reads n g ts parts ts') (h' : Reads n' g' ts' parts' rest) :
    Reads (max n n' + 1) (g ++ g') ts (parts ++ parts') rest := by
  intro fuel hfuel
  obtain ⟨fuel, rfl⟩ : ∃ m, fuel = m + 1 := ⟨fuel - 1, by omega⟩
  change (Grammar.read Syntax.rules (fuel + 1) (.followedBy g g') ts) = _
  rw [Grammar.read_followedBy, h fuel (by omega)]
  change (Grammar.read Syntax.rules fuel g' ts' >>= fun second =>
    pure (parts ++ second.1, second.2)) = _
  rw [h' fuel (by omega)]
  rfl

/-- A question answered with yes leads to the first grammar. -/
theorem yes (hquestion : question ts = .ok true) (h : Reads n g ts parts rest) :
    Reads (n + 1) (.choose question g g') ts parts rest := by
  intro fuel hfuel
  obtain ⟨fuel, rfl⟩ : ∃ m, fuel = m + 1 := ⟨fuel - 1, by omega⟩
  rw [Grammar.read_choose, hquestion]
  exact h fuel (by omega)

/-- A question answered with no leads to the second grammar. -/
theorem no (hquestion : question ts = .ok false) (h : Reads n g' ts parts rest) :
    Reads (n + 1) (.choose question g g') ts parts rest := by
  intro fuel hfuel
  obtain ⟨fuel, rfl⟩ : ∃ m, fuel = m + 1 := ⟨fuel - 1, by omega⟩
  rw [Grammar.read_choose, hquestion]
  exact h fuel (by omega)

/-- A loop ends where its question is answered with no. -/
theorem loopEnd (hquestion : question ts = .ok false) :
    Reads 1 (.loop question g) ts [] ts := by
  intro fuel hfuel
  obtain ⟨fuel, rfl⟩ := Nat.exists_eq_add_of_le' hfuel
  rw [Grammar.read_loop, hquestion]
  rfl

/-- A loop goes on where its question is answered with yes. -/
theorem loopStep (hquestion : question ts = .ok true) (h : Reads n g ts parts ts')
    (h' : Reads n' (.loop question g) ts' parts' rest) :
    Reads (max n n' + 1) (.loop question g) ts (parts ++ parts') rest := by
  intro fuel hfuel
  obtain ⟨fuel, rfl⟩ : ∃ m, fuel = m + 1 := ⟨fuel - 1, by omega⟩
  rw [Grammar.read_loop, hquestion]
  change (Grammar.read Syntax.rules fuel g ts >>= fun first =>
    Grammar.read Syntax.rules fuel (.loop question g) first.2 >>= fun others =>
      pure (first.1 ++ others.1, others.2)) = _
  rw [h fuel (by omega)]
  change (Grammar.read Syntax.rules fuel (.loop question g) ts' >>= fun others =>
    pure (parts ++ others.1, others.2)) = _
  rw [h' fuel (by omega)]
  rfl

/-- A reading of its grammar is a reading of the rule. -/
theorem rule {name : Rule} (h : Reads n (Syntax.rules name) ts parts rest) :
    Reads (n + 1) (.rule name) ts [.node name parts] rest := by
  intro fuel hfuel
  obtain ⟨fuel, rfl⟩ : ∃ m, fuel = m + 1 := ⟨fuel - 1, by omega⟩
  rw [Grammar.read_rule, h fuel (by omega)]
  rfl

/-- An attempt that misfits is read by its second grammar. -/
theorem attemptSecond (h : Misfits n g ts) (h' : Reads n' g' ts parts rest) :
    Reads (max n n' + 1) (.attempt g g') ts parts rest := by
  intro fuel hfuel
  obtain ⟨fuel, rfl⟩ : ∃ m, fuel = m + 1 := ⟨fuel - 1, by omega⟩
  rw [Grammar.read_attempt (h fuel (by omega))]
  exact h' fuel (by omega)

/-! ## Forms put together -/

/-- A token with the text asked for is read. -/
theorem mark {kind : TokenKind} {text : String} (hkind : kind ≠ .fault := by decide) :
    Reads 1 (mark text) (⟨kind, text⟩ :: rest) [.leaf ⟨kind, text⟩] rest :=
  token hkind (beq_self_eq_true text)

/-- A token of the kind asked for is read. -/
theorem kind {kind : TokenKind} {text : String} (hkind : kind ≠ .fault := by decide) :
    Reads 1 (.token (.kind kind)) (⟨kind, text⟩ :: rest) [.leaf ⟨kind, text⟩] rest :=
  token hkind (beq_self_eq_true kind)

/-- What is optional is left out where its question is answered with no. -/
theorem skip (hquestion : question ts = .ok false) : Reads 2 (when question g) ts [] ts :=
  no hquestion nothing

/-- One part without a separator behind it is a list of one. -/
theorem separatedOne {separator : String} (h : Reads n g ts parts rest)
    (hquestion : next separator rest = .ok false) :
    Reads (max n 1 + 1) (separated separator g) ts parts rest := by
  have hseq : Reads (max n 1 + 1) (separated separator g) ts (parts ++ []) rest :=
    h.seq (loopEnd hquestion)
  rwa [List.append_nil] at hseq

/-- The first of several grammars is chosen whose question is answered with yes. -/
theorem choice {options : List (Lookahead × Grammar Rule)} {last : Grammar Rule} (i : Nat)
    (hi : options[i]? = some (question, g))
    (hbefore : ∀ option ∈ options.take i, option.1 ts = .ok false)
    (hquestion : question ts = .ok true) (h : Reads n g ts parts rest) :
    Reads (n + i + 1) (cases options last) ts parts rest := by
  induction i generalizing options with
  | zero =>
    obtain ⟨option, others, rfl⟩ : ∃ option others, options = option :: others :=
      List.exists_cons_of_ne_nil fun hnil => by simp [hnil] at hi
    obtain rfl : option = (question, g) := by simpa using hi
    exact yes hquestion h
  | succ i ih =>
    obtain ⟨option, others, rfl⟩ : ∃ option others, options = option :: others :=
      List.exists_cons_of_ne_nil fun hnil => by simp [hnil] at hi
    rw [List.take_succ_cons, List.forall_mem_cons] at hbefore
    exact no hbefore.1 (ih hi hbefore.2)

/-- The last of several grammars is chosen if all questions are answered with no. -/
theorem lastChoice {options : List (Lookahead × Grammar Rule)}
    (hbefore : ∀ option ∈ options, option.1 ts = .ok false) (h : Reads n g ts parts rest) :
    Reads (n + options.length) (cases options g) ts parts rest := by
  induction options with
  | nil => exact h
  | cons option options ih =>
    rw [List.forall_mem_cons] at hbefore
    exact (no hbefore.1 (ih hbefore.2)).mono (by simp only [List.length_cons]; omega)

end Reads

/-! ## Questions -/

section Questions

variable {ts : List Token} {test : TokenTest} {tests : List TokenTest}

/-- No tests always pass. -/
@[simp] theorem following_nil : following [] ts = .ok true := by
  cases ts <;> rfl

/-- Tests pass if the first one does and the others do behind it. -/
@[simp] theorem following_cons {kind : TokenKind} {text : String} :
    following (test :: tests) (⟨kind, text⟩ :: ts) =
      if kind = .fault then .error .lexical
      else if test.accepts ⟨kind, text⟩ then following tests ts
      else .ok false := rfl

@[simp] theorem ok_bind {α β : Type} (a : α) (f : α → Except Fault β) :
    ((.ok a : Except Fault α) >>= f) = f a := rfl

@[simp] theorem pure_eq_ok {α : Type} (a : α) : (pure a : Except Fault α) = .ok a := rfl

attribute [simp] next nextAmong nextKind negated both either TokenTest.accepts Except.map
  Syntax.nextNameThen Syntax.nextMarks Syntax.beginsAnnotationUse
  Syntax.beginsAnnotationDeclaration

end Questions

/-! ## Tokens of names and literals -/

/-- The token of a name. -/
abbrev nameToken (w : String) : Token :=
  ⟨.identifier, w⟩

/-- A text that is no name and no string literal. -/
def isFixed (text : String) : Bool :=
  !isName text.toList && text.toList.head? != some '"'

/-- No string literal is one of the fixed texts. -/
theorem literal_ne {s text : String} (h : isFixed text = true) : literal s ≠ text := by
  rintro rfl
  simp [isFixed, literal] at h

/-- No name is one of the fixed texts. -/
theorem name_ne {w text : String} (hw : isName w.toList = true) (h : isFixed text = true) :
    w ≠ text := by
  rintro rfl
  simp [isFixed, hw] at h

end EntityMapper.Java

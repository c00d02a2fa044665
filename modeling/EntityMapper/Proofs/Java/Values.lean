import EntityMapper.Proofs.Java.Reading

/-!
# Values

The expressions of a generated class: string literals, the word for no, names, and constants of a
type.  Each is read as one operand in front of the signs that it can stand before.
-/

namespace EntityMapper.Java

open Grammar Syntax

/-- An expression of a generated class. -/
inductive Value where
  | quoted (s : String)
  | no
  | name (w : String)
  | constant (type w : String)

namespace Value

/-- A value as it is written. -/
def pieces : Value → List Piece
  | quoted s => [.quoted s]
  | no => [.word "false"]
  | name w => [.word w]
  | constant type w => [.word type, .sign '.', .word w]

/-- The tokens of a value. -/
def tokens : Value → List Token
  | quoted s => [⟨.literal, literal s⟩]
  | no => [⟨.literal, "false"⟩]
  | name w => [nameToken w]
  | constant type w => [nameToken type, ⟨.separator, "."⟩, nameToken w]

/-- Whether the names in a value are names. -/
def isSound : Value → Bool
  | quoted _ | no => true
  | name w => isName w.toList
  | constant type w => isName type.toList && isName w.toList

/-- A value as an operand that is read. -/
def tree (v : Value) : Tree Rule :=
  .node .conditional [.node .operand [.node .primary (v.tokens.map .leaf)]]

variable {v : Value} {stop : Token} {rest : List Token}

/-- The pieces of a sound value make up its tokens. -/
theorem tokensOf_pieces (hv : v.isSound = true) : Piece.tokensOf v.pieces = v.tokens := by
  cases v with
  | quoted s => rfl
  | no => rfl
  | name w =>
    have hw : wordKind w = .identifier := wordKind_of_isName hv
    simp [pieces, tokens, Piece.tokens, hw]
  | constant type w =>
    rw [isSound, Bool.and_eq_true] at hv
    simp [pieces, tokens, Piece.tokens, wordKind_of_isName hv.1, wordKind_of_isName hv.2]
    decide

/-- The pieces of a sound value are sound. -/
theorem isSound_pieces (hv : v.isSound = true) : ∀ p ∈ v.pieces, p.isSound = true := by
  cases v with
  | quoted s => simp [pieces, Piece.isSound]
  | no => decide
  | name w => simpa [pieces] using Piece.isSound_of_isName (w := w) hv
  | constant type w =>
    rw [isSound, Bool.and_eq_true] at hv
    simp only [pieces, List.forall_mem_cons]
    exact ⟨Piece.isSound_of_isName hv.1, by decide, Piece.isSound_of_isName hv.2, by simp⟩

/-- The signs that stand behind values. -/
def stops : List Token :=
  [⟨.separator, ","⟩, ⟨.separator, ")"⟩, ⟨.separator, ";"⟩, ⟨.operator, "="⟩]

/-- What holds of the separators and of the equals sign holds of every stop. -/
theorem forall_stops {P : Token → Prop} (hstop : stop ∈ stops)
    (h : ∀ text ∈ [",", ")", ";"], P ⟨.separator, text⟩) (h' : P ⟨.operator, "="⟩) : P stop := by
  simp only [stops, List.mem_cons, List.not_mem_nil, or_false] at hstop
  rcases hstop with rfl | rfl | rfl | rfl
  · exact h _ (by decide)
  · exact h _ (by decide)
  · exact h _ (by decide)
  · exact h'

/-- A name, with the names behind dots that follow it, is a primary expression. -/
theorem reads_path {w : String} {ts : List Token} {parts : List (Tree Rule)}
    (hw : isName w.toList = true) (hstop : stop ∈ stops)
    (h : Reads 5 (.loop (following [.text ".", .kind .identifier]) (mark "." ++ identifier)) ts
      parts (stop :: rest)) :
    Reads 40 (.rule .primary) (nameToken w :: ts) [.node .primary (.leaf (nameToken w) :: parts)]
      (stop :: rest) := by
  have hsuffix : Reads 8 identifierSuffix (stop :: rest) [] (stop :: rest) := by
    refine (Reads.lastChoice ?_ .nothing).mono (by decide)
    apply forall_stops hstop <;> simp
  refine (Reads.rule (Reads.choice 7 rfl ?_ rfl
    (.seq (.seq .kind h) hsuffix))).of_eq (by simp) (by decide)
  simp (disch := decide) [primaryCases, name_ne hw]

/-- A sound value is read as a primary expression. -/
theorem reads_primary (hv : v.isSound = true) (hstop : stop ∈ stops) :
    Reads 40 (.rule .primary) (v.tokens ++ stop :: rest) [.node .primary (v.tokens.map .leaf)]
      (stop :: rest) := by
  have hliteral : ∀ text, Reads 40 (.rule .primary) (⟨.literal, text⟩ :: stop :: rest)
      [.node .primary [.leaf ⟨.literal, text⟩]] (stop :: rest) := fun text =>
    (Reads.rule (Reads.choice 0 rfl (by simp) rfl .kind)).mono (by decide)
  have hend : Reads 1 (.loop (following [.text ".", .kind .identifier]) (mark "." ++ identifier))
      (stop :: rest) [] (stop :: rest) :=
    Reads.loopEnd (by apply forall_stops hstop <;> simp)
  cases v with
  | quoted s => exact hliteral _
  | no => exact hliteral _
  | name w => exact reads_path hv hstop (hend.mono (by decide))
  | constant type w =>
    rw [isSound, Bool.and_eq_true] at hv
    have hdot : Reads 2 (mark "." ++ identifier)
        (⟨.separator, "."⟩ :: nameToken w :: stop :: rest)
        [.leaf ⟨.separator, "."⟩, .leaf (nameToken w)] (stop :: rest) :=
      .seq .mark .kind
    exact reads_path hv.1 hstop ((Reads.loopStep rfl hdot hend).of_eq rfl (by decide))

/-- What a conditional expression made of one operand may begin with. -/
def beginsOperand (t : Token) : Prop :=
  t.kind ≠ .fault ∧ t.text ≠ "(" ∧ t.text ∉ prefixOperators

/-- A primary expression and its selectors are read as a conditional of this one operand. -/
theorem reads_operand {n n' : Nat} {first : Token} {ts ts' : List Token}
    {parts parts' : List (Tree Rule)} (hfirst : beginsOperand first)
    (hprimary : Reads n (.rule .primary) (first :: ts) parts ts')
    (hselectors : Reads n' (.loop (nextAmong ["[", "."]) selector) ts' parts' (stop :: rest))
    (hstop : stop ∈ stops) :
    Reads (max n n' + 20) (.rule .conditional) (first :: ts)
      [.node .conditional [.node .operand (parts ++ parts')]] (stop :: rest) := by
  obtain ⟨kind, text⟩ := first
  obtain ⟨hkind, hparen, hprefix⟩ := hfirst
  have hpostfix : Reads 1 (.loop (nextAmong postfixOperators) (.token (.among postfixOperators)))
      (stop :: rest) [] (stop :: rest) :=
    Reads.loopEnd (by apply forall_stops hstop <;> simp [postfixOperators])
  have hexpression : Reads (max n n' + 4) primaryExpression (⟨kind, text⟩ :: ts) (parts ++ parts')
      (stop :: rest) :=
    (Reads.seq (.seq hprimary hselectors) hpostfix).of_eq (by simp) (by omega)
  have hoperand : Reads (max n n' + 8) (.rule .operand) (⟨kind, text⟩ :: ts)
      [.node .operand (parts ++ parts')] (stop :: rest) := by
    have hloop : Reads 1 (.loop (nextAmong prefixOperators) (.token (.among prefixOperators)))
        (⟨kind, text⟩ :: ts) [] (⟨kind, text⟩ :: ts) :=
      Reads.loopEnd (by simpa [hkind] using hprefix)
    have hquestion : next "(" (⟨kind, text⟩ :: ts) = .ok false := by simpa [hkind] using hparen
    exact (Reads.rule (.seq hloop (.no hquestion hexpression))).mono (by omega)
  have hinfix : Reads 1 (.loop (nextAmong ("instanceof" :: infixOperators))
      (.choose (next "instanceof") (Grammar.mark "instanceof" ++ Grammar.rule Rule.type)
        (infixOperator ++ Grammar.rule Rule.operand))) (stop :: rest) [] (stop :: rest) :=
    Reads.loopEnd (by apply forall_stops hstop <;> simp [infixOperators])
  have hend : Reads 4 (cases
        [(next "?", Grammar.mark "?" ++ Grammar.rule Rule.expression ++ Grammar.mark ":" ++
          Grammar.rule Rule.conditional),
         (next "->", lambdaBody),
         (next "::",
          Grammar.mark "::" ++ when (next "<") plainTypeArguments ++
            Grammar.choose (next "new") (Grammar.mark "new") (.rule .expression))]
        .nothing) (stop :: rest) [] (stop :: rest) := by
    refine (Reads.lastChoice ?_ .nothing).mono (by decide)
    apply forall_stops hstop <;> simp
  exact (Reads.rule (.seq (.seq hoperand hinfix) hend)).of_eq (by simp) (by omega)

/-- A sound value begins with a token that begins an operand. -/
theorem beginsOperand_value (hv : v.isSound = true) :
    ∃ first ts, v.tokens = first :: ts ∧ beginsOperand first := by
  have hquoted : ∀ s, beginsOperand ⟨.literal, literal s⟩ := fun s => by
    simp (disch := decide) [beginsOperand, prefixOperators, literal_ne]
  have hname : ∀ w : String, isName w.toList = true → beginsOperand (nameToken w) :=
    fun w hw => by simp (disch := decide) [beginsOperand, prefixOperators, name_ne hw]
  cases v with
  | quoted s => exact ⟨_, [], rfl, hquoted s⟩
  | no => exact ⟨_, [], rfl, by simp [beginsOperand, prefixOperators]⟩
  | name w => exact ⟨_, [], rfl, hname w hv⟩
  | constant type w =>
    rw [isSound, Bool.and_eq_true] at hv
    exact ⟨_, _, rfl, hname type hv.1⟩

/-- A value is read as an operand. -/
theorem reads_value (hv : v.isSound = true) (hstop : stop ∈ stops) :
    Reads 60 (.rule .conditional) (v.tokens ++ stop :: rest) [v.tree] (stop :: rest) := by
  obtain ⟨first, ts, htokens, hfirst⟩ := beginsOperand_value hv
  have hprimary : Reads 40 (.rule .primary) (v.tokens ++ stop :: rest)
      [.node .primary (v.tokens.map .leaf)] (stop :: rest) :=
    reads_primary hv hstop
  have hselectors : Reads 1 (.loop (nextAmong ["[", "."]) selector) (stop :: rest) []
      (stop :: rest) :=
    Reads.loopEnd (by apply forall_stops hstop <;> simp)
  rw [htokens] at hprimary
  rw [tree, htokens]
  exact (reads_operand hfirst hprimary hselectors hstop).of_eq (by simp) (by decide)

end Value

end EntityMapper.Java

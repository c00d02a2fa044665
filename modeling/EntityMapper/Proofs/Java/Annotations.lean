import EntityMapper.Proofs.Java.Values

/-!
# Annotations

The annotations of a generated class: a name with nothing, a value, or one or two named values in
parentheses.  Each is read as one annotation in front of another one or of a modifier.
-/

namespace EntityMapper.Java

open Grammar Syntax

/-- What an annotation is given. -/
inductive Arguments where
  | none
  | value (v : Value)
  | pair (key : String) (v : Value)
  | pairs (key : String) (v : Value) (key' : String) (v' : Value)

/-- An annotation of a generated class. -/
structure Annotation where
  name : String
  arguments : Arguments := .none

/-- What stands behind an annotation: another one, or a modifier. -/
def EndsAnnotation (t : Token) : Prop :=
  t = ⟨.atSign, "@"⟩ ∨ ∃ text, t = ⟨.modifier, text⟩ ∧ text ≠ "(" ∧ text ≠ "."

/-- Behind an annotation comes neither a parenthesis nor a dot that would go on with it. -/
theorem EndsAnnotation.next {t : Token} {rest : List Token} (ht : EndsAnnotation t)
    {text : String} (htext : text = "(" ∨ text = ".") :
    next text (t :: rest) = .ok false := by
  rcases ht with rfl | ⟨word, rfl, hparen, hdot⟩
  · rcases htext with rfl | rfl <;> rfl
  · rcases htext with rfl | rfl <;> simpa

namespace Arguments

/-- A named value as it is written. -/
def pairPieces (key : String) (v : Value) : List Piece :=
  [.word key, .blank ' ', .sign '=', .blank ' '] ++ v.pieces

/-- The arguments as they are written. -/
def pieces : Arguments → List Piece
  | none => []
  | value v => .sign '(' :: v.pieces ++ [.sign ')']
  | pair key v => .sign '(' :: pairPieces key v ++ [.sign ')']
  | pairs key v key' v' =>
    .sign '(' :: pairPieces key v ++ [.sign ',', .blank ' '] ++ pairPieces key' v' ++ [.sign ')']

/-- The tokens of a named value. -/
def pairTokens (key : String) (v : Value) : List Token :=
  nameToken key :: ⟨.operator, "="⟩ :: v.tokens

/-- The tokens of the arguments. -/
def tokens : Arguments → List Token
  | none => []
  | value v => ⟨.separator, "("⟩ :: v.tokens ++ [⟨.separator, ")"⟩]
  | pair key v => ⟨.separator, "("⟩ :: pairTokens key v ++ [⟨.separator, ")"⟩]
  | pairs key v key' v' =>
    ⟨.separator, "("⟩ :: pairTokens key v ++ ⟨.separator, ","⟩ :: pairTokens key' v' ++
      [⟨.separator, ")"⟩]

/-- Whether the names in the arguments are names. -/
def isSound : Arguments → Bool
  | none => true
  | value v => v.isSound
  | pair key v => isName key.toList && v.isSound
  | pairs key v key' v' =>
    isName key.toList && v.isSound && (isName key'.toList && v'.isSound)

/-- A value as it is read in an annotation. -/
def valueTree (v : Value) : Tree Rule :=
  .node .elementValue [v.tree]

/-- A named value as it is read. -/
def pairTrees (key : String) (v : Value) : List (Tree Rule) :=
  [.leaf (nameToken key), .leaf ⟨.operator, "="⟩, valueTree v]

/-- The arguments as they are read. -/
def trees : Arguments → List (Tree Rule)
  | none => []
  | value v => [.leaf ⟨.separator, "("⟩, valueTree v, .leaf ⟨.separator, ")"⟩]
  | pair key v => .leaf ⟨.separator, "("⟩ :: pairTrees key v ++ [.leaf ⟨.separator, ")"⟩]
  | pairs key v key' v' =>
    .leaf ⟨.separator, "("⟩ :: pairTrees key v ++ .leaf ⟨.separator, ","⟩ :: pairTrees key' v' ++
      [.leaf ⟨.separator, ")"⟩]

variable {v : Value} {key : String} {stop t : Token} {rest : List Token} {a : Arguments}

/-- The pieces of a pair make up its tokens. -/
theorem tokensOf_pairPieces (hkey : isName key.toList = true) (hv : v.isSound = true) :
    Piece.tokensOf (pairPieces key v) = pairTokens key v := by
  simp [pairPieces, pairTokens, Piece.tokens, Value.tokensOf_pieces hv, wordKind_of_isName hkey]
  decide

/-- The pieces of sound arguments make up their tokens. -/
theorem tokensOf_pieces (ha : a.isSound = true) : Piece.tokensOf a.pieces = a.tokens := by
  cases a with
  | none => rfl
  | value v =>
    rw [pieces, Piece.tokensOf_append, Piece.tokensOf_cons, Value.tokensOf_pieces ha]
    rfl
  | pair key v =>
    rw [isSound, Bool.and_eq_true] at ha
    rw [pieces, Piece.tokensOf_append, Piece.tokensOf_cons, tokensOf_pairPieces ha.1 ha.2]
    rfl
  | pairs key v key' v' =>
    rw [isSound, Bool.and_eq_true, Bool.and_eq_true, Bool.and_eq_true] at ha
    obtain ⟨⟨hkey, hv⟩, hkey', hv'⟩ := ha
    simp [pieces, tokens, tokensOf_pairPieces hkey hv, tokensOf_pairPieces hkey' hv', Piece.tokens]
    decide

/-- The pieces of a pair with a name and a sound value are sound. -/
theorem isSound_pairPieces (hkey : isName key.toList = true) (hv : v.isSound = true) :
    ∀ p ∈ pairPieces key v, p.isSound = true := by
  simp only [pairPieces, List.cons_append, List.nil_append, List.forall_mem_cons]
  exact ⟨Piece.isSound_of_isName hkey, rfl, rfl, rfl, Value.isSound_pieces hv⟩

/-- The pieces of sound arguments are sound. -/
theorem isSound_pieces (ha : a.isSound = true) : ∀ p ∈ a.pieces, p.isSound = true := by
  cases a with
  | none => simp [pieces]
  | value v =>
    simp only [pieces, List.cons_append, List.forall_mem_cons, List.forall_mem_append]
    exact ⟨rfl, Value.isSound_pieces ha, rfl, by simp⟩
  | pair key v =>
    rw [isSound, Bool.and_eq_true] at ha
    simp only [pieces, List.cons_append, List.forall_mem_cons, List.forall_mem_append]
    exact ⟨rfl, isSound_pairPieces ha.1 ha.2, rfl, by simp⟩
  | pairs key v key' v' =>
    rw [isSound, Bool.and_eq_true, Bool.and_eq_true, Bool.and_eq_true] at ha
    obtain ⟨⟨hkey, hv⟩, hkey', hv'⟩ := ha
    simp only [pieces, List.cons_append, List.forall_mem_cons, List.forall_mem_append]
    exact ⟨rfl, ⟨⟨isSound_pairPieces hkey hv, rfl, rfl, by simp⟩, isSound_pairPieces hkey' hv'⟩,
      rfl, by simp⟩

/-- The pieces of arguments do not run into each other. -/
theorem spaced_pieces (a : Arguments) : Piece.spaced a.pieces = true := by
  cases a with
  | none => rfl
  | value v => cases v <;> rfl
  | pair key v => cases v <;> rfl
  | pairs key v key' v' => cases v <;> cases v' <;> rfl

/-- A sound value is read up to the token that stops it. -/
theorem reads_elementValue (hv : v.isSound = true) (hstop : stop ∈ Value.stops) :
    Reads 70 (.rule .elementValue) (v.tokens ++ stop :: rest) [valueTree v] (stop :: rest) := by
  refine (Reads.rule (.lastChoice ?_ (Value.reads_value hv hstop))).mono (by decide)
  cases v with
  | quoted s => simp (disch := decide) [Value.tokens, literal_ne]
  | no => simp [Value.tokens]
  | name w => simp (disch := decide) [Value.tokens, name_ne (w := w) hv]
  | constant type w =>
    rw [Value.isSound, Bool.and_eq_true] at hv
    simp (disch := decide) [Value.tokens, name_ne hv.1]

/-- A pair is read up to the token that stops its value. -/
theorem reads_pair (hv : v.isSound = true) (hstop : stop ∈ Value.stops) :
    Reads 80 elementPair (pairTokens key v ++ stop :: rest) (pairTrees key v) (stop :: rest) :=
  (Reads.seq (.seq .kind .mark) (reads_elementValue hv hstop)).of_eq rfl (by decide)

/-- What is read in the parentheses of an annotation. -/
def insideParentheses : Part :=
  orEmpty ")" (.choose (nextNameThen "=") (separated "," elementPair) (.rule .elementValue))

/-- Where a name and an equals sign stand inside the parentheses, pairs are read. -/
theorem reads_inside_pairs {parts : List (Tree Rule)} {ts : List Token}
    (hkey : isName key.toList = true)
    (h : Reads 90 (separated "," elementPair) (pairTokens key v ++ ts) parts
      (⟨.separator, ")"⟩ :: rest)) :
    Reads 95 insideParentheses (pairTokens key v ++ ts) parts (⟨.separator, ")"⟩ :: rest) := by
  have hopen : negated (next ")") (pairTokens key v ++ ts) = .ok true := by
    simp (disch := decide) [pairTokens, name_ne hkey]
  exact (Reads.yes hopen (.yes rfl h)).mono (by decide)

/-- A sound value alone inside the parentheses is read. -/
theorem reads_inside_value (hv : v.isSound = true) :
    Reads 95 insideParentheses (v.tokens ++ ⟨.separator, ")"⟩ :: rest) [valueTree v]
      (⟨.separator, ")"⟩ :: rest) := by
  have hquestions : negated (next ")") (v.tokens ++ ⟨.separator, ")"⟩ :: rest) = .ok true ∧
      nextNameThen "=" (v.tokens ++ ⟨.separator, ")"⟩ :: rest) = .ok false := by
    cases v with
    | quoted s => simp (disch := decide) [Value.tokens, literal_ne]
    | no => simp [Value.tokens]
    | name w => simp (disch := decide) [Value.tokens, name_ne (w := w) hv]
    | constant type w =>
      rw [Value.isSound, Bool.and_eq_true] at hv
      simp (disch := decide) [Value.tokens, name_ne hv.1]
  have hvalue : Reads 70 (.rule .elementValue) (v.tokens ++ ⟨.separator, ")"⟩ :: rest)
      [valueTree v] (⟨.separator, ")"⟩ :: rest) :=
    reads_elementValue hv (by decide)
  exact (Reads.yes hquestions.1 (.no hquestions.2 hvalue)).mono (by decide)

/-- The arguments of an annotation are read with their parentheses. -/
theorem reads_arguments (ha : a.isSound = true) (ht : EndsAnnotation t) :
    Reads 110 (after "(" (insideParentheses ++ mark ")")) (a.tokens ++ t :: rest) a.trees
      (t :: rest) := by
  have hparens : ∀ {ts parts}, Reads 95 insideParentheses (ts ++ ⟨.separator, ")"⟩ :: t :: rest)
      parts (⟨.separator, ")"⟩ :: t :: rest) →
      Reads 110 (after "(" (insideParentheses ++ mark ")"))
        (⟨.separator, "("⟩ :: ts ++ ⟨.separator, ")"⟩ :: t :: rest)
        (.leaf ⟨.separator, "("⟩ :: parts ++ [.leaf ⟨.separator, ")"⟩]) (t :: rest) :=
    fun h => (Reads.yes rfl (.seq .mark (.seq h .mark))).of_eq rfl (by decide)
  cases a with
  | none => exact (Reads.skip (ht.next (.inl rfl))).mono (by decide)
  | value v => simpa [tokens, trees] using hparens (reads_inside_value ha)
  | pair key v =>
    rw [isSound, Bool.and_eq_true] at ha
    have hpair : Reads 82 (separated "," elementPair)
        (pairTokens key v ++ ⟨.separator, ")"⟩ :: t :: rest) (pairTrees key v)
        (⟨.separator, ")"⟩ :: t :: rest) :=
      (Reads.separatedOne (reads_pair ha.2 (by decide)) rfl).mono (by decide)
    have hinside := reads_inside_pairs ha.1 (hpair.mono (by decide))
    simpa [tokens, trees] using hparens hinside
  | pairs key v key' v' =>
    rw [isSound, Bool.and_eq_true, Bool.and_eq_true, Bool.and_eq_true] at ha
    obtain ⟨⟨hkey, hv⟩, hkey', hv'⟩ := ha
    have hfirst : Reads 80 elementPair
        (pairTokens key v ++ ⟨.separator, ","⟩ ::
          (pairTokens key' v' ++ ⟨.separator, ")"⟩ :: t :: rest))
        (pairTrees key v)
        (⟨.separator, ","⟩ :: (pairTokens key' v' ++ ⟨.separator, ")"⟩ :: t :: rest)) :=
      reads_pair hv (by decide)
    have hsecond : Reads 80 elementPair (pairTokens key' v' ++ ⟨.separator, ")"⟩ :: t :: rest)
        (pairTrees key' v') (⟨.separator, ")"⟩ :: t :: rest) :=
      reads_pair hv' (by decide)
    have hmore : Reads 85 (.loop (next ",") (mark "," ++ elementPair))
        (⟨.separator, ","⟩ :: (pairTokens key' v' ++ ⟨.separator, ")"⟩ :: t :: rest))
        (.leaf ⟨.separator, ","⟩ :: pairTrees key' v') (⟨.separator, ")"⟩ :: t :: rest) :=
      (Reads.loopStep rfl (.seq .mark hsecond) (.loopEnd rfl)).of_eq (by simp) (by decide)
    have hpairs : Reads 90 (separated "," elementPair)
        (pairTokens key v ++ ⟨.separator, ","⟩ ::
          (pairTokens key' v' ++ ⟨.separator, ")"⟩ :: t :: rest))
        (pairTrees key v ++ .leaf ⟨.separator, ","⟩ :: pairTrees key' v')
        (⟨.separator, ")"⟩ :: t :: rest) :=
      (Reads.seq hfirst hmore).mono (by decide)
    have hinside : Reads 95 insideParentheses
        ((pairTokens key v ++ ⟨.separator, ","⟩ :: pairTokens key' v') ++
          ⟨.separator, ")"⟩ :: t :: rest)
        (pairTrees key v ++ .leaf ⟨.separator, ","⟩ :: pairTrees key' v')
        (⟨.separator, ")"⟩ :: t :: rest) := by
      simpa using reads_inside_pairs hkey hpairs
    simpa [tokens, trees] using hparens hinside

end Arguments

namespace Annotation

/-- An annotation as it is written. -/
def pieces (a : Annotation) : List Piece :=
  .sign '@' :: .word a.name :: a.arguments.pieces

/-- The tokens of an annotation. -/
def tokens (a : Annotation) : List Token :=
  ⟨.atSign, "@"⟩ :: nameToken a.name :: a.arguments.tokens

/-- Whether the names in an annotation are names. -/
def isSound (a : Annotation) : Bool :=
  isName a.name.toList && a.arguments.isSound

/-- An annotation as it is read. -/
def tree (a : Annotation) : Tree Rule :=
  .node .annotationUse (.leaf ⟨.atSign, "@"⟩ :: .node .qualifiedName [.leaf (nameToken a.name)] ::
    a.arguments.trees)

variable {a : Annotation} {t : Token} {rest : List Token}

/-- The pieces of a sound annotation make up its tokens. -/
theorem tokensOf_pieces (ha : a.isSound = true) : Piece.tokensOf a.pieces = a.tokens := by
  rw [isSound, Bool.and_eq_true] at ha
  simp [pieces, tokens, Piece.tokens, wordKind_of_isName ha.1, Arguments.tokensOf_pieces ha.2]
  decide

/-- The pieces of a sound annotation are sound. -/
theorem isSound_pieces (ha : a.isSound = true) : ∀ p ∈ a.pieces, p.isSound = true := by
  rw [isSound, Bool.and_eq_true] at ha
  simp only [pieces, List.forall_mem_cons]
  exact ⟨rfl, Piece.isSound_of_isName ha.1, Arguments.isSound_pieces ha.2⟩

/-- The pieces of an annotation do not run into each other. -/
theorem spaced_pieces (a : Annotation) : Piece.spaced a.pieces = true := by
  obtain ⟨name, arguments⟩ := a
  have harguments := Arguments.spaced_pieces arguments
  cases arguments with
  | none => rfl
  | value v => exact harguments
  | pair key v => exact harguments
  | pairs key v key' v' => exact harguments

/-- The use of a sound annotation is read as its tree. -/
theorem reads_use (ha : a.isSound = true) (ht : EndsAnnotation t) :
    Reads 120 (.rule .annotationUse) (a.tokens ++ t :: rest) [a.tree] (t :: rest) := by
  rw [isSound, Bool.and_eq_true] at ha
  have hdot : next "." (a.arguments.tokens ++ t :: rest) = .ok false := by
    cases a.arguments with
    | none => exact ht.next (.inr rfl)
    | value v => rfl
    | pair key v => rfl
    | pairs key v key' v' => rfl
  have hname : Reads 5 (.rule .qualifiedName)
      (nameToken a.name :: (a.arguments.tokens ++ t :: rest))
      [.node .qualifiedName [.leaf (nameToken a.name)]] (a.arguments.tokens ++ t :: rest) :=
    (Reads.rule (.separatedOne .kind hdot)).mono (by decide)
  exact (Reads.rule (.seq (.seq .mark hname) (Arguments.reads_arguments ha.2 ht))).of_eq rfl
    (by decide)

/-- Annotations and a modifier are read in front of what is neither. -/
theorem reads_modifiers {uses : List Annotation} (huses : ∀ a ∈ uses, a.isSound = true)
    {text : String} (htext : text ≠ "(" ∧ text ≠ ".") {kind : TokenKind} {text' : String}
    (hkind : kind ∉ [.modifier, .atSign, .fault]) :
    Reads (130 + uses.length) (.rule .modifiers)
      (uses.flatMap tokens ++ ⟨.modifier, text⟩ :: ⟨kind, text'⟩ :: rest)
      [.node .modifiers (uses.map tree ++ [.leaf ⟨.modifier, text⟩])] (⟨kind, text'⟩ :: rest) := by
  suffices h : Reads (129 + uses.length) modifierList
      (uses.flatMap tokens ++ ⟨.modifier, text⟩ :: ⟨kind, text'⟩ :: rest)
      (uses.map tree ++ [.leaf ⟨.modifier, text⟩]) (⟨kind, text'⟩ :: rest) from
    (Reads.rule h).mono (by omega)
  simp only [List.mem_cons, List.not_mem_nil, or_false, not_or] at hkind
  induction uses with
  | nil =>
    have hend : Reads 1 modifierList (⟨kind, text'⟩ :: rest) [] (⟨kind, text'⟩ :: rest) :=
      Reads.loopEnd (by simp [hkind])
    exact (Reads.loopStep (by simp) (.yes (by simp) .kind) hend).of_eq (by simp) (by simp)
  | cons a uses ih =>
    obtain ⟨ha, huses⟩ := List.forall_mem_cons.mp huses
    have hname : a.name ≠ "interface" :=
      name_ne ((Bool.and_eq_true _ _).mp ha).1 (by decide)
    obtain ⟨t, ts, hrest, ht⟩ : ∃ t ts,
        uses.flatMap tokens ++ ⟨.modifier, text⟩ :: ⟨kind, text'⟩ :: rest = t :: ts ∧
          EndsAnnotation t := by
      cases uses with
      | nil => exact ⟨_, _, rfl, .inr ⟨text, rfl, htext⟩⟩
      | cons a uses => exact ⟨_, _, rfl, .inl rfl⟩
    have huse : Reads 120 (.rule .annotationUse) (a.tokens ++ t :: ts) [a.tree] (t :: ts) :=
      reads_use ha ht
    rw [← hrest] at huse
    have hquestion : either (nextKind .modifier) beginsAnnotationUse (a.tokens ++
        (uses.flatMap tokens ++ ⟨.modifier, text⟩ :: ⟨kind, text'⟩ :: rest)) = .ok true := by
      simp [tokens, hname]
    have hstep := Reads.loopStep hquestion (.no (by simp [tokens]) huse) (ih huses)
    rw [List.flatMap_cons, List.append_assoc]
    exact hstep.of_eq (by simp) (by rw [List.length_cons]; omega)

end Annotation

end EntityMapper.Java

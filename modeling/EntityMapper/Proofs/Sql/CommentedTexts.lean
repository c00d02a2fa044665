import EntityMapper.Proofs.Sql.Comments

/-!
# Comments in texts of several statements

A comment next to white space anywhere in a text: inside a statement, in front of one, or behind the
end of one. The lexemes in front of it are known and it is a lexeme of its own, so the text is cut
into the same parts, one of which holds the comment. That part declares the same table with the
comment as without it, but for the declared types that the comment stands in.
-/

namespace EntityMapper.Sql

open Schema Text

/-! ## The first table among the parts of a text -/

/-- The first table that one of the parts of a text declares. -/
def firstTable? [DelimiterForm] (parts : List (List Char)) : Option Table :=
  parts.findSome? fun part => (tableOf? (strip part)).map (·.1)

/-- What is read from a text is the first table that one of its parts declares. -/
theorem toOption_read [DelimiterForm] (cs : List Char) :
    (read (String.ofList cs)).result.toOption =
      firstTable? ((cut {} [] (lexemes cs)).map textOf) := by
  have hresult : (read (String.ofList cs)).result.toOption =
      ((statements cs).findSome? tableOf?).map (·.1) := by
    rw [read, String.toList_ofList]
    cases (statements cs).findSome? tableOf? with
    | none => rfl
    | some found => rfl
  rw [hresult, findSome?_statements, List.map_findSome?, firstTable?]
  rfl

/-- A part without text declares no table. -/
theorem firstTable?_concat_nil [DelimiterForm] (parts : List (List Char)) :
    firstTable? (parts ++ [[]]) = firstTable? parts := by
  have hnone : tableOf? (strip []) = none := tableOf?_strip_blank nofun
  rw [firstTable?, List.findSome?_append, List.findSome?_singleton, hnone, Option.map_none,
    Option.or_none, firstTable?]

section

variable {R : Table → Table → Prop} (hrefl : ∀ t, R t t) {ps qs : List (List Char)}

include hrefl

/-- The same tables are related. -/
theorem rel_of_eq {a b : Option Table} (h : a = b) : Option.Rel R a b := by
  subst h
  cases a with
  | none => exact .none
  | some t => exact .some (hrefl t)

variable [DelimiterForm]

/-- Related first tables stay so behind parts that are the same. -/
theorem rel_firstTable?_append (h : Option.Rel R (firstTable? ps) (firstTable? qs))
    (done : List (List Char)) :
    Option.Rel R (firstTable? (done ++ ps)) (firstTable? (done ++ qs)) := by
  rw [firstTable?, firstTable?, List.findSome?_append, List.findSome?_append]
  cases done.findSome? fun part => (tableOf? (strip part)).map (·.1) with
  | none => exact h
  | some t => exact .some (hrefl t)

/-- Parts with related tables lead to related first tables in front of parts that are the same. -/
theorem rel_firstTable?_cons {part part' : List Char}
    (h : Option.Rel R ((tableOf? (strip part)).map (·.1)) ((tableOf? (strip part')).map (·.1)))
    (others : List (List Char)) :
    Option.Rel R (firstTable? (part :: others)) (firstTable? (part' :: others)) := by
  rw [firstTable?, firstTable?, List.findSome?_cons, List.findSome?_cons]
  rcases rel_cases h with ⟨hnone, hnone'⟩ | ⟨t, t', hsome, hsome', ht⟩
  · rw [hnone, hnone']
    exact rel_of_eq hrefl rfl
  · rw [hsome, hsome']
    exact .some ht

end

/-! ## A comment in one part -/

variable {front body back : List Char}

/-- A comment in front of a statement leaves the table that it declares. -/
theorem tableOf?_strip_inComment [DelimiterForm] (hbody : isCommentBody body = true)
    (cs : List Char) :
    (tableOf? (strip (inComment body ++ cs))).map (·.1) = (tableOf? (strip cs)).map (·.1) := by
  obtain ⟨blank, hblank, hstrip⟩ := exists_blank_strip cs
  have hfirst : (inComment body).head? = some '/' := rfl
  have hlast : (inComment body).getLast? = some '/' := by
    rw [← getLast?_inComment body none, Option.or_none]
  have hcomment : strip (inComment body ++ cs) = (inComment body ++ blank) ++ strip cs := by
    rw [strip_append hfirst hlast (by decide) (by decide), hstrip, List.append_assoc]
  have hslash : (some '/').all isUnheeded = true := by decide
  have hbefore : (blank.getLast?.or (some '/')).all isUnheeded = true := by
    cases hend : blank.getLast? with
    | none => exact hslash
    | some c => exact isUnheeded_of_isSpace (hblank c (List.mem_of_getLast? hend))
  have hstart : (none : Option Char).all isUnheeded = true := rfl
  rw [hcomment]
  refine tableOf?_of_silent ?_
  rw [List.append_assoc, tokensAt_inComment hbody, tokensAt_blank hblank,
    tokensAt_of_unheeded hbefore hstart, Nat.zero_add, List.length_append]

/-- Whether the table of a part does not hang on a comment between the two texts that it consists
of: nothing but white space stands in front of the comment, or something else on both sides, and
the tokens in front of it are steady. -/
def isQuietPart [DelimiterForm] (xs ys : List Char) : Bool :=
  (xs.dropWhile isSpace).isEmpty ||
    (!(stripEnd ys).isEmpty && isSteady (xs.dropWhile isSpace) (stripEnd ys) ['/', '*'])

/-- A place next to white space is so in a part of the text that holds something on both sides of
it. -/
theorem isSpaced_of_part {xs ys : List Char} (hxs : xs <:+ front) (hys : ys <+: back)
    (hfront : xs ≠ []) (hback : ys ≠ []) (h : isSpaced front back = true) :
    isSpaced xs ys = true := by
  obtain ⟨before, rfl⟩ := hxs
  obtain ⟨after, rfl⟩ := hys
  rwa [isSpaced, List.getLast?_append_of_ne_nil _ hfront,
    List.head?_append_of_ne_nil _ hback] at h

/-- A comment in a part of a text leaves the table that the part declares, but for the declared
types that it stands in. -/
theorem tableOf?_strip_commentEdit [DelimiterForm] (hplace : isSpaced front back = true)
    (hbody : isCommentBody body = true) {xs ys : List Char} (hxs : xs <:+ front)
    (hys : ys <+: back) (hquiet : isQuietPart xs ys = true) :
    Option.Rel (commentEdit front body back).TablesSameBut
      ((tableOf? (strip (xs ++ ys))).map (·.1))
      ((tableOf? (strip (xs ++ (inComment body ++ ys)))).map (·.1)) := by
  have hdrop (cs : List Char) : strip (xs ++ cs) =
      if (xs.dropWhile isSpace).isEmpty then strip cs
      else stripEnd (xs.dropWhile isSpace ++ cs) := by
    rw [strip, List.dropWhile_append]
    split <;> rfl
  rw [isQuietPart, Bool.or_eq_true, Bool.and_eq_true, Bool.not_eq_true'] at hquiet
  rw [hdrop, hdrop]
  split
  · exact rel_of_eq Edit.TablesSameBut.refl (tableOf?_strip_inComment hbody ys).symm
  · rename_i hne
    obtain ⟨hback, hsteady⟩ := hquiet.resolve_left hne
    rw [List.isEmpty_eq_false_iff] at hback
    rw [List.isEmpty_iff] at hne
    have hother : ∃ c ∈ ys, isSpace c = false :=
      (blank_or_exists ys).resolve_left fun hblank => hback (stripEnd_blank hblank)
    have hother' : ∃ c ∈ inComment body ++ ys, isSpace c = false := by
      obtain ⟨c, hc, hspace⟩ := hother
      exact ⟨c, List.mem_append_right _ hc, hspace⟩
    rw [stripEnd_append hother, stripEnd_append hother', stripEnd_append hother]
    have hfront : xs.dropWhile isSpace <:+ front := (List.dropWhile_suffix _).trans hxs
    have hrear : stripEnd ys <+: back := (stripEnd_isPrefix ys).trans hys
    have hinside := isSpaced_of_part hfront hrear hne hback hplace
    have htables := tableOf?_commentEdit hinside hbody hsteady
    rcases rel_cases htables with ⟨hnone, hnone'⟩ | ⟨found, found', hsome, hsome', hfound⟩
    · rw [commentEdit, Edit.text, List.nil_append] at hnone
      rw [commentEdit, Edit.edited] at hnone'
      rw [hnone, hnone']
      exact .none
    · rw [commentEdit, Edit.text, List.nil_append] at hsome
      rw [commentEdit, Edit.edited] at hsome'
      have hmono : (commentEdit front body back).TablesSameBut found.1 found'.1 :=
        .mono hfront hrear hfound
      rw [hsome, hsome']
      exact .some hmono

/-! ## A comment anywhere in a text -/

/-- Whether the table that is read does not hang on a comment at a place, where the state there with
the part that is being read, and the lexemes behind the place are given. Behind the end of a
statement nothing but white space may trail it; inside a part the comment is quiet. -/
def isQuiet [DelimiterForm] (reading : Nesting × List Lexeme) (behind : List Lexeme) : Bool :=
  if reading.1.ended then (textOf (behind.takeWhile Nesting.trails)).all isSpace
  else isQuietPart (textOf reading.2.reverse) (textOf ((cut reading.1 [] behind).headD []))

/-- A place in a text where a comment can be put, with the lexemes in front of it. -/
structure TakesComment [DelimiterForm] (front back : List Char) (ls : List Lexeme) : Prop where
  /-- The lexemes in front of the place are known if a comment follows. -/
  known : Known ['/', '*'] none front ls
  /-- The text is cut as if no lexeme went across the place. -/
  parts_eq : (cut {} [] (ls ++ lexemesAt ⟨some '/', back⟩)).map textOf =
    (cut {} [] (lexemes (front ++ back))).map textOf
  /-- A comment at the place is quiet. -/
  quiet : isQuiet (openAfter {} [] ls) (lexemesAt ⟨some '/', back⟩) = true

/-- Where no lexeme goes across a place next to white space, the text is cut as if none did. -/
theorem TakesComment.of_apart [DelimiterForm] {ls : List Lexeme}
    (hplace : isSpaced front back = true) (hknown : Known ['/', '*'] none front ls)
    (hapart : lexemes (front ++ back) = ls ++ lexemesAt ⟨front.getLast?, back⟩)
    (hquiet : isQuiet (openAfter {} [] ls) (lexemesAt ⟨some '/', back⟩) = true) :
    TakesComment front back ls where
  known := hknown
  parts_eq := by rw [hapart, lexemesAt_of_isSpaced hplace]
  quiet := hquiet

/-- A comment behind the end of a statement is cut off it and stands in front of the next part,
which declares the same table. -/
theorem firstTable?_of_ended [DelimiterForm] (hbody : isCommentBody body = true) {s : Nesting}
    (hs : s.ended = true) (read : List Lexeme) {trailing others : List Lexeme}
    (htrails : ∀ l ∈ trailing, Nesting.trails l = true)
    (hothers : ∀ l ∈ others.head?, Nesting.trails l = false)
    (hblank : ∀ c ∈ textOf trailing, isSpace c = true) :
    firstTable? ((cut s read (⟨.blockComment, inComment body⟩ :: (trailing ++ others))).map
        textOf) =
      firstTable? ((cut s read (trailing ++ others)).map textOf) := by
  obtain ⟨more, parts, hparts⟩ := cut_eq_cons {} others
  have hcomment : cut s read (⟨.blockComment, inComment body⟩ :: (trailing ++ others)) =
      read.reverse :: (⟨.blockComment, inComment body⟩ :: (trailing ++ more)) :: parts := by
    rw [cut_of_ended hs read rfl, cut_blockComment rfl, cut_trailing htrails, hparts]
    simp
  have hplain : firstTable? ((cut s read (trailing ++ others)).map textOf) =
      firstTable? (textOf (read.reverse ++ trailing) :: textOf more :: parts.map textOf) := by
    rw [cut_trailing htrails]
    cases others with
    | nil =>
      obtain ⟨hmore, hnil⟩ := List.cons_eq_cons.mp (hparts [])
      obtain rfl : more = [] := hmore.symm
      obtain rfl : parts = [] := hnil.symm
      rw [cut, List.reverse_append, List.reverse_reverse]
      exact (firstTable?_concat_nil [textOf (read.reverse ++ trailing)]).symm
    | cons l ls =>
      rw [cut_of_ended hs _ (hothers l rfl), hparts, List.reverse_append, List.reverse_reverse]
      rfl
  rw [hcomment, hplain, firstTable?, firstTable?]
  simp only [List.map_cons, List.findSome?_cons, textOf_cons, textOf_append]
  rw [tableOf?_strip_inComment hbody, strip_append_blank hblank, strip_blank_append hblank]

/-- A comment in the part that is being read leaves the table that this part declares, but for the
declared types that the comment stands in. -/
theorem firstTable?_of_not_ended [DelimiterForm] (hplace : isSpaced front back = true)
    (hbody : isCommentBody body = true) {s : Nesting} (hs : s.ended = false)
    {read behind : List Lexeme} (hread : textOf read.reverse <:+ front)
    (hbehind : textOf behind = back)
    (hquiet : isQuietPart (textOf read.reverse) (textOf ((cut s [] behind).headD [])) = true) :
    Option.Rel (commentEdit front body back).TablesSameBut
      (firstTable? ((cut s read behind).map textOf))
      (firstTable? ((cut s read (⟨.blockComment, inComment body⟩ :: behind)).map textOf)) := by
  obtain ⟨more, parts, hparts⟩ := cut_eq_cons s behind
  have hback : textOf more <+: back := by
    have htext := congrArg textOf (flatten_cut s [] behind)
    rw [hparts, List.flatten_cons, textOf_append, List.reverse_nil, List.nil_append,
      List.nil_append, hbehind] at htext
    exact ⟨_, htext⟩
  have hcomment : textOf (⟨.blockComment, inComment body⟩ :: read).reverse =
      textOf read.reverse ++ inComment body := by
    rw [List.reverse_cons, textOf_append, textOf_cons, textOf_nil, List.append_nil]
  rw [hparts, List.headD_cons] at hquiet
  rw [cut_blockComment hs, hparts read, hparts (_ :: read), List.map_cons, List.map_cons,
    textOf_append, textOf_append, hcomment, List.append_assoc]
  refine rel_firstTable?_cons Edit.TablesSameBut.refl ?_ _
  exact tableOf?_strip_commentEdit hplace hbody hread hback hquiet

/-- Behind known lexemes a comment is a lexeme of its own. -/
theorem lexemes_commentEdit [DelimiterForm] (hbody : isCommentBody body = true) {ls : List Lexeme}
    (hknown : Known ['/', '*'] none front ls) :
    lexemes (commentEdit front body back).edited =
      ls ++ ⟨.blockComment, inComment body⟩ :: lexemesAt ⟨some '/', back⟩ := by
  have hlexemes := hknown.lexemesAt (body ++ ['*', '/'] ++ back)
  have hedited : ['/', '*'] ++ (body ++ ['*', '/'] ++ back) = inComment body ++ back := by
    simp [inComment]
  rw [hedited, lexemesAt_append (by simp [inComment]) (lexeme_inComment hbody _ back),
    getLast?_inComment] at hlexemes
  exact hlexemes

/-- Comments do not count: a comment next to white space anywhere in a text leaves the table that is
read the same, but for the declared types that it stands in and, if a keyword stands in it, for
their Java types.  The lexemes in front of it are known, and it is quiet there. -/
theorem read_commentEdit [DelimiterForm] {ls : List Lexeme} (hplace : isSpaced front back = true)
    (hbody : isCommentBody body = true) (h : TakesComment front back ls) :
    Option.Rel (commentEdit front body back).TablesSameBut
      (read (String.ofList (commentEdit front body back).text)).result.toOption
      (read (String.ofList (commentEdit front body back).edited)).result.toOption := by
  have htext : (commentEdit front body back).text = front ++ back := rfl
  obtain ⟨done, hread, hcut⟩ := cut_append {} [] ls
  rw [toOption_read, toOption_read, lexemes_commentEdit hbody h.known, htext, ← h.parts_eq, hcut,
    hcut, List.map_append, List.map_append]
  refine rel_firstTable?_append Edit.TablesSameBut.refl ?_ _
  have hquiet := h.quiet
  rw [isQuiet] at hquiet
  split at hquiet
  · rename_i hended
    have hothers : ∀ l ∈ ((lexemesAt ⟨some '/', back⟩).dropWhile Nesting.trails).head?,
        Nesting.trails l = false := by
      intro l hl
      have hnot := List.head?_dropWhile_not Nesting.trails (lexemesAt ⟨some '/', back⟩)
      rw [hl] at hnot
      simpa using hnot
    have hsame := firstTable?_of_ended hbody hended (openAfter {} [] ls).2
      (fun _ => List.mem_takeWhile_imp) hothers (List.all_eq_true.mp hquiet)
    rw [List.takeWhile_append_dropWhile] at hsame
    exact rel_of_eq Edit.TablesSameBut.refl hsame.symm
  · rename_i hended
    have hs : (openAfter {} [] ls).1.ended = false := by simpa using hended
    have hfront : textOf (openAfter {} [] ls).2.reverse <:+ front := by
      have htext := congrArg textOf hread
      rw [textOf_append, List.reverse_nil, List.nil_append, h.known.textOf] at htext
      exact ⟨_, htext⟩
    exact firstTable?_of_not_ended hplace hbody hs hfront (textOf_lexemesAt _) hquiet

/-- A comment between the words of one keyword. -/
def nullEdit : Edit :=
  commentEdit "USE d; CREATE TABLE t (a INT NOT".toList " it's ".toList " NULL, b BIT);".toList

/-- A declaration in a comment behind the end of a statement. -/
def unusedEdit : Edit :=
  commentEdit "USE d;".toList " CREATE TABLE u (x INT); ".toList "\nCREATE TABLE t (a INT)".toList

theorem read_commentEdit_null_and_unused :
    isSpaced nullEdit.front nullEdit.back = true ∧ isCommentBody " it's ".toList = true ∧
      TakesComment nullEdit.front nullEdit.back (lexemes nullEdit.front) ∧
      isSpaced unusedEdit.front unusedEdit.back = true ∧
      isCommentBody " CREATE TABLE u (x INT); ".toList = true ∧
      TakesComment unusedEdit.front unusedEdit.back (lexemes unusedEdit.front) ∧
      Option.Rel nullEdit.TablesSameBut
        (read (String.ofList nullEdit.text)).result.toOption
        (read (String.ofList nullEdit.edited)).result.toOption ∧
      Option.Rel unusedEdit.TablesSameBut
        (read (String.ofList unusedEdit.text)).result.toOption
        (read (String.ofList unusedEdit.edited)).result.toOption := by
  have hknown : known? ['/', '*'] 40 ⟨none, nullEdit.front⟩ = some (lexemes nullEdit.front) := by
    decide +kernel
  have hknown' : known? ['/', '*'] 40 ⟨none, unusedEdit.front⟩ =
      some (lexemes unusedEdit.front) := by
    decide +kernel
  have hnull : TakesComment nullEdit.front nullEdit.back (lexemes nullEdit.front) :=
    ⟨known_of_known? hknown, by decide +kernel, by decide +kernel⟩
  have hunused : TakesComment unusedEdit.front unusedEdit.back (lexemes unusedEdit.front) :=
    .of_apart (by decide) (known_of_known? hknown') (by decide +kernel) (by decide +kernel)
  exact ⟨by decide, by decide, hnull, by decide, by decide, hunused,
    read_commentEdit (by decide) (by decide) hnull,
    read_commentEdit (by decide) (by decide) hunused⟩

/-- A keyword in a comment among the arguments of a type decides the Java type, and a name that is
also an operator is read as a name only if nothing but white space stands between it and the period
behind it. -/
theorem not_silent_arguments :
    (isSpaced "CREATE TABLE t (a DECIMAL(10 ".toList " , 2))".toList &&
      isSpaced "CREATE TABLE div ".toList " . t (a INT)".toList && isCommentBody " int ".toList) =
        true ∧
      ((read "CREATE TABLE t (a DECIMAL(10  , 2))").result.map
        fun t => t.columns.map Column.type) = .ok [.bigDecimal] ∧
      ((read "CREATE TABLE t (a DECIMAL(10 /* int */ , 2))").result.map
        fun t => t.columns.map Column.type) = .ok [.integer] ∧
      ((read "CREATE TABLE div  . t (a INT)").result.map Table.name) = .ok "t" ∧
      ((read "CREATE TABLE div /* int */ . t (a INT)").result.map Table.name) =
        .error .noTableDeclaration := by
  refine ⟨by decide, ?_, ?_, ?_, ?_⟩
  · exact map_read_of_isStatement (by decide +kernel)
  · exact map_read_of_isStatement (by decide +kernel)
  · exact map_read_of_isStatement (by decide +kernel)
  · rw [read_result_of_none (by decide +kernel)]
    rfl

end EntityMapper.Sql

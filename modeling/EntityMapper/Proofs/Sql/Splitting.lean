import EntityMapper.Proofs.Sql.Parentheses
import Mathlib.Data.List.Induction

/-!
# How a section is split into items

The items of a section are what stands between its commas outside parentheses.  Two of its tokens
are in one item exactly if there is no such comma between them, no token but these commas is lost,
and an item closes no parenthesis that it does not open.
-/

namespace EntityMapper.Sql

/-! ## Sections and their cuts -/

/-- The section that tokens begin with: it goes up to the first closing parenthesis that closes none
of its own opening ones, or to the end. -/
def IsSection (ts sec : List Token) : Prop :=
  Nested sec ∧ ∃ rest, ts = sec ++ rest ∧
    ∀ t ∈ rest.head?, t.isPunctuation ")" = true ∧ ¬ Nested (sec ++ [t])

/-- The token at the index is a comma outside parentheses. -/
def IsCut (ts : List Token) (i : Nat) : Prop :=
  ts[i]?.any (·.isPunctuation ",") = true ∧ Balanced (ts.take i)

instance decidableIsCut (ts : List Token) (i : Nat) : Decidable (IsCut ts i) :=
  inferInstanceAs (Decidable (_ ∧ _))

/-- A comma is no parenthesis. -/
theorem Token.not_parenthesis_of_comma {t : Token} (h : t.isPunctuation "," = true) :
    t.isPunctuation "(" = false ∧ t.isPunctuation ")" = false := by
  simp only [isPunctuation, Bool.and_eq_true, beq_iff_eq] at h
  simp [isPunctuation, h]

/-- No longer beginning of the tokens is a section. -/
theorem IsSection.not_longer {ts sec longer : List Token} (h : IsSection ts sec) {t : Token}
    (hlonger : sec ++ t :: longer <+: ts) : ¬ Nested (sec ++ t :: longer) := by
  obtain ⟨-, rest, rfl, hrest⟩ := h
  obtain ⟨more, hmore⟩ := hlonger
  rw [List.append_assoc, List.append_cancel_left_eq] at hmore
  intro hnested
  refine (hrest t (by rw [← hmore]; rfl)).2 ?_
  rw [← List.singleton_append, ← List.append_assoc] at hnested
  exact hnested.left

/-- A row of tokens has one section. -/
theorem IsSection.unique {ts sec sec' : List Token} (h : IsSection ts sec)
    (h' : IsSection ts sec') : sec = sec' := by
  have isPrefix {s : List Token} (hs : IsSection ts s) : s <+: ts := by
    obtain ⟨-, rest, hrest, -⟩ := hs
    exact ⟨rest, hrest.symm⟩
  have eq_of_isPrefix {s s' : List Token} (hs : IsSection ts s) (hs' : IsSection ts s')
      (hle : s <+: s') : s = s' := by
    obtain ⟨longer, rfl⟩ := hle
    cases longer with
    | nil => rw [List.append_nil]
    | cons t longer => exact absurd hs'.1 (hs.not_longer (isPrefix hs'))
  rcases List.prefix_or_prefix_of_prefix (isPrefix h) (isPrefix h') with hle | hle
  · exact eq_of_isPrefix h h' hle
  · exact (eq_of_isPrefix h' h hle).symm

section

variable {xs ys piece sec : List Token} {comma t : Token} {i : Nat}

/-- Whether a section is cut at a place does not hang on what stands behind it. -/
theorem isCut_append_left (h : i < xs.length) : IsCut (xs ++ ys) i ↔ IsCut xs i := by
  rw [IsCut, IsCut, List.getElem?_append_left h, List.take_append_of_le_length (Nat.le_of_lt h)]

theorem IsCut.lt (h : IsCut xs i) : i < xs.length := by
  by_contra hle
  have hnone := h.1
  rw [List.getElem?_eq_none (Nat.not_lt.mp hle)] at hnone
  cases hnone

/-- One more token makes a cut only if it is one. -/
theorem not_isCut_concat (h : ∀ i, ¬ IsCut xs i)
    (ht : t.isPunctuation "," = true → ¬ Balanced xs) (i : Nat) : ¬ IsCut (xs ++ [t]) i := by
  intro hcut
  obtain hlt | heq := Nat.lt_or_eq_of_le (Nat.lt_succ_iff.mp (by simpa using hcut.lt))
  · exact h i ((isCut_append_left hlt).mp hcut)
  · subst heq
    obtain ⟨hcomma, hbalanced⟩ := hcut
    rw [List.getElem?_concat_length] at hcomma
    rw [List.take_left] at hbalanced
    exact ht hcomma hbalanced

/-- A balanced row stays balanced with a comma behind it. -/
theorem Balanced.concat_comma (h : Balanced piece) (hcomma : comma.isPunctuation "," = true) :
    Balanced (piece ++ [comma]) :=
  h.append (.plain (Token.not_parenthesis_of_comma hcomma).1
    (Token.not_parenthesis_of_comma hcomma).2 .nil)

/-- A section is cut at the comma behind a balanced piece. -/
theorem isCut_comma (h : Balanced piece) (hcomma : comma.isPunctuation "," = true) :
    IsCut (piece ++ comma :: sec) piece.length := by
  constructor
  · rw [List.getElem?_append_right (Nat.le_refl _), Nat.sub_self]
    exact hcomma
  · rwa [List.take_left]

/-- Behind a piece and its comma the section is cut where the rest is. -/
theorem isCut_behind (h : Balanced piece) (hcomma : comma.isPunctuation "," = true) (i : Nat) :
    IsCut (piece ++ comma :: sec) (piece.length + 1 + i) ↔ IsCut sec i := by
  have hlength : piece.length + 1 = (piece ++ [comma]).length := by simp
  rw [IsCut, IsCut, List.append_cons, hlength, List.take_length_add_append,
    balanced_append_iff (h.concat_comma hcomma), List.getElem?_append_right (Nat.le_add_right _ _),
    Nat.add_sub_cancel_left]

end

/-! ## Pieces -/

/-- A section is cut into pieces, with one of its commas outside parentheses behind each piece but
the last. -/
inductive Pieces : List Token → List (List Token) → Prop where
  | last {piece : List Token} (hnested : Nested piece) (huncut : ∀ i, ¬ IsCut piece i) :
      Pieces piece [piece]
  | cut {piece sec : List Token} {comma : Token} {pieces : List (List Token)}
      (hbalanced : Balanced piece) (huncut : ∀ i, ¬ IsCut piece i)
      (hcomma : comma.isPunctuation "," = true) (hsec : Pieces sec pieces) :
      Pieces (piece ++ comma :: sec) (piece :: pieces)

/-- Pieces are nested and are cut nowhere. -/
theorem Pieces.sound {sec : List Token} {pieces : List (List Token)} (h : Pieces sec pieces) :
    ∀ piece ∈ pieces, Nested piece ∧ ∀ i, ¬ IsCut piece i := by
  induction h with
  | last hnested huncut => simpa using ⟨hnested, huncut⟩
  | cut hbalanced huncut _ _ ih => exact List.forall_mem_cons.mpr ⟨⟨hbalanced.nested, huncut⟩, ih⟩

/-- A section ends in front of a parenthesis that none of its own is open for. -/
theorem isSection_of_closing {sec : List Token} {t : Token} (hsec : Balanced sec)
    (hclosing : t.isPunctuation ")" = true) (ts : List Token) : IsSection (sec ++ t :: ts) sec := by
  refine ⟨hsec.nested, t :: ts, rfl, fun u hu => ?_⟩
  obtain rfl : t = u := by simpa using hu
  refine ⟨hclosing, ?_⟩
  rw [nested_append_iff hsec, nested_iff, openAfter?_closing_zero hclosing]
  simp

/-- A section goes on behind a comma as tokens do that begin there. -/
theorem IsSection.behind_comma {piece ts sec : List Token} {comma : Token}
    (h : IsSection ts sec) (hpiece : Balanced piece) (hcomma : comma.isPunctuation "," = true) :
    IsSection (piece ++ comma :: ts) (piece ++ comma :: sec) := by
  have hfront := hpiece.concat_comma hcomma
  obtain ⟨hnested, rest, rfl, hrest⟩ := h
  rw [List.append_cons, List.append_cons _ comma sec]
  refine ⟨(nested_append_iff hfront).mpr hnested, rest, by simp, fun t ht => ?_⟩
  rw [List.append_assoc, nested_append_iff hfront]
  exact hrest t ht

section

variable {t : Token} {ts read : List Token} {depth : Nat}

/-- An opening parenthesis belongs to the item and leads one level down. -/
theorem itemsFrom_opening (h : t.isPunctuation "(" = true) :
    itemsFrom depth read (t :: ts) = itemsFrom (depth + 1) (t :: read) ts := by
  rw [itemsFrom.eq_def]
  simp [h]

/-- The parenthesis that closes the section ends the last item. -/
theorem itemsFrom_closing_zero (h : t.isPunctuation ")" = true) :
    itemsFrom 0 read (t :: ts) = [read.reverse] := by
  rw [itemsFrom.eq_def]
  simp [h, Token.not_opening_of_closing h]

/-- A closing parenthesis inside an item belongs to it and leads one level up. -/
theorem itemsFrom_closing (h : t.isPunctuation ")" = true) :
    itemsFrom (depth + 1) read (t :: ts) = itemsFrom depth (t :: read) ts := by
  rw [itemsFrom.eq_def]
  simp [h, Token.not_opening_of_closing h]

/-- A comma at the top level ends an item. -/
theorem itemsFrom_comma (h : t.isPunctuation "," = true) :
    itemsFrom 0 read (t :: ts) = read.reverse :: itemsFrom 0 [] ts := by
  rw [itemsFrom.eq_def]
  simp [h, Token.not_parenthesis_of_comma h]

/-- Other tokens belong to the item. -/
theorem itemsFrom_plain (hopening : t.isPunctuation "(" = false)
    (hclosing : t.isPunctuation ")" = false) (h : ¬ (t.isPunctuation "," = true ∧ depth = 0)) :
    itemsFrom depth read (t :: ts) = itemsFrom depth (t :: read) ts := by
  rw [itemsFrom.eq_def]
  simp only [hopening, hclosing, Bool.false_eq_true, if_false]
  exact if_neg (by simpa using h)

end

/-- Cutting goes on from tokens that were read without a cut to the end of the section. -/
theorem pieces_itemsFrom {depth : Nat} {read : List Token} (ts : List Token)
    (hdepth : openAfter? 0 read.reverse = some depth) (huncut : ∀ i, ¬ IsCut read.reverse i) :
    ∃ sec, IsSection (read.reverse ++ ts) (read.reverse ++ sec) ∧
      Pieces (read.reverse ++ sec) (itemsFrom depth read ts) := by
  induction ts generalizing depth read with
  | nil =>
    have hnested : Nested read.reverse := nested_iff.mpr ⟨depth, hdepth⟩
    refine ⟨[], ?_, ?_⟩
    · rw [List.append_nil]
      exact ⟨hnested, [], (List.append_nil _).symm, by simp⟩
    · rw [List.append_nil]
      exact .last hnested huncut
  | cons t ts ih =>
    have hbehind (depth' : Nat) (h : openAfter? depth [t] = some depth') :
        openAfter? 0 (t :: read).reverse = some depth' := by
      rw [List.reverse_cons, openAfter?_append, hdepth, Option.bind_some, h]
    have taken (depth' : Nat) (h : openAfter? depth [t] = some depth')
        (ht : t.isPunctuation "," = true → ¬ Balanced read.reverse)
        (hitems : itemsFrom depth read (t :: ts) = itemsFrom depth' (t :: read) ts) :
        ∃ sec, IsSection (read.reverse ++ t :: ts) (read.reverse ++ sec) ∧
          Pieces (read.reverse ++ sec) (itemsFrom depth read (t :: ts)) := by
      have huncut' : ∀ i, ¬ IsCut (t :: read).reverse i := by
        rw [List.reverse_cons]
        exact not_isCut_concat huncut ht
      obtain ⟨sec, hsec, hpieces⟩ := ih (hbehind depth' h) huncut'
      rw [List.reverse_cons, List.append_assoc, List.singleton_append] at hpieces hsec
      rw [List.append_assoc, List.singleton_append] at hsec
      exact ⟨t :: sec, hsec, hitems ▸ hpieces⟩
    rcases t.parenthesis_cases with ⟨ho, -⟩ | ⟨-, hc⟩ | ⟨ho, hc⟩
    · refine taken (depth + 1) (openAfter?_opening ho) (fun hcomma => ?_) (itemsFrom_opening ho)
      rw [(Token.not_parenthesis_of_comma hcomma).1] at ho
      cases ho
    · cases depth with
      | zero =>
        have hbalanced : Balanced read.reverse := balanced_iff.mpr hdepth
        refine ⟨[], ?_, ?_⟩
        · rw [List.append_nil]
          exact isSection_of_closing hbalanced hc ts
        · rw [List.append_nil, itemsFrom_closing_zero hc]
          exact .last hbalanced.nested huncut
      | succ depth =>
        refine taken depth (openAfter?_closing hc) (fun hcomma => ?_) (itemsFrom_closing hc)
        rw [(Token.not_parenthesis_of_comma hcomma).2] at hc
        cases hc
    · by_cases hcut : t.isPunctuation "," = true ∧ depth = 0
      · obtain ⟨hcomma, rfl⟩ := hcut
        have hbalanced : Balanced read.reverse := balanced_iff.mpr hdepth
        obtain ⟨sec, hsec, hpieces⟩ : ∃ sec, IsSection ts sec ∧ Pieces sec (itemsFrom 0 [] ts) :=
          @ih 0 [] rfl (by simp [IsCut])
        refine ⟨t :: sec, hsec.behind_comma hbalanced hcomma, ?_⟩
        rw [itemsFrom_comma hcomma]
        exact .cut hbalanced huncut hcomma hpieces
      · refine taken depth (openAfter?_plain ho hc) (fun hcomma hbalanced => ?_)
          (itemsFrom_plain ho hc hcut)
        rw [balanced_iff, hdepth] at hbalanced
        exact hcut ⟨hcomma, Option.some.inj hbalanced⟩

/-! ## The places of tokens -/

/-- Pieces whose tokens are given with their places in a section that begins at the given index. -/
def numbered : Nat → List (List Token) → List (List (Token × Nat))
  | _, [] => []
  | index, piece :: pieces =>
    piece.zipIdx index :: numbered (index + piece.length + 1) pieces

/-- The numbered pieces are the pieces. -/
theorem map_fst_numbered (index : Nat) (pieces : List (List Token)) :
    (numbered index pieces).map (·.map Prod.fst) = pieces := by
  induction pieces generalizing index with
  | nil => rfl
  | cons piece pieces ih => rw [numbered, List.map_cons, List.zipIdx_map_fst, ih]

/-- The tokens of pieces are numbered from the given index on. -/
theorem le_of_mem_numbered {index : Nat} {pieces : List (List Token)} {p : Token × Nat}
    (h : p ∈ (numbered index pieces).flatten) : index ≤ p.2 := by
  induction pieces generalizing index with
  | nil => cases h
  | cons piece pieces ih =>
    rw [numbered, List.flatten_cons, List.mem_append] at h
    rcases h with h | h
    · exact List.le_snd_of_mem_zipIdx h
    · have := ih h
      omega

/-- The numbered pieces are the tokens of the section without its cuts. -/
theorem Pieces.flatten_numbered {sec : List Token} {pieces : List (List Token)}
    (h : Pieces sec pieces) (index : Nat) : (numbered index pieces).flatten =
      (sec.zipIdx index).filter fun p => !decide (IsCut sec (p.2 - index)) := by
  induction h generalizing index with
  | @last piece _ huncut =>
    rw [numbered, numbered, List.flatten_cons, List.flatten_nil, List.append_nil, eq_comm,
      List.filter_eq_self]
    intro p _
    simp [huncut]
  | @cut piece sec comma pieces hbalanced huncut hcomma _ ih =>
    have hpiece : (piece.zipIdx index).filter
        (fun p => !decide (IsCut (piece ++ comma :: sec) (p.2 - index))) = piece.zipIdx index := by
      rw [List.filter_eq_self]
      intro p hp
      have hlt : p.2 - index < piece.length := by
        have := List.snd_lt_of_mem_zipIdx hp
        have := List.le_snd_of_mem_zipIdx hp
        omega
      simp [isCut_append_left hlt, huncut]
    rw [numbered, List.flatten_cons, ih, List.zipIdx_append, List.filter_append, hpiece,
      List.zipIdx_cons, List.filter_cons_of_neg]
    · refine congrArg _ (List.filter_congr fun p hp => ?_)
      have hle := List.le_snd_of_mem_zipIdx hp
      have hplace : p.2 - index = piece.length + 1 + (p.2 - (index + piece.length + 1)) := by
        omega
      rw [hplace, decide_eq_decide.mpr (isCut_behind hbalanced hcomma _)]
    · simp [isCut_comma hbalanced hcomma]

/-- The numbers in a piece end in front of that of the next token. -/
theorem lt_of_mem_zipIdx {index : Nat} {piece : List Token} {p : Token × Nat}
    (h : p ∈ piece.zipIdx index) : p.2 < index + piece.length := by
  have := List.snd_lt_of_mem_zipIdx h
  omega

/-- One of the parts holds both. -/
def Together (parts : List (List (Token × Nat))) (p q : Token × Nat) : Prop :=
  ∃ part ∈ parts, p ∈ part ∧ q ∈ part

/-- Two tokens are in one piece exactly if the section is not cut between them. -/
theorem Pieces.together_iff {sec : List Token} {pieces : List (List Token)}
    (h : Pieces sec pieces) (index : Nat) {p q : Token × Nat}
    (hp : p ∈ (numbered index pieces).flatten) (hq : q ∈ (numbered index pieces).flatten)
    (hlt : p.2 < q.2) : Together (numbered index pieces) p q ↔
      ∀ i, p.2 < index + i → index + i < q.2 → ¬ IsCut sec i := by
  induction h generalizing index with
  | @last piece _ huncut =>
    rw [numbered, numbered, List.flatten_cons, List.flatten_nil, List.append_nil] at hp hq
    exact ⟨fun _ i _ _ => huncut i, fun _ => ⟨_, List.mem_cons_self, hp, hq⟩⟩
  | @cut piece sec comma pieces hbalanced huncut hcomma _ ih =>
    rw [numbered, List.flatten_cons, List.mem_append] at hp hq
    rcases hp with hp | hp
    · have hplt := lt_of_mem_zipIdx hp
      rcases hq with hq | hq
      · refine ⟨fun _ i _ hi => ?_, fun _ => ⟨_, List.mem_cons_self, hp, hq⟩⟩
        have hqlt := lt_of_mem_zipIdx hq
        rw [isCut_append_left (by omega)]
        exact huncut i
      · have hle := le_of_mem_numbered hq
        constructor
        · rintro ⟨part, hpart, hp', hq'⟩
          obtain rfl | hpart := List.mem_cons.mp hpart
          · have := lt_of_mem_zipIdx hq'
            omega
          · have := le_of_mem_numbered (List.mem_flatten.mpr ⟨part, hpart, hp'⟩)
            omega
        · intro hfree
          exact absurd (isCut_comma hbalanced hcomma) (hfree piece.length hplt (by omega))
    · have hple := le_of_mem_numbered hp
      rcases hq with hq | hq
      · have := lt_of_mem_zipIdx hq
        omega
      · have hrest : Together (numbered index (piece :: pieces)) p q ↔
            Together (numbered (index + piece.length + 1) pieces) p q := by
          constructor
          · rintro ⟨part, hpart, hp', hq'⟩
            obtain rfl | hpart := List.mem_cons.mp hpart
            · have := lt_of_mem_zipIdx hp'
              omega
            · exact ⟨part, hpart, hp', hq'⟩
          · rintro ⟨part, hpart, hboth⟩
            exact ⟨part, List.mem_cons_of_mem _ hpart, hboth⟩
        rw [hrest, ih _ hp hq]
        constructor
        · intro hfree i hpi hiq hcut
          obtain ⟨j, rfl⟩ := Nat.exists_eq_add_of_le
            (show piece.length + 1 ≤ i by omega)
          exact hfree j (by omega) (by omega) ((isCut_behind hbalanced hcomma j).mp hcut)
        · intro hfree j hpj hjq hcut
          exact hfree (piece.length + 1 + j) (by omega) (by omega)
            ((isCut_behind hbalanced hcomma j).mpr hcut)

/-- A piece that a cut follows is balanced. -/
theorem Pieces.balanced {sec : List Token} {pieces : List (List Token)} (h : Pieces sec pieces)
    (index : Nat) {part : List (Token × Nat)} (hpart : part ∈ numbered index pieces) {i : Nat}
    (hcut : IsCut sec i) (hi : ∀ p ∈ part, p.2 < index + i) : Balanced (part.map Prod.fst) := by
  induction h generalizing index i with
  | last _ huncut => exact absurd hcut (huncut i)
  | @cut piece sec comma pieces hbalanced huncut hcomma _ ih =>
    obtain rfl | hpart := List.mem_cons.mp hpart
    · rwa [List.zipIdx_map_fst]
    · cases part with
      | nil => exact .nil
      | cons p part =>
        have hle := le_of_mem_numbered (List.mem_flatten.mpr ⟨_, hpart, List.mem_cons_self⟩)
        have hlt := hi p List.mem_cons_self
        obtain ⟨j, rfl⟩ := Nat.exists_eq_add_of_le (show piece.length + 1 ≤ i by omega)
        refine ih _ hpart ((isCut_behind hbalanced hcomma j).mp hcut) fun q hq => ?_
        have := hi q hq
        omega

/-! ## The items of a section -/

/-- The tokens outside parentheses by a count of the open ones that may fall below zero. -/
def signedTopLevelFrom : Int → List Token → List Token
  | _, [] => []
  | depth, t :: ts =>
    if t.isPunctuation "(" then signedTopLevelFrom (depth + 1) ts
    else if t.isPunctuation ")" then signedTopLevelFrom (depth - 1) ts
    else if depth = 0 then t :: signedTopLevelFrom depth ts
    else signedTopLevelFrom depth ts

/-- Where counting from the left comes to an end no count falls below zero. -/
theorem signedTopLevelFrom_eq {depth depth' : Nat} {ts : List Token}
    (h : openAfter? depth ts = some depth') :
    signedTopLevelFrom depth ts = topLevelFrom depth ts := by
  induction ts generalizing depth with
  | nil => rfl
  | cons t ts ih =>
    rw [signedTopLevelFrom, topLevelFrom]
    rcases t.parenthesis_cases with ⟨ho, -⟩ | ⟨ho, hc⟩ | ⟨ho, hc⟩
    · rw [openAfter?_opening ho] at h
      rw [if_pos ho, if_pos ho, ← ih h, Int.natCast_succ]
    · simp only [ho, hc, Bool.false_eq_true, if_false, if_true]
      cases depth with
      | zero =>
        rw [openAfter?_closing_zero hc] at h
        cases h
      | succ depth =>
        rw [openAfter?_closing hc] at h
        rw [Nat.add_sub_cancel, ← ih h, Int.natCast_succ, Int.add_sub_cancel]
    · rw [openAfter?_plain ho hc] at h
      simp only [ho, hc, Bool.false_eq_true, if_false, ih h]
      exact if_congr Int.natCast_eq_zero rfl rfl

/-- The parts that a section is divided into, whose tokens are given with their places in it. -/
structure Divides (sec : List Token) (parts : List (List (Token × Nat))) : Prop where
  part_ne_nil : ∀ part ∈ parts, part ≠ []
  /-- One after the other they are the section without its cuts. -/
  flatten_eq : parts.flatten = sec.zipIdx.filter fun p => !decide (IsCut sec p.2)
  together_iff : ∀ p ∈ parts.flatten, ∀ q ∈ parts.flatten, p.2 < q.2 →
    (Together parts p q ↔ ∀ i, p.2 < i → i < q.2 → ¬ IsCut sec i)
  balanced_of_cut : ∀ part ∈ parts, ∀ i, IsCut sec i → (∀ p ∈ part, p.2 < i) →
    Balanced (part.map Prod.fst)

/-- Pieces without the empty ones divide the section. -/
theorem Pieces.divides {sec : List Token} {pieces : List (List Token)} (h : Pieces sec pieces) :
    Divides sec ((numbered 0 pieces).filter (· ≠ [])) := by
  have hflatten : ((numbered 0 pieces).filter (· ≠ [])).flatten = (numbered 0 pieces).flatten :=
    List.flatten_filter_ne_nil
  have htogether (p q : Token × Nat) : Together ((numbered 0 pieces).filter (· ≠ [])) p q ↔
      Together (numbered 0 pieces) p q := by
    constructor
    · rintro ⟨part, hpart, hboth⟩
      exact ⟨part, (List.mem_filter.mp hpart).1, hboth⟩
    · rintro ⟨part, hpart, hp, hq⟩
      refine ⟨part, List.mem_filter.mpr ⟨hpart, ?_⟩, hp, hq⟩
      simpa using List.ne_nil_of_mem hp
  refine ⟨fun part hpart => by simpa using (List.mem_filter.mp hpart).2, ?_, ?_, ?_⟩
  · rw [hflatten, h.flatten_numbered]
    simp only [Nat.sub_zero]
  · intro p hp q hq hlt
    rw [hflatten] at hp hq
    rw [htogether, h.together_iff 0 hp hq hlt]
    simp only [Nat.zero_add]
  · intro part hpart i hcut hi
    exact h.balanced 0 (List.mem_filter.mp hpart).1 hcut (by simpa using hi)

/-- Cutting tokens into items cuts the section that they begin with into its pieces. -/
theorem exists_pieces (ts : List Token) :
    ∃ sec, IsSection ts sec ∧ Pieces sec (itemsFrom 0 [] ts) :=
  @pieces_itemsFrom 0 [] ts rfl (by simp [IsCut])

/-- Items are nested. -/
theorem nested_of_mem_items {ts item : List Token} (h : item ∈ items ts) : Nested item := by
  obtain ⟨sec, -, hpieces⟩ := exists_pieces ts
  exact (hpieces.sound item (List.mem_filter.mp h).1).1

/-- The items of what tokens begin with are the parts of one section, divided at its commas outside
parentheses.  An item holds no such comma and closes no parenthesis that it does not open, so that
behind balanced tokens of an item no count of the open parentheses ever falls below zero. -/
theorem divides_items (ts : List Token) :
    ∃ sec, (∀ s, IsSection ts s ↔ s = sec) ∧
      (∃ parts, Divides sec parts ∧ items ts = parts.map (·.map Prod.fst)) ∧
      ∀ item ∈ items ts, Nested item ∧ (∀ i, ¬ IsCut item i) ∧
        ∀ front back, item = front ++ back → Balanced front →
          Nested back ∧ signedTopLevelFrom 0 back = topLevel back := by
  obtain ⟨sec, hsec, hpieces⟩ := exists_pieces ts
  refine ⟨sec, fun s => ⟨fun h => h.unique hsec, fun h => h ▸ hsec⟩,
    ⟨_, hpieces.divides, ?_⟩, fun item hitem => ?_⟩
  · rw [items]
    conv_lhs => rw [← map_fst_numbered 0 (itemsFrom 0 [] ts), List.filter_map]
    refine congrArg _ (List.filter_congr fun part _ => ?_)
    simp
  · have hnested := nested_of_mem_items hitem
    refine ⟨hnested, (hpieces.sound item (List.mem_filter.mp hitem).1).2, ?_⟩
    rintro front back rfl hfront
    have hback := (nested_append_iff hfront).mp hnested
    obtain ⟨depth, hdepth⟩ := nested_iff.mp hback
    exact ⟨hback, signedTopLevelFrom_eq hdepth⟩

end EntityMapper.Sql

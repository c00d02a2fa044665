import EntityMapper.Proofs.Text.Letters
import EntityMapper.Schema.JavaType
import Mathlib.Data.List.Find

/-!
# The Java type of a type that is spelled out

A declared type is a keyword and perhaps arguments in parentheses. The arguments hold no letter, so
what occurs in the declared type is what occurs in its keyword, and the rule that the keyword
belongs to decides.
-/

namespace EntityMapper

namespace Text

theorem throughFirst?_isSome_iff {sought cs : List Char} :
    (throughFirst? sought cs).isSome = true ↔ sought <:+: cs := by
  induction cs with
  | nil =>
    rw [throughFirst?, List.infix_nil]
    split
    · rename_i h
      simp [h]
    · rename_i h
      simp [h]
  | cons c cs ih =>
    rw [throughFirst?, List.infix_cons_iff]
    split
    · rename_i h
      simp [List.isPrefixOf_iff_prefix.mp h]
    · rename_i h
      rw [List.isPrefixOf_iff_prefix] at h
      simp [ih, h]

/-- A text occurs in another if it is a part of it. -/
theorem occurs_iff {sought cs : List Char} : occurs sought cs = true ↔ sought <:+: cs :=
  throughFirst?_isSome_iff

/-- A text that shares no character with what follows occurs in what stands before it. -/
theorem occurs_append {sought cs others : List Char} (h : ∀ c ∈ sought, c ∉ others) :
    occurs sought (cs ++ others) = occurs sought cs := by
  rw [Bool.eq_iff_iff, occurs_iff, occurs_iff]
  constructor
  · rintro ⟨s, t, hst⟩
    have nil_of_mem {a : List Char} (hs : ∀ c ∈ a, c ∈ sought) (ho : ∀ c ∈ a, c ∈ others) :
        a = [] :=
      List.eq_nil_iff_forall_not_mem.mpr fun c hc => h c (hs c hc) (ho c hc)
    obtain ⟨a, hcs, -⟩ | ⟨a, hsought, hothers⟩ := List.append_eq_append_iff.mp hst
    · exact ⟨s, a, hcs.symm⟩
    · have hmem : ∀ c ∈ a, c ∈ others := fun c hc => hothers ▸ List.mem_append_left t hc
      obtain ⟨b, hcs, rfl⟩ | ⟨b, -, rfl⟩ := List.append_eq_append_iff.mp hsought
      · obtain rfl := nil_of_mem (fun c hc => List.mem_append_right b hc) hmem
        exact ⟨s, [], by simp [hcs]⟩
      · rw [nil_of_mem (fun _ hc => hc) fun c hc => hmem c (List.mem_append_right b hc)]
        exact List.nil_infix
  · exact fun hcs => hcs.trans (List.prefix_append cs others).isInfix

/-- A text occurs in front of a character that it does not hold, or behind it. -/
theorem occurs_barrier {sought xs ys : List Char} {d : Char} (h : d ∉ sought) :
    occurs sought (xs ++ d :: ys) = (occurs sought xs || occurs sought ys) := by
  rw [Bool.eq_iff_iff, Bool.or_eq_true, occurs_iff, occurs_iff, occurs_iff]
  constructor
  · rintro ⟨s, t, hst⟩
    obtain ⟨a, hxs, -⟩ | ⟨a, hsought, hd⟩ := List.append_eq_append_iff.mp hst
    · exact .inl ⟨s, a, hxs.symm⟩
    · obtain ⟨b, rfl, rfl⟩ | ⟨b, rfl, rfl⟩ := List.append_eq_append_iff.mp hsought
      · cases a with
        | nil => exact .inl ⟨s, [], by simp⟩
        | cons e a =>
          obtain rfl := (List.cons_eq_cons.mp hd).1
          exact absurd (List.mem_append_right b List.mem_cons_self) h
      · cases b with
        | nil =>
          cases sought with
          | nil => exact .inl List.nil_infix
          | cons e sought =>
            obtain rfl := (List.cons_eq_cons.mp hd).1
            exact absurd List.mem_cons_self h
        | cons e b => exact .inr ⟨b, t, (List.cons_eq_cons.mp hd).2.symm⟩
  · rintro (hxs | hys)
    · exact hxs.trans (List.prefix_append xs (d :: ys)).isInfix
    · exact hys.trans ((List.suffix_cons d ys).trans (List.suffix_append xs (d :: ys))).isInfix

/-- What occurs in a text with a part between two characters that do not occur in it occurs in front
of the part, in it, or behind it. -/
theorem occurs_enclosed {sought : List Char} {c d : Char} (hc : c ∉ sought) (hd : d ∉ sought)
    (hupper : upperChar c = [c]) (hupper' : upperChar d = [d]) (xs part ys : List Char) :
    occurs sought (upper (xs ++ (c :: (part ++ [d]) ++ ys))) =
      (occurs sought (upper xs) || occurs sought (upper (c :: (part ++ [d]))) ||
        occurs sought (upper ys)) := by
  have hends : upper [d] = [d] := by rw [upper_cons, hupper', upper_nil, List.append_nil]
  have hnone : occurs sought ([] : List Char) = occurs sought (upper []) := rfl
  have hpart : occurs sought (upper (c :: (part ++ [d]))) =
      (occurs sought (upper []) || occurs sought (upper part) || occurs sought (upper [])) := by
    rw [upper_cons, hupper, List.singleton_append, upper_append, hends,
      ← List.nil_append (c :: (upper part ++ [d])), occurs_barrier hc, occurs_barrier hd,
      Bool.or_assoc, hnone]
  have hempty : occurs sought (upper []) = true → occurs sought (upper xs) = true := by
    intro h
    rw [occurs_iff, upper_nil, List.infix_nil] at h
    rw [occurs_iff, h]
    exact List.nil_infix
  rw [hpart, List.cons_append, List.append_assoc, List.singleton_append, upper_append, upper_cons,
    hupper, List.singleton_append, upper_append, upper_cons, hupper', List.singleton_append,
    occurs_barrier hc, occurs_barrier hd]
  revert hempty
  cases occurs sought (upper []) <;> cases occurs sought (upper xs) <;>
    cases occurs sought (upper part) <;> cases occurs sought (upper ys) <;> simp

end Text

namespace Schema.JavaType

open Text

/-- The keywords of declared types. -/
def keywords : List String :=
  rules.flatMap (·.1)

/-- The rule that applies to a declared type hangs on the keywords that occur in it. -/
theorem ofSql?_congr {a b : String} (h : ∀ keyword ∈ keywords,
    occurs keyword.toList (upper a.toList) = occurs keyword.toList (upper b.toList)) :
    ofSql? a = ofSql? b := by
  have hfind : (rules.find? fun rule => rule.1.any fun keyword =>
        occurs keyword.toList (upper a.toList)) =
      rules.find? fun rule => rule.1.any fun keyword =>
        occurs keyword.toList (upper b.toList) := by
    refine List.find?_congr fun rule hrule => ?_
    rw [Bool.eq_iff_iff, List.any_eq_true, List.any_eq_true]
    refine exists_congr fun keyword => and_congr_right fun hkeyword => ?_
    rw [h keyword (List.mem_flatMap.mpr ⟨rule, hrule, hkeyword⟩)]
  rw [ofSql?, ofSql?, hfind]

/-- No rule applies to a declared type in which no keyword occurs. -/
theorem ofSql?_eq_none_iff {a : String} :
    ofSql? a = none ↔ ∀ keyword ∈ keywords, occurs keyword.toList (upper a.toList) = false := by
  rw [ofSql?, Option.map_eq_none_iff, List.find?_eq_none]
  simp only [keywords, List.mem_flatMap, List.any_eq_true, not_exists, not_and, Bool.not_eq_true]
  exact ⟨fun h keyword ⟨rule, hrule, hkeyword⟩ => h rule hrule keyword hkeyword,
    fun h rule hrule keyword hkeyword => h keyword ⟨rule, hrule, hkeyword⟩⟩

/-- A character of the arguments of a declared type: a digit, a comma or a parenthesis. -/
def isArgument (c : Char) : Bool :=
  c.isDigit || ['(', ',', ')'].contains c

/-- Arguments are in upper case as they stand. -/
theorem upper_arguments {cs : List Char} (h : ∀ c ∈ cs, isArgument c = true) :
    upper cs = cs := by
  have hdigit : ∀ c : Char, c.isDigit = true → upperChar c = [c] := fun c hc =>
    forall_digit (P := fun c => upperChar c = [c]) (by decide) hc
  have hmark : ∀ c ∈ ['(', ',', ')'], upperChar c = [c] := by decide
  induction cs with
  | nil => rfl
  | cons c cs ih =>
    rw [upper_cons, ih fun d hd => h d (List.mem_cons_of_mem c hd)]
    have hc := h c List.mem_cons_self
    rw [isArgument, Bool.or_eq_true, List.contains_iff_mem] at hc
    obtain hc | hc := hc
    · rw [hdigit c hc, List.singleton_append]
    · rw [hmark c hc, List.singleton_append]

theorem upper_keyword : ∀ keyword ∈ keywords, upper keyword.toList = keyword.toList := by
  decide

/-- The letters of keywords do not stand in arguments. -/
theorem not_isArgument_of_mem : ∀ keyword ∈ "SERIAL" :: keywords, ∀ c ∈ keyword.toList,
    isArgument c = false := by
  decide

/-- The first rule that applies to a keyword is the one that it belongs to. -/
theorem find?_keyword : ∀ rule ∈ rules, ∀ keyword ∈ rule.1,
    (rules.find? fun rule => rule.1.any fun sought => occurs sought.toList keyword.toList) =
      some rule := by
  decide

/-- What occurs in a declared type occurs in its keyword. -/
theorem occurs_spelled {keyword sought : String} (hsought : sought ∈ "SERIAL" :: keywords)
    {arguments : List Char} (h : ∀ c ∈ arguments, isArgument c = true) :
    occurs sought.toList (keyword.toList ++ arguments) = occurs sought.toList keyword.toList := by
  refine occurs_append fun c hc harg => ?_
  have := not_isArgument_of_mem sought hsought c hc
  rw [h c harg] at this
  cases this

/-- A keyword with arguments is of the Java type of the rule that the keyword belongs to. -/
theorem ofSql?_spelled {rule : List String × JavaType} (hrule : rule ∈ rules) {keyword : String}
    (hkeyword : keyword ∈ rule.1) {arguments : List Char}
    (h : ∀ c ∈ arguments, isArgument c = true) :
    ofSql? (String.ofList (keyword.toList ++ arguments)) = some rule.2 := by
  have hmem {rule : List String × JavaType} (hrule : rule ∈ rules) {sought : String}
      (hsought : sought ∈ rule.1) : sought ∈ keywords := List.mem_flatMap.mpr ⟨rule, hrule, hsought⟩
  have hfind : (rules.find? fun rule => rule.1.any fun sought =>
      occurs sought.toList (keyword.toList ++ arguments)) = some rule := by
    rw [← find?_keyword rule hrule keyword hkeyword]
    refine List.find?_congr fun other hother => ?_
    rw [Bool.eq_iff_iff, List.any_eq_true, List.any_eq_true]
    refine exists_congr fun sought => and_congr_right fun hsought => ?_
    rw [occurs_spelled (List.mem_cons_of_mem _ (hmem hother hsought)) h]
  rw [ofSql?, String.toList_ofList, upper_append, upper_arguments h,
    upper_keyword keyword (hmem hrule hkeyword), hfind, Option.map_some]

end Schema.JavaType

end EntityMapper

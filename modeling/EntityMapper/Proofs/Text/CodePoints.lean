import EntityMapper.Proofs.Text.Letters
import Mathlib.Algebra.GroupWithZero.Nat
import Mathlib.Tactic.Common

/-!
# Comparing sets of code points

Membership in two sets changes at their bounds only, so a relation between the two sets is settled
by passing these once in ascending order, and so is a condition on several sets. No white space is a
part of a word.
-/

namespace EntityMapper.Text

namespace CodePoints

/-- Whether membership in two sets is related in the given way at all points, where it is known for
the points in front of the bounds that are left.  The bounds of both sets are passed in ascending
order, so many of them at most. -/
def relatesWithin (rel : Bool → Bool → Bool) :
    Nat → Bool → Bool → CodePoints → CodePoints → Bool
  | 0, _, _, _, _ => false
  | _ + 1, p, q, [], [] => rel p q
  | fuel + 1, p, q, _ :: set, [] => rel p q && relatesWithin rel fuel (!p) q set []
  | fuel + 1, p, q, [], _ :: set' => rel p q && relatesWithin rel fuel p (!q) [] set'
  | fuel + 1, p, q, bound :: set, bound' :: set' =>
    rel p q &&
      if bound < bound' then relatesWithin rel fuel (!p) q set (bound' :: set')
      else if bound' < bound then relatesWithin rel fuel p (!q) (bound :: set) set'
      else relatesWithin rel fuel (!p) (!q) set set'

/-- Whether membership in two sets is related in the given way at all points. -/
def relates (rel : Bool → Bool → Bool) (set set' : CodePoints) : Bool :=
  relatesWithin rel (set.length + set'.length + 1) false false set set'

theorem has_nil (n : Nat) : has [] n = false :=
  rfl

theorem has_of_le {bound n : Nat} (bounds : CodePoints) (h : bound ≤ n) :
    has (bound :: bounds) n = !has bounds n := by
  simp [has, h]

theorem of_relatesWithin {rel : Bool → Bool → Bool} {fuel : Nat} {p q : Bool}
    {set set' : CodePoints} (h : relatesWithin rel fuel p q set set' = true) (n : Nat) :
    rel (p ^^ has set n) (q ^^ has set' n) = true := by
  fun_induction relatesWithin rel fuel p q set set' with
  | case1 => cases h
  | case2 fuel p q => simpa only [has_nil, Bool.xor_false] using h
  | case3 fuel p q bound set ih =>
    rw [Bool.and_eq_true] at h
    rcases Nat.lt_or_ge n bound with hn | hn
    · simpa only [has_eq_false_of_lt _ hn, has_nil, Bool.xor_false] using h.1
    · simpa [has_of_le _ hn] using ih h.2
  | case4 fuel p q bound' set' ih =>
    rw [Bool.and_eq_true] at h
    rcases Nat.lt_or_ge n bound' with hn | hn
    · simpa only [has_eq_false_of_lt _ hn, has_nil, Bool.xor_false] using h.1
    · simpa [has_of_le _ hn] using ih h.2
  | case5 fuel p q bound set bound' set' ih₁ ih₂ ih₃ =>
    rw [Bool.and_eq_true] at h
    obtain ⟨hhere, hrest⟩ := h
    split at hrest
    · rename_i hlt
      rcases Nat.lt_or_ge n bound with hn | hn
      · simpa only [has_eq_false_of_lt _ hn, has_eq_false_of_lt _ (Nat.lt_trans hn hlt),
          Bool.xor_false] using hhere
      · simpa [has_of_le _ hn] using ih₁ hrest
    · split at hrest
      · rename_i hlt
        rcases Nat.lt_or_ge n bound' with hn | hn
        · simpa only [has_eq_false_of_lt _ hn, has_eq_false_of_lt _ (Nat.lt_trans hn hlt),
            Bool.xor_false] using hhere
        · simpa [has_of_le _ hn] using ih₂ hrest
      · obtain rfl : bound = bound' := by omega
        rcases Nat.lt_or_ge n bound with hn | hn
        · simpa only [has_eq_false_of_lt _ hn, Bool.xor_false] using hhere
        · simpa [has_of_le _ hn] using ih₃ hrest

theorem of_relates {rel : Bool → Bool → Bool} {set set' : CodePoints}
    (h : set.relates rel set' = true) (n : Nat) : rel (set.has n) (set'.has n) = true := by
  simpa using of_relatesWithin h n

/-- A point of a set lies in no set that is disjoint from it. -/
theorem not_has_of_disjoint {set set' : CodePoints}
    (h : set.relates (fun p q => !(p && q)) set' = true) {n : Nat} (hn : set.has n = true) :
    set'.has n = false := by
  simpa [hn] using of_relates h n

/-- A point of a set lies in every set that includes it. -/
theorem has_of_subset {set set' : CodePoints}
    (h : set.relates (fun p q => !p || q) set' = true) {n : Nat} (hn : set.has n = true) :
    set'.has n = true := by
  simpa [hn] using of_relates h n

/-! ### Listed points -/

/-- The set of the points in an ascending list. -/
def ofPoints (ns : List Nat) : CodePoints :=
  ns.flatMap fun n => [n, n + 1]

theorem has_ofPoints {ns : List Nat} (hns : ns.IsChain (· < ·)) {n : Nat} (hn : n ∈ ns) :
    (ofPoints ns).has n = true := by
  replace hns := List.isChain_iff_pairwise.mp hns
  induction ns with
  | nil => cases hn
  | cons m ns ih =>
    rw [List.pairwise_cons] at hns
    have hcons : ofPoints (m :: ns) = m :: (m + 1) :: ofPoints ns := rfl
    rw [hcons]
    rcases List.mem_cons.mp hn with rfl | hlater
    · rw [has_of_le _ (Nat.le_refl n), has_eq_false_of_lt _ (Nat.lt_succ_self n), Bool.not_false]
    · have hlt := hns.1 n hlater
      rw [has_of_le _ (Nat.le_of_lt hlt), has_of_le _ hlt, Bool.not_not, ih hlater hns.2]

/-- No point of an ascending list lies in a set that is disjoint from it. -/
theorem not_has_of_points {ns : List Nat} {set : CodePoints} (hns : ns.IsChain (· < ·))
    (h : (ofPoints ns).relates (fun p q => !(p && q)) set = true) {n : Nat} (hn : n ∈ ns) :
    set.has n = false :=
  not_has_of_disjoint h (has_ofPoints hns hn)

/-! ### Several sets -/

/-- A set whose membership is given, after a point at which it may change. -/
def pass (bound : Nat) : Bool × CodePoints → Bool × CodePoints
  | (p, []) => (p, [])
  | (p, first :: set) => if first = bound then (!p, set) else (p, first :: set)

/-- Whether membership in several sets meets a condition at all points, where it is known for the
points in front of the bounds that are left.  The bounds are passed in ascending order, so many of
them at most. -/
def meetWithin (condition : List Bool → Bool) : Nat → List (Bool × CodePoints) → Bool
  | 0, _ => false
  | fuel + 1, sets =>
    condition (sets.map (·.1)) &&
      match (sets.filterMap (·.2.head?)).min? with
      | none => true
      | some bound => meetWithin condition fuel (sets.map (pass bound))

/-- Whether membership in several sets meets a condition at all points. -/
def meet (condition : List Bool → Bool) (sets : List CodePoints) : Bool :=
  meetWithin condition ((sets.map List.length).sum + 1) (sets.map fun set => (false, set))

theorem has_pass {bound n : Nat} (h : bound ≤ n) (s : Bool × CodePoints) :
    ((pass bound s).1 ^^ (pass bound s).2.has n) = (s.1 ^^ s.2.has n) := by
  obtain ⟨p, set⟩ := s
  cases set with
  | nil => rfl
  | cons first set =>
    rw [pass]
    split
    · rename_i hfirst
      rw [has_of_le _ (hfirst ▸ h)]
      simp
    · rfl

theorem of_meetWithin {condition : List Bool → Bool} {fuel : Nat} {sets : List (Bool × CodePoints)}
    (h : meetWithin condition fuel sets = true) (n : Nat) :
    condition (sets.map fun s => s.1 ^^ s.2.has n) = true := by
  induction fuel generalizing sets with
  | zero => cases h
  | succ fuel ih =>
    rw [meetWithin, Bool.and_eq_true] at h
    obtain ⟨hhere, hrest⟩ := h
    have hbefore : (∀ s ∈ sets, s.2.has n = false) →
        condition (sets.map fun s => s.1 ^^ s.2.has n) = true := by
      intro hnone
      have hsame : (sets.map fun s => s.1 ^^ s.2.has n) = sets.map (·.1) :=
        List.map_congr_left fun s hs => by rw [hnone s hs, Bool.xor_false]
      rwa [hsame]
    split at hrest
    · rename_i hheads
      refine hbefore fun s hs => ?_
      have hhead : s.2.head? = none :=
        List.filterMap_eq_nil_iff.mp (List.min?_eq_none_iff.mp hheads) s hs
      rw [List.head?_eq_none_iff.mp hhead, has_nil]
    · rename_i bound hbound
      rcases Nat.lt_or_ge n bound with hn | hn
      · refine hbefore fun s hs => ?_
        cases hset : s.2 with
        | nil => rfl
        | cons first set =>
          have hmem : first ∈ sets.filterMap (·.2.head?) :=
            List.mem_filterMap.mpr ⟨s, hs, by rw [hset]; rfl⟩
          have hle : bound ≤ first := (List.min?_eq_some_iff.mp hbound).2 first hmem
          exact has_eq_false_of_lt _ (Nat.lt_of_lt_of_le hn hle)
      · have hpassed := ih hrest
        rw [List.map_map] at hpassed
        rwa [← List.map_congr_left fun s _ => has_pass hn s]

theorem of_meet {condition : List Bool → Bool} {sets : List CodePoints}
    (h : meet condition sets = true) (n : Nat) :
    condition (sets.map fun set => set.has n) = true := by
  have hall := of_meetWithin h n
  rw [List.map_map] at hall
  simpa [Function.comp_def] using hall

end CodePoints

theorem isAlphanum_of_not_ascii {c : Char} (h : ¬ c.toNat < 128) : c.isAlphanum = false := by
  have hval : c.val.toNat = c.toNat := rfl
  have hupper : c.isUpper = decide (65 ≤ c.val ∧ c.val ≤ 90) := rfl
  have hlower : c.isLower = (decide (97 ≤ c.val) && decide (c.val ≤ 122)) := rfl
  have halpha : c.isAlpha = (c.isUpper || c.isLower) := rfl
  simp [Char.isAlphanum, halpha, hupper, hlower, Char.isDigit, UInt32.le_iff_toNat_le, hval]
  omega

/-- White space is no part of a word. -/
theorem isWord_of_isSpace {c : Char} (h : isSpace c = true) : isWord c = false := by
  by_cases hc : c.toNat < 128
  · exact forall_below (P := fun c => isSpace c = true → isWord c = false) (by decide) hc h
  · have hspace : Property.space.has c.toNat = true := by
      have hblank : c ≠ ' ' := fun heq => hc (heq ▸ by decide)
      rw [isSpace, Bool.or_eq_true, Bool.or_eq_true, Bool.or_eq_true] at h
      simp only [beq_iff_eq, hblank, Bool.and_eq_true, decide_eq_true_eq, false_or] at h
      rcases h with (h | h) | h
      · omega
      · omega
      · exact h
    have hword : Property.alphanumeric.has c.toNat = false :=
      CodePoints.not_has_of_disjoint (by decide +kernel) hspace
    have hmark : c ≠ '_' := fun heq => hc (heq ▸ by decide)
    rw [isWord, isAlphanumeric, hword, isAlphanum_of_not_ascii hc]
    simpa using hmark

theorem isSpace_of_isWord {c : Char} (h : isWord c = true) : isSpace c = false := by
  rw [Bool.eq_false_iff]
  intro hspace
  rw [isWord_of_isSpace hspace] at h
  cases h

end EntityMapper.Text

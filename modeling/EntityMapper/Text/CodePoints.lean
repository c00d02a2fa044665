/-!
# Sets of code points and case runs

A set of code points is the ascending list of the points at which membership changes, and a case
mapping is a list of runs that are moved by one distance.  Both are read by structural recursion,
so they evaluate in proofs as well as when run.
-/

namespace EntityMapper.Text

/-- A set of code points: membership changes at each listed point, and nothing below the first is
a member. -/
abbrev CodePoints := List Nat

/-- Whether a code point lies in the set. -/
def CodePoints.has : CodePoints → Nat → Bool
  | [], _ => false
  | bound :: bounds, n => bound ≤ n && !CodePoints.has bounds n

theorem CodePoints.has_eq_false_of_lt {bound n : Nat} (bounds : CodePoints) (h : n < bound) :
    CodePoints.has (bound :: bounds) n = false := by
  simp [CodePoints.has, Nat.not_le.mpr h]

/-- Every `stride`-th code point from `first` to `last` is moved by `shift`. -/
structure CaseRun where
  first : Nat
  last : Nat
  stride : Nat
  shift : Int

/-- Whether the run moves a code point. -/
def CaseRun.moves (run : CaseRun) (n : Nat) : Bool :=
  run.first ≤ n && n ≤ run.last && (n - run.first) % run.stride == 0

/-- The image of a code point under the first run that moves it. -/
def CaseRun.image? (runs : List CaseRun) (n : Nat) : Option Char :=
  (runs.find? (·.moves n)).map fun run => Char.ofNat ((n : Int) + run.shift).toNat

end EntityMapper.Text

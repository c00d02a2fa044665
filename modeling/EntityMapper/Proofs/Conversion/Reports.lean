import EntityMapper.Conversion.Report

/-!
# Reports put together

Appending reports is associative, and the empty report adds nothing.
-/

namespace EntityMapper.Conversion.Report

@[simp] theorem append_empty (r : Report) : r ++ ({} : Report) = r := by
  change append r {} = r
  simp [append]

@[simp] theorem empty_append (r : Report) : ({} : Report) ++ r = r := by
  change append {} r = r
  simp [append]

theorem append_assoc (a b c : Report) : a ++ b ++ c = a ++ (b ++ c) := by
  change append (append a b) c = append a (append b c)
  simp [append, List.append_assoc, String.append_assoc]

@[simp] theorem written_append (a b : Report) : (a ++ b).written = a.written ++ b.written := rfl

@[simp] theorem failed_append (a b : Report) : (a ++ b).failed = a.failed ++ b.failed := rfl

@[simp] theorem printed_append (a b : Report) : (a ++ b).printed = a.printed ++ b.printed := rfl

/-- The report of consecutive conversions, whose reports are given. -/
def joined (rs : List Report) : Report :=
  rs.foldr (· ++ ·) {}

@[simp] theorem joined_cons (r : Report) (rs : List Report) :
    joined (r :: rs) = r ++ joined rs := rfl

end EntityMapper.Conversion.Report

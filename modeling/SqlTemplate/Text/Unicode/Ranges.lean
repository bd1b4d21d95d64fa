/-!
# Ranges of code points

A character class of the Unicode standard is kept as the list of its ranges of code
points.  The ranges ascend and do not touch, so a search may stop at the first range
that begins above the character it looks for.
-/

namespace SqlTemplate.Text.Unicode

/-- Ranges of code points, each with its first and its last member, in ascending order. -/
abbrev Ranges := List (Nat × Nat)

/-- Whether a code point lies in one of the ranges. -/
def Ranges.holds : Ranges → Nat → Bool
  | [], _ => false
  | (first, last) :: rest, code =>
      if code < first then false else code ≤ last || Ranges.holds rest code

/-- A code point that is found lies between the ends of some range. -/
theorem Ranges.exists_of_holds {ranges : Ranges} {code : Nat} (h : ranges.holds code = true) :
    ∃ range ∈ ranges, range.1 ≤ code ∧ code ≤ range.2 := by
  induction ranges with
  | nil => cases h
  | cons range rest ih =>
    rw [holds] at h
    split at h
    · cases h
    · rename_i hfirst
      rw [Bool.or_eq_true, decide_eq_true_eq] at h
      rcases h with hlast | hrest
      · exact ⟨range, List.mem_cons_self, Nat.le_of_not_lt hfirst, hlast⟩
      · obtain ⟨other, hmem, hbounds⟩ := ih hrest
        exact ⟨other, List.mem_cons_of_mem _ hmem, hbounds⟩

end SqlTemplate.Text.Unicode

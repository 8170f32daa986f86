/-!
# Ranges of code points

A character class of the Unicode standard is held as a list of closed ranges of code points.
-/

namespace ShaderLoom.Text

/-- Whether `n` lies in one of the closed ranges `ranges`. -/
def inRanges (ranges : List (Nat × Nat)) (n : Nat) : Bool :=
  ranges.any fun range => range.1 ≤ n && n ≤ range.2

theorem inRanges_iff {ranges : List (Nat × Nat)} {n : Nat} :
    inRanges ranges n = true ↔ ∃ range ∈ ranges, range.1 ≤ n ∧ n ≤ range.2 := by
  simp [inRanges, List.any_eq_true]

end ShaderLoom.Text

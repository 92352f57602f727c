/-!
# Classes of characters as ranges of code points

A class beyond the basic block is a list of closed ranges in increasing order.  Looking a code
point up stops at the first range that starts above it.
-/

namespace HomeConfig
namespace Text

/-- Whether a number lies in one of the closed ranges, given in increasing order. -/
def inRanges (code : Nat) : List (Nat × Nat) → Bool
  | [] => false
  | (first, last) :: rest => if code < first then false else code ≤ last || inRanges code rest

/-- What lies in the ranges lies between the ends of one of them. -/
theorem exists_of_inRanges {code : Nat} {ranges : List (Nat × Nat)}
    (found : inRanges code ranges = true) :
    ∃ range ∈ ranges, range.1 ≤ code ∧ code ≤ range.2 := by
  induction ranges with
  | nil => simp [inRanges] at found
  | cons head rest ih =>
    simp only [inRanges] at found
    split at found
    · exact absurd found (by simp)
    · next above =>
      cases inside : decide (code ≤ head.2) with
      | true => exact ⟨head, by simp, by omega, by simpa using inside⟩
      | false =>
        obtain ⟨range, member, bounds⟩ := ih (by simpa [inside] using found)
        exact ⟨range, List.mem_cons_of_mem _ member, bounds⟩

end Text
end HomeConfig

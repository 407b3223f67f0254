/-!
Classes of characters as ascending lists of code point ranges.

Main statement: on an ascending table the search that stops early finds exactly the
members of the ranges (`contains_iff`).
-/

namespace ActionLookup.Text

/-- Ranges of code points, both ends included. -/
abbrev RangeTable := List (Nat × Nat)

namespace RangeTable

/-- Stops at the first range that does not end below `n`. -/
def contains : RangeTable → Nat → Bool
  | [], _ => false
  | (lo, hi) :: rest, n => if n ≤ hi then decide (lo ≤ n) else contains rest n

def ascendingFrom : Nat → RangeTable → Bool
  | _, [] => true
  | low, (lo, hi) :: rest => decide (low ≤ lo) && decide (lo ≤ hi) && ascendingFrom (hi + 1) rest

def ascending (t : RangeTable) : Bool := ascendingFrom 0 t

theorem exists_of_contains {t : RangeTable} {n : Nat} (h : t.contains n = true) :
    ∃ r ∈ t, r.1 ≤ n ∧ n ≤ r.2 := by
  induction t with
  | nil => simp [contains] at h
  | cons r rest ih =>
      obtain ⟨lo, hi⟩ := r
      simp only [contains] at h
      split at h
      · exact ⟨(lo, hi), List.mem_cons_self .., by simpa using h, by assumption⟩
      · obtain ⟨r, hr, hn⟩ := ih h
        exact ⟨r, List.mem_cons_of_mem _ hr, hn⟩

theorem low_le_of_ascendingFrom {t : RangeTable} {low : Nat} (h : ascendingFrom low t = true) :
    ∀ r ∈ t, low ≤ r.1 := by
  induction t generalizing low with
  | nil => simp
  | cons r rest ih =>
      obtain ⟨lo, hi⟩ := r
      simp only [ascendingFrom, Bool.and_eq_true, decide_eq_true_eq] at h
      intro r hr
      cases hr with
      | head => exact h.1.1
      | tail _ hr => have := ih h.2 r hr; omega

theorem contains_of_ascendingFrom {t : RangeTable} {low n : Nat} (h : ascendingFrom low t = true)
    {r : Nat × Nat} (hr : r ∈ t) (hn : r.1 ≤ n ∧ n ≤ r.2) : t.contains n = true := by
  induction t generalizing low with
  | nil => simp at hr
  | cons s rest ih =>
      obtain ⟨lo, hi⟩ := s
      simp only [ascendingFrom, Bool.and_eq_true, decide_eq_true_eq] at h
      simp only [contains]
      cases hr with
      | head => simp [hn.1, hn.2]
      | tail _ hr =>
          have := low_le_of_ascendingFrom h.2 r hr
          rw [if_neg (by omega)]
          exact ih h.2 hr

theorem contains_iff {t : RangeTable} (h : t.ascending = true) {n : Nat} :
    t.contains n = true ↔ ∃ r ∈ t, r.1 ≤ n ∧ n ≤ r.2 :=
  ⟨exists_of_contains, fun ⟨_, hr, hn⟩ => contains_of_ascendingFrom h hr hn⟩

end RangeTable

end ActionLookup.Text

/-!
# Sets of characters

A set of characters is given by ranges of their numbers. The ranges stand in increasing order, so
that a search ends at the first range above the character.
-/

namespace MiniC

/-- Ranges of character numbers, both ends included. -/
structure CharSet where
  ranges : List (Nat × Nat)
deriving DecidableEq, Inhabited

namespace CharSet

/-- Whether `n` lies in one of the ranges, which are in order. -/
def search (n : Nat) : List (Nat × Nat) → Bool
  | [] => false
  | (lo, hi) :: rest => lo ≤ n && (n ≤ hi || search n rest)

def contains (s : CharSet) (c : Char) : Bool := search c.toNat s.ranges

/-- Whether every range begins after `bound` and after the ranges before it. -/
def orderedFrom (bound : Nat) : List (Nat × Nat) → Bool
  | [] => true
  | (lo, hi) :: rest => bound ≤ lo && lo ≤ hi && orderedFrom (hi + 1) rest

def isOrdered (s : CharSet) : Bool := orderedFrom 0 s.ranges

theorem search_eq_false {n bound : Nat} {rs : List (Nat × Nat)} (hr : orderedFrom bound rs)
    (hn : n < bound) : rs.any (fun (lo, hi) => lo ≤ n && n ≤ hi) = false := by
  induction rs generalizing bound with
  | nil => rfl
  | cons r rs ih =>
    obtain ⟨lo, hi⟩ := r
    simp only [orderedFrom, Bool.and_eq_true, decide_eq_true_eq] at hr
    have := ih hr.2 (by omega)
    simp only [List.any_cons, this, Bool.or_false, Bool.and_eq_false_imp, decide_eq_true_eq]
    omega

theorem search_eq_any {n bound : Nat} {rs : List (Nat × Nat)} (hr : orderedFrom bound rs) :
    search n rs = rs.any fun (lo, hi) => lo ≤ n && n ≤ hi := by
  induction rs generalizing bound with
  | nil => rfl
  | cons r rs ih =>
    obtain ⟨lo, hi⟩ := r
    simp only [orderedFrom, Bool.and_eq_true, decide_eq_true_eq] at hr
    by_cases hn : lo ≤ n
    · simp [search, hn, ih hr.2]
    · have := search_eq_false (n := n) hr.2 (by omega)
      simp [search, hn, this]

/-- The search of an ordered set finds what is in any of its ranges. -/
theorem contains_eq_any {s : CharSet} (hs : s.isOrdered) (c : Char) :
    s.contains c = s.ranges.any fun (lo, hi) => lo ≤ c.toNat && c.toNat ≤ hi :=
  search_eq_any hs

end CharSet

end MiniC

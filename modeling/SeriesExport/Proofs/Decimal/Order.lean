import Mathlib.Algebra.Order.Ring.Int
import Mathlib.Data.Prod.Lex

/-! The order of binary numbers. Every number but the undefined one has a rank, and comparisons go by
the ranks. Main statements: `lt_of_lt_of_le`, `lt_of_le_of_lt`, `not_lt_of_le`, `beq_symm` and
`beq_trans`, the laws of a linear order that hold although one number compares with none. -/
namespace SeriesExport.Decimal
set_option autoImplicit false

open Float.Model (UnpackedFloat)

/-- The kind of a number, then its size: exponents count before mantissas, and both the other way
below zero. -/
def unpackedRank? : UnpackedFloat → Option (ℤ ×ₗ ℤ ×ₗ ℤ)
  | .notANumber => none
  | .infinity .negative => some (toLex (-2, toLex (0, 0)))
  | .finite .negative mantissa exponent _ => some (toLex (-1, toLex (-exponent, -mantissa)))
  | .zero _ => some (toLex (0, toLex (0, 0)))
  | .finite .positive mantissa exponent _ => some (toLex (1, toLex (exponent, mantissa)))
  | .infinity .positive => some (toLex (2, toLex (0, 0)))

def rank? (x : Float) : Option (ℤ ×ₗ ℤ ×ₗ ℤ) := unpackedRank? x.toModel.unpack

/-! ## Ranks are compared -/

theorem compare_neg_neg (m n : ℤ) : compare (-m) (-n) = (compare m n).swap := by
  have hneg : StrictAnti fun n : ℤ => -n := fun _ _ h => neg_lt_neg h
  rw [← Std.OrientedCmp.eq_swap, ← cmp_eq_compare, ← cmp_eq_compare]
  exact hneg.cmp_map_eq m n

theorem compare_cast_cast (m n : ℕ) : compare (m : ℤ) n = compare m n := by
  rw [← cmp_eq_compare, ← cmp_eq_compare]
  exact (Nat.strictMono_cast (α := ℤ)).cmp_map_eq m n

/-- Of two numbers of one kind, the exponents and then the mantissas are compared. -/
theorem compare_of_kind (kind e m f n : ℤ) :
    compare (toLex (kind, toLex (e, m))) (toLex (kind, toLex (f, n))) =
      (compare e f).then (compare m n) := by
  show (compare kind kind).then ((compare e f).then (compare m n)) = _
  rw [compare_eq_iff_eq.2 (rfl : kind = kind)]
  rfl

theorem compare_eq (a b : UnpackedFloat) :
    a.compare b = (unpackedRank? a).bind fun x => (unpackedRank? b).map fun y => compare x y := by
  rcases a with (_ | _) | _ | _ | ⟨(_ | _), m, e, hm⟩ <;>
    rcases b with (_ | _) | _ | _ | ⟨(_ | _), n, f, hn⟩ <;>
    try rfl
  · show some ((compare e f).then (compare m n)).swap = some (compare _ _)
    rw [compare_of_kind, compare_neg_neg, compare_neg_neg, compare_cast_cast, Ordering.swap_then]
  · show some ((compare e f).then (compare m n)) = some (compare _ _)
    rw [compare_of_kind, compare_cast_cast]

theorem compare_model (a b : Float) : a.toModel.unpack.compare b.toModel.unpack =
    (rank? a).bind fun x => (rank? b).map fun y => compare x y := compare_eq _ _

theorem lt_iff {a b : Float} : a < b ↔ ∃ x ∈ rank? a, ∃ y ∈ rank? b, x < y := by
  show decide (a.toModel < b.toModel) = true ↔ _
  rw [decide_eq_true_iff]
  show (a.toModel.unpack.compare b.toModel.unpack == some .lt) = true ↔ _
  rw [beq_iff_eq, compare_model]
  cases rank? a <;> cases rank? b <;> simp [compare_lt_iff_lt]

theorem le_iff {a b : Float} : a ≤ b ↔ ∃ x ∈ rank? a, ∃ y ∈ rank? b, x ≤ y := by
  show decide (a.toModel ≤ b.toModel) = true ↔ _
  rw [decide_eq_true_iff]
  show Option.any (·.isLE) (a.toModel.unpack.compare b.toModel.unpack) = true ↔ _
  rw [compare_model]
  cases rank? a <;> cases rank? b <;> simp [← Ordering.ne_gt_iff_isLE, compare_le_iff_le]

theorem beq_iff {a b : Float} : (a == b) = true ↔ ∃ x ∈ rank? a, ∃ y ∈ rank? b, x = y := by
  show (a.toModel.unpack.compare b.toModel.unpack == some .eq) = true ↔ _
  rw [beq_iff_eq, compare_model]
  cases rank? a <;> cases rank? b <;> simp [compare_eq_iff_eq]
  exact eq_comm

/-! ## Laws -/

variable {a b c : Float}

theorem lt_of_lt_of_le (hab : a < b) (hbc : b ≤ c) : a < c := by
  obtain ⟨x, hx, y, hy, hxy⟩ := lt_iff.1 hab
  obtain ⟨y', hy', z, hz, hyz⟩ := le_iff.1 hbc
  cases Option.mem_unique hy hy'
  exact lt_iff.2 ⟨x, hx, z, hz, hxy.trans_le hyz⟩

theorem lt_of_le_of_lt (hab : a ≤ b) (hbc : b < c) : a < c := by
  obtain ⟨x, hx, y, hy, hxy⟩ := le_iff.1 hab
  obtain ⟨y', hy', z, hz, hyz⟩ := lt_iff.1 hbc
  cases Option.mem_unique hy hy'
  exact lt_iff.2 ⟨x, hx, z, hz, hxy.trans_lt hyz⟩

theorem not_lt_of_le (hab : a ≤ b) : ¬ b < a := by
  intro hba
  obtain ⟨x, hx, y, hy, hxy⟩ := le_iff.1 hab
  obtain ⟨y', hy', x', hx', hyx⟩ := lt_iff.1 hba
  cases Option.mem_unique hx hx'
  cases Option.mem_unique hy hy'
  exact absurd hyx hxy.not_gt

theorem beq_symm (h : (a == b) = true) : (b == a) = true := by
  obtain ⟨x, hx, y, hy, hxy⟩ := beq_iff.1 h
  exact beq_iff.2 ⟨y, hy, x, hx, hxy.symm⟩

theorem beq_trans (hab : (a == b) = true) (hbc : (b == c) = true) : (a == c) = true := by
  obtain ⟨x, hx, y, hy, hxy⟩ := beq_iff.1 hab
  obtain ⟨y', hy', z, hz, hyz⟩ := beq_iff.1 hbc
  cases Option.mem_unique hy hy'
  exact beq_iff.2 ⟨x, hx, z, hz, hxy.trans hyz⟩

end SeriesExport.Decimal

import Mathlib.Data.List.Basic
import SeriesExport.Text.Digits

/-! Pieces of text in front of a mark. A piece that lacks the first character of the mark ends where
that character first stands, so what is written gives it back. Numerals lack every character but
digits and the minus sign. -/
namespace SeriesExport.Text
set_option autoImplicit false

theorem append_cons_inj_of_absent {c : Char} {a b x y : List Char} (ha : c ∉ a) (hb : c ∉ b)
    (h : a ++ c :: x = b ++ c :: y) : a = b ∧ x = y := by
  induction a generalizing b with
  | nil =>
    cases b with
    | nil => exact ⟨rfl, (List.cons.inj h).2⟩
    | cons d b => exact absurd ((List.cons.inj h).1 ▸ List.mem_cons_self) hb
  | cons d a ih =>
    rw [List.mem_cons, not_or] at ha
    cases b with
    | nil => exact absurd (List.cons.inj h).1.symm ha.1
    | cons e b =>
      obtain ⟨rfl, hrest⟩ := List.cons.inj h
      obtain ⟨rfl, hxy⟩ := ih ha.2 (fun hc => hb (List.mem_cons_of_mem _ hc)) hrest
      exact ⟨rfl, hxy⟩

/-- Texts that lack the first character of a mark are the same if they are in front of it. -/
theorem append_mark_inj {c : Char} {mark a b x y : String} (hmark : mark.toList.head? = some c)
    (ha : c ∉ a.toList) (hb : c ∉ b.toList) (h : a ++ (mark ++ x) = b ++ (mark ++ y)) :
    a = b ∧ x = y := by
  obtain ⟨rest, hrest⟩ := List.head?_eq_some_iff.1 hmark
  have hlists := congrArg String.toList h
  simp only [String.toList_append, hrest, List.cons_append] at hlists
  obtain ⟨hab, hxy⟩ := append_cons_inj_of_absent ha hb hlists
  exact ⟨String.toList_inj.1 hab, String.toList_inj.1 (List.append_cancel_left hxy)⟩

/-! ## Numerals -/

theorem repr_inj {m n : Nat} (h : m.repr = n.repr) : m = n := by
  have hdigits : digitsOf m = digitsOf n := by
    unfold digitsOf
    rw [← Nat.toList_repr, ← Nat.toList_repr, h]
  rw [← valueOfDigits_digitsOf m, hdigits, valueOfDigits_digitsOf]

theorem isDigit_of_mem_repr {n : Nat} {c : Char} (h : c ∈ n.repr.toList) : c.isDigit = true := by
  rw [Nat.toList_repr] at h
  exact Nat.isDigit_of_mem_toDigits (by decide) (by decide) h

theorem repr_ne_negative (m n : Nat) : m.repr ≠ "-" ++ n.repr := by
  intro h
  have hsign : '-' ∈ m.repr.toList := by
    rw [h, String.toList_append]
    exact List.mem_append_left _ List.mem_cons_self
  exact absurd (isDigit_of_mem_repr hsign) (by decide)

theorem numeral_inj {m n : Int} (h : toString m = toString n) : m = n := by
  rw [Int.toString_eq_repr, Int.toString_eq_repr, Int.repr_eq_if, Int.repr_eq_if] at h
  by_cases hm : 0 ≤ m <;> by_cases hn : 0 ≤ n
  · rw [if_pos hm, if_pos hn] at h
    have hnat := repr_inj h
    omega
  · rw [if_pos hm, if_neg hn] at h
    exact absurd h (repr_ne_negative _ _)
  · rw [if_neg hm, if_pos hn] at h
    exact absurd h.symm (repr_ne_negative _ _)
  · rw [if_neg hm, if_neg hn, String.append_right_inj] at h
    have hnat := repr_inj h
    omega

theorem mem_numeral {n : Int} {c : Char} (h : c ∈ (toString n).toList) : c = '-' ∨ c.isDigit = true := by
  rw [Int.toString_eq_repr, Int.repr_eq_if] at h
  split at h
  · exact Or.inr (isDigit_of_mem_repr h)
  · rw [String.toList_append, List.mem_append] at h
    rcases h with h | h
    · exact Or.inl (List.mem_singleton.1 h)
    · exact Or.inr (isDigit_of_mem_repr h)

theorem not_mem_numeral {c : Char} (hsign : c ≠ '-') (hdigit : c.isDigit = false) (n : Int) :
    c ∉ (toString n).toList := by
  intro h
  rcases mem_numeral h with h | h
  · exact hsign h
  · exact Bool.false_ne_true (hdigit.symm.trans h)

end SeriesExport.Text

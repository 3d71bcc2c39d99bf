import Mathlib.Order.Bounds.Basic
import SeriesExport.Proofs.Decimal.Order
import SeriesExport.Proofs.Table.Kept

/-! Changes of a series. Some numbers carry a series when every cell left out is the same as the one
at the nearest number before it, so that the series can be read off them. Main statement:
`changedIndices_least`, that the changes are the least numbers that do, and are all changes again when
taken alone. -/
namespace SeriesExport
set_option autoImplicit false

/-! ## Cells that are the same -/

namespace Cell

variable {a b c : Cell}

theorem same_symm (h : a.same b = true) : b.same a = true := by
  cases a <;> cases b <;> simp only [same, Bool.false_eq_true] at h ⊢ <;>
    first | exact Decimal.beq_symm h | exact BEq.symm h

theorem same_trans (hab : a.same b = true) (hbc : b.same c = true) : a.same c = true := by
  cases a <;> cases b <;> simp only [same, Bool.false_eq_true] at hab <;>
    cases c <;> simp only [same, Bool.false_eq_true] at hbc ⊢ <;>
    first | exact Decimal.beq_trans hab hbc | exact BEq.trans hab hbc

instance : PartialEquivBEq Cell := ⟨same_symm, same_trans⟩

end Cell

variable {cells : List Cell} {numbers : Set Nat} {i j : Nat}

/-! ## The nearest number before another -/

/-- The nearest of the numbers before `i`. -/
def IsNearest (numbers : Set Nat) (j i : Nat) : Prop := IsGreatest {k ∈ numbers | k < i} j

theorem isNearest_self (h : i ∈ numbers) : IsNearest numbers i (i + 1) :=
  ⟨⟨h, Nat.lt_succ_self i⟩, fun _ hk => Nat.le_of_lt_succ hk.2⟩

/-- A number that is left out has the same nearest number before it as the next. -/
theorem isNearest_succ_iff (h : i ∉ numbers) : IsNearest numbers j (i + 1) ↔ IsNearest numbers j i := by
  have hset : {k ∈ numbers | k < i + 1} = {k ∈ numbers | k < i} := by
    ext k
    refine and_congr_right fun hk => ?_
    have hne : k ≠ i := fun hki => h (hki ▸ hk)
    omega
  unfold IsNearest
  rw [hset]

/-! ## Numbers that carry a series -/

/-- Two numbers have cells, and these are the same. -/
def SameAt (cells : List Cell) (i j : Nat) : Prop :=
  ∃ a b, cells[i]? = some a ∧ cells[j]? = some b ∧ (a == b) = true

/-- The series can be read off its cells at some numbers, the first and the last among them: what is
left out repeats the cell at the nearest number before it. -/
structure Carries (cells : List Cell) (numbers : Set Nat) : Prop where
  first : cells ≠ [] → 0 ∈ numbers
  last : cells ≠ [] → cells.length - 1 ∈ numbers
  carried : ∀ i < cells.length, i ∉ numbers → ∃ j, IsNearest numbers j i ∧ SameAt cells i j

theorem SameAt.symm (h : SameAt cells i j) : SameAt cells j i := by
  obtain ⟨a, b, ha, hb, hab⟩ := h
  exact ⟨b, a, hb, ha, BEq.symm hab⟩

theorem SameAt.trans {k : Nat} (hij : SameAt cells i j) (hjk : SameAt cells j k) : SameAt cells i k := by
  obtain ⟨a, b, ha, hb, hab⟩ := hij
  obtain ⟨b', c, hb', hc, hbc⟩ := hjk
  cases hb.symm.trans hb'
  exact ⟨a, c, ha, hc, BEq.trans hab hbc⟩

/-- Of the numbers that are left out, each has the cell of the one just before it. -/
theorem carried_iff (hfirst : cells ≠ [] → 0 ∈ numbers) :
    (∀ i < cells.length, i ∉ numbers → ∃ j, IsNearest numbers j i ∧ SameAt cells i j) ↔
      ∀ i, i + 1 < cells.length → i + 1 ∉ numbers → SameAt cells (i + 1) i := by
  constructor
  · intro h i hi hout
    obtain ⟨j, hj, hsame⟩ := h (i + 1) hi hout
    by_cases hin : i ∈ numbers
    · rw [hj.unique (isNearest_self hin)] at hsame
      exact hsame
    · -- Both numbers are left out, and carried on from the same one.
      obtain ⟨k, hk, hsame'⟩ := h i (Nat.lt_of_succ_lt hi) hin
      rw [hj.unique ((isNearest_succ_iff hin).2 hk)] at hsame
      exact hsame.trans hsame'.symm
  · intro h i
    induction i with
    | zero => exact fun hi hout => absurd (hfirst (List.length_pos_iff.1 hi)) hout
    | succ i ih =>
      intro hi hout
      have hsame := h i hi hout
      by_cases hin : i ∈ numbers
      · exact ⟨i, isNearest_self hin, hsame⟩
      · obtain ⟨j, hj, hsame'⟩ := ih (Nat.lt_of_succ_lt hi) hin
        exact ⟨j, (isNearest_succ_iff hin).2 hj, hsame.trans hsame'⟩

/-! ## The changes -/

theorem changesAt_succ_iff (hi : i + 1 < cells.length) :
    changesAt cells (i + 1) = true ↔ ¬ SameAt cells (i + 1) i := by
  have hprevious : i < cells.length := Nat.lt_of_succ_lt hi
  unfold changesAt SameAt
  rw [Nat.add_sub_cancel, List.getElem?_eq_getElem hi, List.getElem?_eq_getElem hprevious]
  simp

theorem changes_carry (cells : List Cell) : Carries cells {i | i ∈ changedIndices cells} := by
  have hfirst : cells ≠ [] → 0 ∈ {i | i ∈ changedIndices cells} := fun hne =>
    mem_keptIndices.2 ⟨List.length_pos_iff.2 hne, Or.inl rfl⟩
  refine ⟨hfirst, ?_, (carried_iff hfirst).2 ?_⟩
  · intro hne
    have hpos := List.length_pos_iff.2 hne
    exact mem_keptIndices.2 ⟨by omega, Or.inr (Or.inl (by omega))⟩
  · intro i hi hout
    by_contra hdiffers
    exact hout (mem_keptIndices.2 ⟨hi, Or.inr (Or.inr ((changesAt_succ_iff hi).2 hdiffers))⟩)

theorem changes_subset (h : Carries cells numbers) (hi : i ∈ changedIndices cells) : i ∈ numbers := by
  obtain ⟨hlt, hcause⟩ := mem_keptIndices.1 hi
  have hne : cells ≠ [] := List.ne_nil_of_length_pos (Nat.zero_lt_of_lt hlt)
  rcases hcause with rfl | hlast | hchanges
  · exact h.first hne
  · have hlength : cells.length - 1 = i := by omega
    exact hlength ▸ h.last hne
  · cases i with
    | zero => exact h.first hne
    | succ i =>
      by_contra hout
      exact (changesAt_succ_iff hlt).1 hchanges ((carried_iff h.first).1 h.carried i hlt hout)

/-! ## The changes alone -/

theorem isNearest_getElem {numbers : List Nat} (h : numbers.Pairwise (· < ·)) {k : Nat}
    (hk : k + 1 < numbers.length) : IsNearest {i | i ∈ numbers} numbers[k] numbers[k + 1] := by
  have hlt := List.pairwise_iff_getElem.1 h
  refine ⟨⟨List.getElem_mem _, hlt k (k + 1) _ hk (Nat.lt_succ_self k)⟩, ?_⟩
  rintro i ⟨hi, hbefore⟩
  obtain ⟨m, hm, rfl⟩ := List.mem_iff_getElem.1 hi
  have hmk : m ≤ k := by
    by_contra hlater
    rcases Nat.eq_or_lt_of_le (Nat.lt_of_not_le hlater) with rfl | hgap
    · exact Nat.lt_irrefl _ hbefore
    · exact Nat.lt_asymm hbefore (hlt (k + 1) m hk hm hgap)
  rcases Nat.eq_or_lt_of_le hmk with rfl | hearlier
  · exact Nat.le_refl _
  · exact Nat.le_of_lt (hlt m k hm _ hearlier)

theorem not_sameAt_nearest (hi : i ∈ changedIndices cells) (hfirst : i ≠ 0)
    (hlast : i + 1 ≠ cells.length) (hj : IsNearest {i | i ∈ changedIndices cells} j i) :
    ¬ SameAt cells i j := by
  obtain ⟨p, rfl⟩ := Nat.exists_eq_succ_of_ne_zero hfirst
  obtain ⟨hlt, hcause⟩ := mem_keptIndices.1 hi
  have hdiffers := (changesAt_succ_iff hlt).1 ((hcause.resolve_left hfirst).resolve_left hlast)
  intro hsame
  by_cases hp : p ∈ {i | i ∈ changedIndices cells}
  · rw [hj.unique (isNearest_self hp)] at hsame
    exact hdiffers hsame
  · obtain ⟨k, hk, hsame'⟩ := (changes_carry cells).carried p (Nat.lt_of_succ_lt hlt) hp
    rw [hj.unique ((isNearest_succ_iff hp).2 hk)] at hsame
    exact hdiffers (hsame.trans hsame'.symm)

/-- A change is still one when the cells between it and the change before are gone. -/
theorem changedIndices_changes (cells : List Cell) :
    changedIndices (pick cells (changedIndices cells)) =
      List.range (pick cells (changedIndices cells)).length := by
  have hincreasing : (changedIndices cells).Pairwise (· < ·) := keptIndices_increasing _ _
  have hrange : ∀ i ∈ changedIndices cells, i < cells.length := fun i hi => (mem_keptIndices.1 hi).1
  have hlt := List.pairwise_iff_getElem.1 hincreasing
  refine keptIndices_eq_range fun k hk => ?_
  rw [length_pick hrange] at hk
  rw [length_pick hrange]
  cases k with
  | zero => exact Or.inl rfl
  | succ k =>
    by_cases hend : k + 2 = (changedIndices cells).length
    · exact Or.inr (Or.inl hend)
    have hnext : k + 2 < (changedIndices cells).length := by omega
    refine Or.inr (Or.inr ((changesAt_succ_iff (by rwa [length_pick hrange])).2 fun hsame => ?_))
    unfold SameAt at hsame
    rw [getElem?_pick hrange hk, getElem?_pick hrange (Nat.lt_of_succ_lt hk)] at hsame
    have hafter := hlt k (k + 1) (Nat.lt_of_succ_lt hk) hk (Nat.lt_succ_self k)
    have hbefore := hlt (k + 1) (k + 2) hk hnext (Nat.lt_succ_self _)
    have hin := hrange _ (List.getElem_mem hnext)
    exact not_sameAt_nearest (List.getElem_mem hk) (by omega) (by omega)
      (isNearest_getElem hincreasing hk) hsame

/-- The changes of a series are the least numbers, with the first and the last, that carry it; taken
alone, they all are changes. -/
theorem changedIndices_least (cells : List Cell) :
    (changedIndices cells).Pairwise (· < ·) ∧ (∀ i ∈ changedIndices cells, i < cells.length) ∧
      IsLeast {numbers | Carries cells numbers} {i | i ∈ changedIndices cells} ∧
      changedIndices (pick cells (changedIndices cells)) =
        List.range (pick cells (changedIndices cells)).length :=
  ⟨keptIndices_increasing _ _, fun _ hi => (mem_keptIndices.1 hi).1,
    ⟨changes_carry cells, fun _ h _ hi => changes_subset h hi⟩, changedIndices_changes cells⟩

/-- An undefined number differs from itself, and is a change each time. -/
example : changedIndices [.real (0 / 0), .real (0 / 0), .real (0 / 0), .integer 1, .real 1,
    .real 1, .real 1] = [0, 1, 2, 3, 4, 6] := by
  decide +kernel

end SeriesExport

import Mathlib.Data.List.Basic
import SeriesExport.Table.Changes

/-! Elements kept by their numbers. Whatever the test, the first and the last are kept, and the others
stay in order. -/
namespace SeriesExport
set_option autoImplicit false

variable {α β : Type}

/-- The elements with the given numbers. -/
def pick (xs : List α) (numbers : List Nat) : List α := numbers.filterMap (xs[·]?)

/-- Some of the elements, in order, the first and the last among them. -/
structure Thins (kept xs : List α) : Prop where
  sublist : kept.Sublist xs
  head?_eq : kept.head? = xs.head?
  getLast?_eq : kept.getLast? = xs.getLast?

theorem Thins.refl (xs : List α) : Thins xs xs := ⟨List.Sublist.refl xs, rfl, rfl⟩

theorem pick_map (f : α → β) (xs : List α) (numbers : List Nat) :
    pick (xs.map f) numbers = (pick xs numbers).map f := by
  unfold pick
  rw [List.map_filterMap]
  simp only [List.getElem?_map]

theorem pick_nil (numbers : List Nat) : pick ([] : List α) numbers = [] :=
  List.filterMap_eq_nil_iff.2 fun _ _ => rfl

theorem pick_range (xs : List α) : pick xs (List.range xs.length) = xs := by
  induction xs with
  | nil => rfl
  | cons x xs ih =>
    rw [List.length_cons, List.range_succ_eq_map]
    unfold pick at ih ⊢
    rw [List.filterMap_cons, List.filterMap_map]
    exact congrArg (x :: ·) ih

/-- Every number that is in range gives an element. -/
theorem map_some_pick {xs : List α} {numbers : List Nat} (h : ∀ i ∈ numbers, i < xs.length) :
    (pick xs numbers).map some = numbers.map (xs[·]?) := by
  induction numbers with
  | nil => rfl
  | cons i numbers ih =>
    have hi := List.getElem?_eq_getElem (h i List.mem_cons_self)
    have hrest := ih fun j hj => h j (List.mem_cons_of_mem i hj)
    unfold pick at hrest ⊢
    rw [List.filterMap_cons_some hi, List.map_cons, List.map_cons, hrest, hi]

theorem length_pick {xs : List α} {numbers : List Nat} (h : ∀ i ∈ numbers, i < xs.length) :
    (pick xs numbers).length = numbers.length := by
  simpa using congrArg List.length (map_some_pick h)

theorem getElem?_pick {xs : List α} {numbers : List Nat} (h : ∀ i ∈ numbers, i < xs.length) {k : Nat}
    (hk : k < numbers.length) : (pick xs numbers)[k]? = xs[numbers[k]]? := by
  have hat := congrArg (·[k]?) (map_some_pick h)
  simp only [List.getElem?_map, List.getElem?_eq_getElem hk, Option.map_some] at hat
  obtain ⟨x, hx, hsome⟩ := Option.map_eq_some_iff.1 hat
  rw [hx, hsome]

theorem pick_perm {xs : List α} {order : List Nat}
    (h : order.Perm (List.range xs.length)) : (pick xs order).Perm xs := by
  have hpick : (pick xs order).Perm (pick xs (List.range xs.length)) := h.filterMap (xs[·]?)
  rwa [pick_range] at hpick

theorem pick_sublist {xs : List α} {numbers : List Nat}
    (h : numbers.Sublist (List.range xs.length)) : (pick xs numbers).Sublist xs := by
  have hall : (pick xs numbers).Sublist (pick xs (List.range xs.length)) := h.filterMap (xs[·]?)
  rw [pick_range] at hall
  exact hall

/-! ## The numbers that are kept -/

theorem mem_keptIndices {n i : Nat} {test : Nat → Bool} :
    i ∈ keptIndices n test ↔ i < n ∧ (i = 0 ∨ i + 1 = n ∨ test i = true) := by
  unfold keptIndices
  rw [List.mem_filter, List.mem_range, Bool.or_eq_true, Bool.or_eq_true, beq_iff_eq, beq_iff_eq,
    or_assoc]

theorem keptIndices_increasing (n : Nat) (test : Nat → Bool) :
    (keptIndices n test).Pairwise (· < ·) :=
  List.pairwise_lt_range.filter _

theorem keptIndices_sublist (n : Nat) {test test' : Nat → Bool}
    (h : ∀ i, test i = true → test' i = true) :
    (keptIndices n test).Sublist (keptIndices n test') := by
  refine List.monotone_filter_right _ fun i hi => ?_
  rw [Bool.or_eq_true] at hi ⊢
  exact hi.imp_right (h i)

theorem keptIndices_eq_range {n : Nat} {test : Nat → Bool}
    (h : ∀ i < n, i = 0 ∨ i + 1 = n ∨ test i = true) : keptIndices n test = List.range n := by
  refine List.filter_eq_self.2 fun i hi => ?_
  have hlt := List.mem_range.1 hi
  exact (List.mem_filter.1 (mem_keptIndices.2 ⟨hlt, h i hlt⟩)).2

/-! ## First and last -/

theorem exists_keptIndices_eq_cons (n : Nat) (test : Nat → Bool) : ∃ numbers,
    keptIndices (n + 1) test = 0 :: numbers := by
  unfold keptIndices
  rw [List.range_succ_eq_map, List.filter_cons_of_pos rfl]
  exact ⟨_, rfl⟩

theorem exists_keptIndices_eq_append (n : Nat) (test : Nat → Bool) : ∃ numbers,
    keptIndices (n + 1) test = numbers ++ [n] := by
  unfold keptIndices
  rw [List.range_succ, List.filter_append, List.filter_cons_of_pos (by simp)]
  exact ⟨_, rfl⟩

theorem thins_kept (xs : List α) (test : Nat → Bool) :
    Thins (pick xs (keptIndices xs.length test)) xs := by
  refine ⟨pick_sublist List.filter_sublist, ?_, ?_⟩
  · cases xs with
    | nil => rfl
    | cons x rest =>
      obtain ⟨numbers, hnumbers⟩ := exists_keptIndices_eq_cons rest.length test
      rw [List.length_cons, hnumbers]
      rfl
  · rcases List.eq_nil_or_concat' xs with rfl | ⟨rest, x, rfl⟩
    · rfl
    · obtain ⟨numbers, hnumbers⟩ := exists_keptIndices_eq_append rest.length test
      rw [List.length_append, List.length_singleton, hnumbers]
      unfold pick
      rw [List.filterMap_append, List.getLast?_append, List.getLast?_append]
      simp

end SeriesExport

import SeriesExport.Proofs.Decimal.Order
import SeriesExport.Proofs.Table.Kept

/-! Discontinuities of a series: the rows on both sides of each step that leaves a band. Main statement:
`discontinuityIndices_edges`, that these are kept and no others but the first and the last row, that a
wider band keeps fewer, and that it does not matter whether a step within the band is there. -/
namespace SeriesExport
set_option autoImplicit false

variable {band wider : Band} {steps : List (Option Float)} {i : Nat} {d : Float}

/-! ## Steps out of a band -/

namespace Band

/-- Outside the closed band. -/
def Excludes (b : Band) (d : Float) : Prop := d < b.low ∨ b.high < d

/-- There is a step into the row, and the band excludes it. -/
def IsLeftInto (b : Band) (steps : List (Option Float)) (i : Nat) : Prop :=
  ∃ d, steps[i]? = some (some d) ∧ b.Excludes d

theorem Excludes.of_wider (hlow : wider.low ≤ band.low) (hhigh : band.high ≤ wider.high)
    (h : wider.Excludes d) : band.Excludes d :=
  h.imp (fun h => Decimal.lt_of_lt_of_le h hlow) (fun h => Decimal.lt_of_le_of_lt hhigh h)

theorem not_excludes (hlow : band.low ≤ d) (hhigh : d ≤ band.high) : ¬ band.Excludes d :=
  not_or.2 ⟨Decimal.not_lt_of_le hlow, Decimal.not_lt_of_le hhigh⟩

theorem isLeftBy_some_iff : band.isLeftBy (some d) = true ↔ band.Excludes d := by
  rw [isLeftBy, Bool.or_eq_true, decide_eq_true_iff, decide_eq_true_iff]
  rfl

theorem isLeftBy_stepAt_iff : band.isLeftBy (stepAt steps i) = true ↔ band.IsLeftInto steps i := by
  unfold stepAt IsLeftInto
  rcases steps[i]? with _ | _ | d
  · simp [isLeftBy]
  · simp [isLeftBy]
  · simp [isLeftBy_some_iff]

theorem isLeftBy_of_wider (hlow : wider.low ≤ band.low) (hhigh : band.high ≤ wider.high)
    {step : Option Float} (h : wider.isLeftBy step = true) : band.isLeftBy step = true := by
  cases step with
  | none => cases h
  | some d => exact isLeftBy_some_iff.2 ((isLeftBy_some_iff.1 h).of_wider hlow hhigh)

end Band

/-! ## Rows next to such steps -/

/-- Increasing numbers of rows: the first, the last, and those on either side of a step out of the
band. -/
structure KeepsEdges (band : Band) (steps : List (Option Float)) (kept : List Nat) : Prop where
  increasing : kept.Pairwise (· < ·)
  lt_length : ∀ i ∈ kept, i < steps.length
  first : steps ≠ [] → 0 ∈ kept
  last : steps ≠ [] → steps.length - 1 ∈ kept
  edges : ∀ i, band.IsLeftInto steps (i + 1) → i ∈ kept ∧ i + 1 ∈ kept
  borders : ∀ i ∈ kept, i = 0 ∨ i + 1 = steps.length ∨
    band.IsLeftInto steps i ∨ band.IsLeftInto steps (i + 1)

theorem mem_discontinuityIndices : i ∈ discontinuityIndices band steps ↔ i < steps.length ∧
    (i = 0 ∨ i + 1 = steps.length ∨ band.IsLeftInto steps i ∨ band.IsLeftInto steps (i + 1)) := by
  unfold discontinuityIndices
  rw [mem_keptIndices, Bool.or_eq_true, Band.isLeftBy_stepAt_iff, Band.isLeftBy_stepAt_iff]

theorem keepsEdges (band : Band) (steps : List (Option Float)) :
    KeepsEdges band steps (discontinuityIndices band steps) where
  increasing := keptIndices_increasing _ _
  lt_length := fun i hi => (mem_discontinuityIndices.1 hi).1
  first := fun hne => mem_discontinuityIndices.2 ⟨List.length_pos_iff.2 hne, Or.inl rfl⟩
  last := by
    intro hne
    have hpos := List.length_pos_iff.2 hne
    exact mem_discontinuityIndices.2 ⟨by omega, Or.inr (Or.inl (by omega))⟩
  edges := by
    intro i hleft
    have hlt : i + 1 < steps.length := by
      obtain ⟨d, hd, _⟩ := hleft
      exact (List.getElem?_eq_some_iff.1 hd).1
    constructor
    · exact mem_discontinuityIndices.2 ⟨Nat.lt_of_succ_lt hlt, Or.inr (Or.inr (Or.inr hleft))⟩
    · exact mem_discontinuityIndices.2 ⟨hlt, Or.inr (Or.inr (Or.inl hleft))⟩
  borders := fun i hi => (mem_discontinuityIndices.1 hi).2

/-! ## Two bands, two series of steps -/

theorem discontinuityIndices_of_wider (hlow : wider.low ≤ band.low) (hhigh : band.high ≤ wider.high) :
    (discontinuityIndices wider steps).Sublist (discontinuityIndices band steps) := by
  refine keptIndices_sublist _ fun i hi => ?_
  rw [Bool.or_eq_true] at hi ⊢
  exact hi.imp (Band.isLeftBy_of_wider hlow hhigh) (Band.isLeftBy_of_wider hlow hhigh)

theorem discontinuityIndices_congr {others : List (Option Float)}
    (hlength : others.length = steps.length)
    (h : ∀ i, band.isLeftBy (stepAt others i) = band.isLeftBy (stepAt steps i)) :
    discontinuityIndices band others = discontinuityIndices band steps := by
  unfold discontinuityIndices
  simp only [hlength, h]

/-- A step that the band does not exclude is as good as none. -/
theorem isLeftBy_stepAt_set (hmissing : steps[i]? = some none) (hd : ¬ band.Excludes d) (k : Nat) :
    band.isLeftBy (stepAt (steps.set i (some d)) k) = band.isLeftBy (stepAt steps k) := by
  unfold stepAt
  by_cases hk : i = k
  · subst hk
    rw [List.getElem?_set_self (List.getElem?_eq_some_iff.1 hmissing).1, hmissing]
    exact Bool.eq_false_iff.2 (mt Band.isLeftBy_some_iff.1 hd)
  · rw [List.getElem?_set_ne hk]

/-- Both edges of every step out of the band are kept, and no other row but the first and the last. A
wider band keeps no row that the narrower one drops. A step that is missing may as well be any that
the band does not exclude, such as those from its low to its high end. -/
theorem discontinuityIndices_edges (band : Band) (steps : List (Option Float)) :
    KeepsEdges band steps (discontinuityIndices band steps) ∧
      (∀ wider : Band, wider.low ≤ band.low → band.high ≤ wider.high →
        (discontinuityIndices wider steps).Sublist (discontinuityIndices band steps)) ∧
      (∀ i d, steps[i]? = some none → ¬ band.Excludes d →
        discontinuityIndices band (steps.set i (some d)) = discontinuityIndices band steps) ∧
      ∀ d, band.low ≤ d → d ≤ band.high → ¬ band.Excludes d :=
  ⟨keepsEdges band steps, fun _ hlow hhigh => discontinuityIndices_of_wider hlow hhigh,
    fun _ _ hmissing hd => discontinuityIndices_congr (List.length_set ..)
      (isLeftBy_stepAt_set hmissing hd),
    fun _ hlow hhigh => Band.not_excludes hlow hhigh⟩

/-- A jump up and one down, with a gap between. -/
def jumpySteps : List (Option Float) := [some 0, some 1, some 200, none, some 2, some (-4), some 1, some 1]

theorem jumpySteps_edges :
    discontinuityIndices .standard jumpySteps = [0, 1, 2, 4, 5, 7] ∧
      (discontinuityIndices ⟨-4, 150⟩ jumpySteps).Sublist (discontinuityIndices .standard jumpySteps) ∧
      discontinuityIndices .standard (jumpySteps.set 3 (some 150)) = [0, 1, 2, 4, 5, 7] := by
  obtain ⟨_, hwider, hfilled, hwithin⟩ := discontinuityIndices_edges .standard jumpySteps
  have hkept : discontinuityIndices .standard jumpySteps = [0, 1, 2, 4, 5, 7] := by decide +kernel
  refine ⟨hkept, hwider ⟨-4, 150⟩ (by decide) (by decide), ?_⟩
  rw [hfilled 3 150 rfl (hwithin 150 (by decide) (by decide)), hkept]

end SeriesExport

import SeriesExport.Text.RunTable

/-! Lookup in tables of runs. Halving looks at few of the runs, and misses none when they are in order.
Main statement: `run?_eq_some_iff`, that a character has the one run that it lies in. -/
namespace SeriesExport.Text.RunTable
set_option autoImplicit false

variable {α : Type} {runs : RunTable α} {n lo hi k : Nat} {r : Run α}

/-- The character with this number lies in the run. -/
def Holds (r : Run α) (n : Nat) : Prop := r.first ≤ n ∧ n ≤ r.last

/-- No run is empty, and each ends before the later ones start. -/
structure IsOrdered (runs : RunTable α) : Prop where
  first_le_last : ∀ k (hk : k < runs.size), runs[k].first ≤ runs[k].last
  last_lt_first : ∀ k (hk : k < runs.size) j (hj : j < k), runs[j].last < runs[k].first

example : IsOrdered (#[⟨48, 57, true⟩, ⟨65, 70, false⟩] : RunTable Bool) := ⟨by decide, by decide⟩

theorem IsOrdered.first_lt_first (h : runs.IsOrdered) {j : Nat} (hj : j < k) (hk : k < runs.size) :
    runs[j].first < runs[k].first :=
  Nat.lt_of_le_of_lt (h.first_le_last j (Nat.lt_trans hj hk)) (h.last_lt_first k hk j hj)

/-! ## Halving -/

/-- What is found starts in time, whatever the order of the runs. -/
theorem lastFrom_sound {h : hi ≤ runs.size} (hr : lastFrom runs n lo hi h = some r) :
    ∃ k, ∃ hk : k < runs.size, lo ≤ k ∧ k < hi ∧ runs[k] = r ∧ r.first ≤ n := by
  fun_induction lastFrom runs n lo hi h with
  | case1 lo hi h hlt mid hmid hle ih =>
    have hbounds : lo ≤ mid ∧ mid < hi := by omega
    rcases Option.or_eq_some_iff.1 hr with hr | ⟨_, hr⟩
    · obtain ⟨k, hk, hlo, hhi, hrun, hfirst⟩ := ih hr
      exact ⟨k, hk, by omega, hhi, hrun, hfirst⟩
    · cases hr
      exact ⟨mid, hmid, hbounds.1, hbounds.2, rfl, hle⟩
  | case2 lo hi h hlt mid hmid hle ih =>
    have hbounds : lo ≤ mid ∧ mid < hi := by omega
    obtain ⟨k, hk, hlo, hhi, hrun, hfirst⟩ := ih hr
    exact ⟨k, hk, hlo, by omega, hrun, hfirst⟩
  | case3 => cases hr

theorem lastFrom_eq_none {h : hi ≤ runs.size}
    (hlate : ∀ k (hk : k < hi), lo ≤ k → n < runs[k].first) : lastFrom runs n lo hi h = none := by
  refine Option.eq_none_iff_forall_not_mem.2 fun r hr => ?_
  obtain ⟨k, _, hlo, hhi, rfl, hfirst⟩ := lastFrom_sound hr
  exact absurd hfirst (Nat.not_le.2 (hlate k hhi hlo))

/-- The last run that starts in time is found, since all before it start in time and none after it. -/
theorem lastFrom_complete (ho : runs.IsOrdered) {h : hi ≤ runs.size} (hk : k < hi) (hlo : lo ≤ k)
    (hfirst : runs[k].first ≤ n) (hlate : ∀ j (hj : j < hi), k < j → n < runs[j].first) :
    lastFrom runs n lo hi h = some runs[k] := by
  fun_induction lastFrom runs n lo hi h with
  | case1 lo hi h hlt mid hmid hle ih =>
    have hbefore : ¬ k < mid := fun hlt' => Nat.not_le.2 (hlate mid (by omega) hlt') hle
    rcases Nat.eq_or_lt_of_not_lt hbefore with heq | hafter
    · subst heq
      rw [lastFrom_eq_none fun j hj hmore => hlate j hj (by omega), Option.none_or]
    · rw [ih hk hafter hfirst hlate, Option.some_or]
  | case2 lo hi h hlt mid hmid hle ih =>
    have hbefore : k < mid := by
      rcases Nat.lt_trichotomy k mid with hlt' | heq | hgt
      · exact hlt'
      · subst heq
        exact absurd hfirst hle
      · have hstarts := ho.first_lt_first hgt (Nat.lt_of_lt_of_le hk h)
        omega
    exact ih hbefore hlo hfirst fun j hj hmore => hlate j (by omega) hmore
  | case3 lo hi h hlt => omega

/-! ## Main statement -/

theorem run?_eq_some_iff (ho : runs.IsOrdered) (c : Char) :
    runs.run? c = some r ↔ r ∈ runs ∧ Holds r c.toNat := by
  unfold run?
  rw [Option.filter_eq_some_iff, decide_eq_true_iff]
  constructor
  · rintro ⟨hr, hlast⟩
    obtain ⟨k, hk, _, _, rfl, hfirst⟩ := lastFrom_sound hr
    exact ⟨Array.getElem_mem hk, hfirst, hlast⟩
  · rintro ⟨hmem, hfirst, hlast⟩
    obtain ⟨k, hk, rfl⟩ := Array.mem_iff_getElem.1 hmem
    refine ⟨lastFrom_complete ho hk (Nat.zero_le k) hfirst ?_, hlast⟩
    intro j hj hmore
    exact Nat.lt_of_le_of_lt hlast (ho.last_lt_first j hj k hmore)

theorem value?_eq_some_iff (ho : runs.IsOrdered) (c : Char) {value : α} :
    runs.value? c = some value ↔ ∃ r ∈ runs, Holds r c.toNat ∧ r.value = value := by
  unfold value?
  simp only [Option.map_eq_some_iff, run?_eq_some_iff ho, and_assoc]

theorem contains_iff (ho : runs.IsOrdered) (c : Char) :
    runs.contains c = true ↔ ∃ r ∈ runs, Holds r c.toNat := by
  unfold contains
  simp only [Option.isSome_iff_exists, run?_eq_some_iff ho]

end SeriesExport.Text.RunTable

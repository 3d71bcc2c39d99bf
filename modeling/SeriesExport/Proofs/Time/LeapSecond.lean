import SeriesExport.Time.Instant

/-! The time between a moment and one reckoned from it. It is the length that led there, or a second
less where one of the two lies in a leap second and the later one is not later in the day. -/
namespace SeriesExport.Instant
set_option autoImplicit false

/-- Nanoseconds after 1970; those of a leap second run on into the next one. -/
def total (t : Instant) : Int := t.second * 1000000000 + t.nano

theorem since_nanos (a b : Instant) :
    (a.since b).nanos = a.total - b.total + leapBetween a b := by
  simp only [since, total]
  omega

/-! ## Moments reckoned from others -/

theorem ofParts?_eq_some {second : Int} {nano : Nat} {t : Instant}
    (h : ofParts? second nano = some t) : t.second = second ∧ t.nano = nano := by
  unfold ofParts? at h
  split at h
  · cases h
    exact ⟨rfl, rfl⟩
  · cases h

theorem ofNanos?_eq_some {n : Int} {t : Instant} (h : ofNanos? n = some t) :
    t.total = n ∧ ¬ t.IsLeap := by
  obtain ⟨hs, hn⟩ := ofParts?_eq_some h
  unfold total IsLeap
  omega

theorem not_isLeap_of_add? {a b : Instant} {d : Duration} (ha : ¬ a.IsLeap) (h : a.add? d = some b) :
    ¬ b.IsLeap := by
  rw [add?, if_neg ha] at h
  exact (ofNanos?_eq_some h).2

/-- Going forward, a leap second is stayed in or left; what leaves it is reckoned from its end. -/
theorem add?_eq_some {a b : Instant} {d : Duration} (hd : 0 < d.nanos) (h : a.add? d = some b) :
    (¬ a.IsLeap ∧ ¬ b.IsLeap ∧ b.total = a.total + d.nanos) ∨
    (b.IsLeap ∧ b.second = a.second ∧ b.total = a.total + d.nanos) ∨
    (a.IsLeap ∧ ¬ b.IsLeap ∧ b.total = a.total + d.nanos - 1000000000) := by
  unfold add? at h
  by_cases ha : a.IsLeap
  · rw [if_pos ha] at h
    have hnano : 1000000000 ≤ a.nano := ha
    split at h
    · obtain ⟨ht, hb⟩ := ofNanos?_eq_some h
      refine Or.inr (Or.inr ⟨ha, hb, ?_⟩)
      unfold total at *
      omega
    · rename_i hstay
      rw [if_neg (by unfold Duration.nanosPerSecond; omega)] at h
      obtain ⟨hs, hn⟩ := ofParts?_eq_some h
      refine Or.inr (Or.inl ⟨?_, hs, ?_⟩)
      · unfold IsLeap
        omega
      · unfold total
        omega
  · rw [if_neg ha] at h
    obtain ⟨ht, hb⟩ := ofNanos?_eq_some h
    exact Or.inl ⟨ha, hb, ht⟩

/-- Going backward, a leap second is stayed in or left; its own second counts as the next. -/
theorem sub?_eq_some {a b : Instant} {d : Duration} (hd : 0 < d.nanos) (h : b.sub? d = some a) :
    a.total = b.total - d.nanos ∧
      (¬ a.IsLeap ∧ ¬ b.IsLeap ∨ b.IsLeap ∧ a.second = b.second ∨ ¬ a.IsLeap ∧ b.IsLeap) := by
  unfold sub? add? at h
  dsimp only at h
  by_cases hb : b.IsLeap
  · rw [if_pos hb] at h
    have hnano : 1000000000 ≤ b.nano := hb
    rw [if_neg (by unfold Duration.nanosPerSecond; omega)] at h
    split at h
    · obtain ⟨ht, ha⟩ := ofNanos?_eq_some h
      refine ⟨?_, Or.inr (Or.inr ⟨ha, hb⟩)⟩
      unfold total at *
      omega
    · rename_i hstay
      unfold Duration.nanosPerSecond at hstay
      obtain ⟨hs, hn⟩ := ofParts?_eq_some h
      refine ⟨?_, Or.inr (Or.inl ⟨hb, hs⟩)⟩
      unfold total
      omega
  · rw [if_neg hb] at h
    obtain ⟨ht, ha⟩ := ofNanos?_eq_some h
    refine ⟨?_, Or.inl ⟨ha, hb⟩⟩
    unfold total at *
    omega

/-! ## The time between -/

/-- A leap second that is lost between two moments: the first is in it and the second, outside it, is
not later in the day, or the second is in it and earlier in the day than the first. -/
def LosesLeap (a b : Instant) : Prop :=
  (a.IsLeap ∧ ¬ b.IsLeap ∧ b.secondOfDay ≤ a.secondOfDay) ∨
    (b.IsLeap ∧ b.secondOfDay < a.secondOfDay)

instance (a b : Instant) : Decidable (LosesLeap a b) := by unfold LosesLeap; infer_instance

theorem not_losesLeap {a b : Instant} (ha : ¬ a.IsLeap) (hb : ¬ b.IsLeap) : ¬ LosesLeap a b := by
  simp [LosesLeap, ha, hb]

theorem secondOfDay_congr {a b : Instant} (h : a.second = b.second) : a.secondOfDay = b.secondOfDay := by
  unfold secondOfDay
  rw [h]

theorem since_of_add? {a b : Instant} {d : Duration} (hd : 0 < d.nanos) (h : a.add? d = some b) :
    (b.since a).nanos = d.nanos - (if LosesLeap a b then 1000000000 else 0) := by
  rw [since_nanos]
  unfold leapBetween LosesLeap
  obtain ⟨ha, hb, ht⟩ | ⟨hb, hs, ht⟩ | ⟨ha, hb, ht⟩ := add?_eq_some hd h
  · simp only [ha, hb, and_false, false_and, or_self, if_false]
    omega
  · have he := secondOfDay_congr hs
    simp only [he, hb, not_true_eq_false, Int.lt_irrefl, false_and, and_false, or_self, if_false]
    omega
  · by_cases hlt : a.secondOfDay < b.secondOfDay
    · simp only [ha, hb, hlt, not_false_eq_true, true_and, and_true, false_and, or_false, if_true,
        if_neg (Int.not_le.2 hlt)]
      omega
    · simp only [ha, hb, hlt, not_false_eq_true, true_and, and_true, false_and, and_false, or_false,
        if_false, if_pos (Int.not_lt.1 hlt)]
      omega

theorem since_of_sub? {a b : Instant} {d : Duration} (hd : 0 < d.nanos) (h : b.sub? d = some a) :
    (b.since a).nanos = d.nanos - (if LosesLeap a b then 1000000000 else 0) := by
  rw [since_nanos]
  unfold leapBetween LosesLeap
  obtain ⟨ht, ⟨ha, hb⟩ | ⟨hb, hs⟩ | ⟨ha, hb⟩⟩ := sub?_eq_some hd h
  · simp only [ha, hb, and_false, false_and, or_self, if_false]
    omega
  · have he := secondOfDay_congr hs
    simp only [he, hb, not_true_eq_false, Int.lt_irrefl, false_and, and_false, or_self, if_false]
    omega
  · by_cases hlt : b.secondOfDay < a.secondOfDay
    · simp only [ha, hb, hlt, not_true_eq_false, and_true, and_false, false_and, false_or,
        if_true, if_false]
      omega
    · simp only [ha, hb, hlt, not_true_eq_false, and_false, false_and, or_self, if_false]
      omega

theorem since_nanos_of_not_isLeap {a b : Instant} (ha : ¬ a.IsLeap) (hb : ¬ b.IsLeap) :
    (a.since b).nanos = a.total - b.total := by
  rw [since_nanos]
  simp [leapBetween, ha, hb]

/-- A length is recovered from the bounds it led to unless a leap second is lost. -/
theorem since_eq_iff {a b : Instant} {d : Duration} (hd : 0 < d.nanos)
    (h : a.add? d = some b ∨ b.sub? d = some a) : b.since a = d ↔ ¬ LosesLeap a b := by
  have hn : (b.since a).nanos = d.nanos - (if LosesLeap a b then 1000000000 else 0) :=
    h.elim (since_of_add? hd) (since_of_sub? hd)
  have hext : b.since a = d ↔ (b.since a).nanos = d.nanos :=
    ⟨congrArg Duration.nanos, fun he => congrArg Duration.mk he⟩
  rw [hext, hn]
  by_cases hl : LosesLeap a b
  · simp only [hl, if_true, not_true_eq_false, iff_false]
    omega
  · simp [hl]

end SeriesExport.Instant

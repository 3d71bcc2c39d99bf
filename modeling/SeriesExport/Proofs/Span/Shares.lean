import SeriesExport.Proofs.Span.Outright

/-! Windows that come from a count. A share of a length is put together from a quotient of seconds,
one of the seconds left over and one of nanoseconds. Main statement: as many shares as the count fill
the length up to less than two nanoseconds each. -/
namespace SeriesExport
set_option autoImplicit false

namespace Duration

theorem mul_ediv_add_emod_eq (c x : Int) : c * (x / c) = x - x % c := by
  have h := Int.mul_ediv_add_emod x c
  omega

/-- What shares leave of a length are the rests of the left-over seconds and of the nanoseconds. -/
theorem sub_shares (d : Duration) (count : Nat) :
    d.nanos - count * (d.share count).nanos =
      d.floorSeconds % count * nanosPerSecond % count + d.subsecond % count := by
  have hseconds := mul_ediv_add_emod_eq count d.floorSeconds
  have hcarried := mul_ediv_add_emod_eq count (d.floorSeconds % count * nanosPerSecond)
  have hnanos := mul_ediv_add_emod_eq count d.subsecond
  have hd := d.nanos_eq
  have hwhole : (count : Int) * (d.floorSeconds / count * nanosPerSecond) =
      d.floorSeconds * nanosPerSecond - d.floorSeconds % count * nanosPerSecond := by
    rw [← Int.mul_assoc, hseconds, Int.sub_mul]
  have hshare : (count : Int) * (d.share count).nanos =
      count * (d.floorSeconds / count * nanosPerSecond) +
        count * (d.floorSeconds % count * nanosPerSecond / count) + count * (d.subsecond / count) := by
    simp only [share, Int.mul_add]
  omega

theorem shares_bounds (d : Duration) {count : Nat} (hc : 0 < count) :
    0 ≤ d.nanos - count * (d.share count).nanos ∧
      d.nanos - count * (d.share count).nanos ≤ 2 * ((count : Int) - 1) := by
  have hpos : (0 : Int) < count := by omega
  have hcarried := Int.emod_nonneg (d.floorSeconds % count * nanosPerSecond) (by omega : (count : Int) ≠ 0)
  have hcarried' := Int.emod_lt_of_pos (d.floorSeconds % count * nanosPerSecond) hpos
  have hnanos := Int.emod_nonneg d.subsecond (by omega : (count : Int) ≠ 0)
  have hnanos' := Int.emod_lt_of_pos d.subsecond hpos
  rw [sub_shares]
  omega

/-- A share is the exact one rounded down, or a nanosecond less. -/
theorem share_bounds (d : Duration) {count : Nat} (hc : 0 < count) :
    d.nanos / count - 1 ≤ (d.share count).nanos ∧ (d.share count).nanos ≤ d.nanos / count := by
  have hpos : (0 : Int) < count := by omega
  obtain ⟨hleft, hrest⟩ := d.shares_bounds hc
  constructor
  · have hlt : d.nanos < ((d.share count).nanos + 2) * count := by
      rw [Int.add_mul, Int.mul_comm (d.share count).nanos]
      omega
    have hquotient := (Int.ediv_lt_iff_lt_mul hpos).2 hlt
    omega
  · rw [Int.le_ediv_iff_mul_le hpos, Int.mul_comm]
    omega

end Duration

namespace SpanSpec

theorem windows_of_count {now : Instant} {s : SpanSpec} {span : Span} (h : s.resolve now = .ok span)
    (hw : s.windowWidth = none) :
    span.windowCount = s.windowCount.getD 240 ∧ 0 < span.windowCount.toNat ∧
      span.windowWidth = span.width.share span.windowCount.toNat := by
  obtain ⟨hzero, _, _, _, _, _, hcut⟩ := resolve_eq_ok_iff.1 h
  obtain ⟨hcount, hwindow⟩ := share_of_cut hw hcut
  refine ⟨hcount, ?_, hwindow⟩
  rw [hcount]
  cases hc : s.windowCount with
  | none => decide
  | some count => exact given_count_pos hzero hc

/-- The windows of a count, 240 where none is given, stay within the span and leave less than two
nanoseconds of it for each but one of them. -/
theorem counted_windows_fit {now : Instant} {s : SpanSpec} {span : Span}
    (h : s.resolve now = .ok span) (hw : s.windowWidth = none) :
    span.windowCount = s.windowCount.getD 240 ∧
      0 ≤ span.width.nanos - span.windowCount.toNat * span.windowWidth.nanos ∧
      span.width.nanos - span.windowCount.toNat * span.windowWidth.nanos ≤
        2 * ((span.windowCount.toNat : Int) - 1) ∧
      span.width.nanos / span.windowCount.toNat - 1 ≤ span.windowWidth.nanos ∧
      span.windowWidth.nanos ≤ span.width.nanos / span.windowCount.toNat := by
  obtain ⟨hcount, hpos, hwindow⟩ := windows_of_count h hw
  obtain ⟨hleft, hrest⟩ := span.width.shares_bounds hpos
  obtain ⟨hlow, hhigh⟩ := span.width.share_bounds hpos
  rw [hwindow]
  exact ⟨hcount, hleft, hrest, hlow, hhigh⟩

/-- A second and six nanoseconds in seven windows. -/
def secondInSeven : SpanSpec where
  stop := some .epoch
  width := some ⟨1000000006⟩
  windowCount := some 7

/-- They leave as much of it as seven windows can, and each is a nanosecond short of a seventh. -/
theorem secondInSeven_fits : ∃ span, secondInSeven.resolve .epoch = .ok span ∧
    secondInSeven.windowWidth = none ∧ span.width.nanos - 7 * span.windowWidth.nanos = 12 ∧
    span.width.nanos - span.windowCount.toNat * span.windowWidth.nanos ≤
      2 * ((span.windowCount.toNat : Int) - 1) ∧
    span.width.nanos / 7 - 1 = span.windowWidth.nanos ∧
    span.width.nanos / span.windowCount.toNat - 1 ≤ span.windowWidth.nanos := by
  obtain ⟨span, h, hleft, hshort⟩ : ∃ span, secondInSeven.resolve .epoch = .ok span ∧
      span.width.nanos - 7 * span.windowWidth.nanos = 12 ∧
      span.width.nanos / 7 - 1 = span.windowWidth.nanos := by
    rw [resolve_eq]
    exact ⟨_, rfl, by decide⟩
  obtain ⟨_, _, hrest, hlow, _⟩ := counted_windows_fit h rfl
  exact ⟨span, h, rfl, hleft, hrest, hshort, hlow⟩

end SpanSpec
end SeriesExport

import SeriesExport.Proofs.Span.Outright

/-! Counts that come from the width of a window. Main statement: the count is the least number of
windows that cover the length, and a window is refused where no word holds that number, exactly when
cutting the windows to the unit they are counted in does not change it. -/
namespace SeriesExport
set_option autoImplicit false

def SpanError.IsInvalidWindow (e : SpanError) : Prop := e.heading = "Invalid window: "

/-- The windows cover the length, and without the last of them they do not. -/
def Span.Covered (span : Span) : Prop :=
  ((span.windowCount.toNat : Int) - 1) * span.windowWidth.nanos < span.width.nanos ∧
    span.width.nanos ≤ span.windowCount.toNat * span.windowWidth.nanos

instance (span : Span) : Decidable span.Covered := by unfold Span.Covered; infer_instance

namespace SpanSpec

/-! ## Counts and units -/

/-- The least number of windows that cover a length. -/
def windowsOver (length window : Duration) : Int :=
  (length.nanos + window.nanos - 1) / window.nanos

/-- Windows cut to whole units are as many as uncut ones: at least a unit is left of the length before
the last of them and less than one after it. Where no word holds their number, at least a unit is left
after as many as a word holds. -/
def CountsIn (unit : Int) (length window : Duration) : Prop :=
  if length.nanos ≤ 4294967295 * window.nanos then
    unit ≤ leftAfter length window unit (windowsOver length window - 1) ∧
      leftAfter length window unit (windowsOver length window) < unit
  else unit ≤ leftAfter length window unit 4294967295

instance (unit : Int) (length window : Duration) : Decidable (CountsIn unit length window) := by
  unfold CountsIn; infer_instance

theorem countsIn_one {length window : Duration} (hw : 0 < window.nanos) : CountsIn 1 length window := by
  unfold CountsIn leftAfter
  rw [Int.ediv_one, Int.mul_one]
  split
  · obtain ⟨hbefore, hafter⟩ := (ceil_eq_iff hw).1 (rfl : windowsOver length window = _)
    exact ⟨by omega, by omega⟩
  · omega

theorem exists_word {n : Int} (h : 0 ≤ n) (hb : n ≤ 4294967295) : ∃ count : UInt32, n = count.toNat :=
  ⟨UInt32.ofNat n.toNat, (ofNat_toNat_eq_iff h hb).1 rfl⟩

/-- Where a word holds the number of windows, their unit leaves something of each. -/
theorem ratio_pos_of_fits {length window : Duration} (hw : 0 < window.nanos)
    (hfits : length.nanos ≤ 4294967295 * window.nanos) :
    0 < window.nanos / length.ratioUnit window := by
  unfold Duration.ratioUnit Duration.wordBound
  split
  · rw [Int.ediv_one]
    exact hw
  · omega

theorem counted_iff {length window : Duration} (hl : 0 < length.nanos) (hw : 0 < window.nanos)
    (hfits : length.nanos ≤ 4294967295 * window.nanos) :
    (∃ count, windowsOutright length window = .ok count ∧ windowsOver length window = count.toNat) ↔
      CountsIn (length.ratioUnit window) length window := by
  have hpos := ratio_pos_of_fits hw hfits
  obtain ⟨count, heq⟩ : ∃ count : UInt32, windowsOver length window = count.toNat :=
    exists_word (ceil_nonneg (by omega) hw) ((ceil_le_iff hw).2 hfits)
  unfold CountsIn
  rw [if_pos hfits, heq]
  constructor
  · rintro ⟨found, hfound, hcount⟩
    rw [hcount]
    exact ((windowsOutright_eq_ok_iff_left (by omega) (by omega)).1 hfound).2
  · intro hleft
    exact ⟨count, (windowsOutright_eq_ok_iff_left (by omega) (by omega)).2 ⟨hpos, hleft⟩, rfl⟩

theorem refused_iff {length window : Duration} (hw : 0 < window.nanos)
    (hfits : 4294967295 * window.nanos < length.nanos) :
    (∀ count, windowsOutright length window ≠ .ok count) ↔
      CountsIn (length.ratioUnit window) length window := by
  have hu := length.ratioUnit_pos window
  have hnonneg : 0 ≤ length.nanos / length.ratioUnit window :=
    Int.ediv_nonneg (by omega) (Int.le_of_lt hu)
  have hcounted (count : UInt32) : windowsOutright length window = .ok count ↔ _ :=
    windowsOutright_eq_ok_iff (by omega) (by omega)
  unfold CountsIn
  rw [if_neg (by omega)]
  by_cases hpos : 0 < window.nanos / length.ratioUnit window
  · rw [← mul_lt_ediv_iff length window hu, ← lt_ceil_iff hpos]
    constructor
    · intro hnone
      refine Int.not_le.1 fun hle => ?_
      obtain ⟨count, hcount⟩ := exists_word (ceil_nonneg hnonneg hpos) hle
      exact hnone count ((hcounted count).2 ⟨hpos, hcount⟩)
    · intro hlt count hcount
      have heq := ((hcounted count).1 hcount).2
      have hword := count.toNat_lt
      omega
  · have hzero : window.nanos / length.ratioUnit window = 0 :=
      Int.le_antisymm (Int.not_lt.1 hpos) (Int.ediv_nonneg (by omega) (Int.le_of_lt hu))
    have hunit : length.ratioUnit window ≤ 1000000 := by
      unfold Duration.ratioUnit
      split <;> decide
    refine iff_of_true (fun count hcount => hpos ((hcounted count).1 hcount).1) ?_
    unfold leftAfter
    rw [hzero, Int.zero_mul, Int.mul_zero]
    omega

/-! ## Requests without a count -/

/-- All of a request but its windows is settled, with a length. -/
structure Reaches (now : Instant) (s : SpanSpec) (length : Duration) : Prop where
  count_ne : s.windowCount ≠ some 0
  window_pos : ∀ window ∈ s.windowWidth, 0 < window.nanos
  sources_le : s.sources.length ≤ 1
  length_eq : s.lengthOutright now = .ok length
  length_pos : 0 < length.nanos
  bounds : ∃ bounds, s.boundsOutright now length = .ok bounds

theorem reaches_of_resolve {now : Instant} {s : SpanSpec} {span : Span}
    (h : s.resolve now = .ok span) : s.Reaches now span.width := by
  obtain ⟨hzero, hpositive, hl, hlength, hpos, hbounds, _⟩ := resolve_eq_ok_iff.1 h
  exact ⟨hzero, hpositive, hl, hlength, hpos, ⟨_, hbounds⟩⟩

theorem Reaches.resolve_eq {now : Instant} {s : SpanSpec} {length window : Duration}
    (h : s.Reaches now length) (hc : s.windowCount = none) (hw : s.windowWidth = some window) :
    ∃ start stop, s.resolve now = match windowsOutright length window with
      | .ok count => .ok ⟨start, stop, length, count, window, .width⟩
      | .error e => .error e := by
  obtain ⟨⟨start, stop⟩, hbounds⟩ := h.bounds
  have hpos := h.window_pos window hw
  have hlength := h.length_pos
  refine ⟨start, stop, ?_⟩
  rw [SpanSpec.resolve_eq, outright, if_neg h.count_ne, hw, if_neg (by simpa using hpos),
    if_neg (by have := h.sources_le; omega), h.length_eq]
  dsimp only
  rw [if_neg (by omega), hbounds, cutOutright_of_width length hc hw]
  cases windowsOutright length window <;> rfl

theorem isInvalidWindow_of_windowsOutright {length window : Duration} {e : SpanError}
    (h : windowsOutright length window = .error e) : e.IsInvalidWindow := by
  unfold windowsOutright at h
  dsimp only at h
  split at h
  · cases h
    rfl
  split at h
  · cases h
    rfl
  · cases h

/-! ## Main statement -/

theorem countsIn_ratioUnit_iff {length window : Duration} (hw : 0 < window.nanos) :
    CountsIn (length.ratioUnit window) length window ↔
      (length.nanos < Duration.wordBound ∧ window.nanos < Duration.wordBound) ∨
        CountsIn 1000000 length window := by
  unfold Duration.ratioUnit
  split
  · rename_i hword
    exact iff_of_true (countsIn_one hw) (Or.inl hword)
  · rename_i hword
    exact (or_iff_right hword).symm

/-- A span has the least number of windows that cover it, and none is refused but where no word holds
that number, exactly if a word holds both lengths in nanoseconds or milliseconds count the same. -/
theorem covered_iff {now : Instant} {s : SpanSpec} {length window : Duration}
    (hc : s.windowCount = none) (hw : s.windowWidth = some window) (h : s.Reaches now length) :
    ((∀ span, s.resolve now = .ok span → span.Covered) ∧
      (length.nanos ≤ 4294967295 * window.nanos → ∃ span, s.resolve now = .ok span) ∧
      (4294967295 * window.nanos < length.nanos →
        ∃ e, s.resolve now = .error e ∧ e.IsInvalidWindow)) ↔
    (length.nanos < Duration.wordBound ∧ window.nanos < Duration.wordBound) ∨
      CountsIn 1000000 length window := by
  have hwindow : 0 < window.nanos := h.window_pos window hw
  obtain ⟨start, stop, hresolve⟩ := h.resolve_eq hc hw
  rw [← countsIn_ratioUnit_iff hwindow, hresolve]
  by_cases hfits : length.nanos ≤ 4294967295 * window.nanos
  · rw [← counted_iff h.length_pos hwindow hfits]
    constructor
    · rintro ⟨hcovered, hsome, _⟩
      obtain ⟨span, hspan⟩ := hsome hfits
      cases hcount : windowsOutright length window with
      | error e =>
        rw [hcount] at hspan
        cases hspan
      | ok count =>
        rw [hcount] at hcovered
        exact ⟨count, rfl, (ceil_eq_iff hwindow).2 (hcovered _ rfl)⟩
    · rintro ⟨count, hcount, heq⟩
      rw [hcount]
      refine ⟨?_, fun _ => ⟨_, rfl⟩, fun hlt => absurd hfits (Int.not_le.2 hlt)⟩
      rintro span ⟨⟩
      exact (ceil_eq_iff hwindow).1 heq
  · have hlt : 4294967295 * window.nanos < length.nanos := Int.not_le.1 hfits
    rw [← refused_iff hwindow hlt]
    constructor
    · rintro ⟨_, _, hrefused⟩ count hcount
      obtain ⟨e, he, _⟩ := hrefused hlt
      rw [hcount] at he
      cases he
    · intro hnone
      cases hcount : windowsOutright length window with
      | error e =>
        refine ⟨?_, fun h => absurd h hfits, fun _ =>
          ⟨e, rfl, isInvalidWindow_of_windowsOutright hcount⟩⟩
        rintro span ⟨⟩
      | ok count => exact absurd hcount (hnone count)

/-- Four centuries and some nanoseconds, in hours. -/
def centuriesInHours (nano : Nat) (h : nano < 1000000000) : SpanSpec where
  start := some { Instant.epoch with
    second := -11676096000, inRange := by decide, leap_last := by decide }
  stop := some ⟨946684800, nano, by decide, by omega, by omega⟩
  windowWidth := some (.ofSeconds 3600)

/-- With a millisecond in the last hour it is counted. -/
theorem centuriesInHours_covered :
    (centuriesInHours 1000000 (by decide)).Reaches .epoch ⟨12622780800001000000⟩ ∧
      Duration.wordBound ≤ 12622780800001000000 ∧
      ∃ span, (centuriesInHours 1000000 (by decide)).resolve .epoch = .ok span ∧
        span.windowCount = 3506329 ∧ span.Covered := by
  obtain ⟨span, hspan, hwidth, hcount⟩ : ∃ span,
      (centuriesInHours 1000000 (by decide)).resolve .epoch = .ok span ∧
        span.width = ⟨12622780800001000000⟩ ∧ span.windowCount = 3506329 := by
    rw [resolve_eq]
    exact ⟨_, rfl, rfl, rfl⟩
  have h := reaches_of_resolve hspan
  rw [hwidth] at h
  obtain ⟨hcovered, _⟩ := (covered_iff rfl rfl h).2 (Or.inr (by decide))
  exact ⟨h, by decide, span, hspan, hcount, hcovered span hspan⟩

/-- With a nanosecond in the last hour it is not. -/
theorem centuriesInHours_not_covered : ¬ ∀ (now : Instant) (s : SpanSpec) (span : Span),
    s.windowCount = none → s.windowWidth ≠ none → s.resolve now = .ok span → span.Covered := by
  intro hall
  obtain ⟨span, h, hn⟩ : ∃ span, (centuriesInHours 1 (by decide)).resolve .epoch = .ok span ∧
      ¬ span.Covered := by
    rw [resolve_eq]
    exact ⟨_, rfl, by decide⟩
  exact hn (hall .epoch _ span rfl (Option.some_ne_none _) h)

end SpanSpec
end SeriesExport

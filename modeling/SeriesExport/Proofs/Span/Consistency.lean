import SeriesExport.Proofs.Span.Reresolution
import SeriesExport.Proofs.Span.Shares

/-! Spans and the requests they come from. Main statement: outside leap seconds a span has the fields
that were given, its length is the time between its bounds, and it has a window unless one too long to
count in nanoseconds covers less than a millisecond. -/
namespace SeriesExport
set_option autoImplicit false

/-- The span has every field that its request gives. -/
structure Span.Keeps (span : Span) (s : SpanSpec) : Prop where
  start : ∀ start ∈ s.start, span.start = start
  stop : ∀ stop ∈ s.stop, span.stop = stop
  width : ∀ width ∈ s.width, span.width = width
  windowCount : ∀ count ∈ s.windowCount, span.windowCount = count
  windowWidth : ∀ window ∈ s.windowWidth, span.windowWidth = window

namespace SpanSpec

/-- No moment that is given, nor the present one, lies in a leap second. -/
structure Ordinary (now : Instant) (s : SpanSpec) : Prop where
  now : ¬ now.IsLeap
  start : ∀ start ∈ s.start, ¬ start.IsLeap
  stop : ∀ stop ∈ s.stop, ¬ stop.IsLeap

/-! ## Bounds -/

theorem stopInUse_of_given {now stop : Instant} {s : SpanSpec} (h : s.stop = some stop) :
    s.stopInUse now = some stop := by
  rw [stopInUse, h]

theorem Ordinary.stopInUse {now stop : Instant} {s : SpanSpec} (ho : s.Ordinary now)
    (h : s.stopInUse now = some stop) : ¬ stop.IsLeap := by
  unfold SpanSpec.stopInUse at h
  split at h
  · rename_i given hgiven
    cases h
    exact ho.stop stop hgiven
  · split at h
    · cases h
      exact ho.now
    · cases h

theorem Ordinary.bounds {now start stop : Instant} {s : SpanSpec} {length : Duration}
    (ho : s.Ordinary now) (h : s.boundsOutright now length = .ok (start, stop)) :
    ¬ start.IsLeap ∧ ¬ stop.IsLeap := by
  obtain ⟨hs, ht⟩ | ⟨hs, _, hadd⟩ | ⟨_, ht, hsub⟩ := boundsOutright_cases h
  · exact ⟨ho.start start hs, ho.stopInUse ht⟩
  · have hstart := ho.start start hs
    exact ⟨hstart, Instant.not_isLeap_of_add? hstart hadd⟩
  · have hstop : ¬ stop.IsLeap := by
      cases hu : s.stopInUse now with
      | none =>
        rw [hu] at ht
        cases ht
        exact ho.now
      | some used =>
        rw [hu] at ht
        cases ht
        exact ho.stopInUse hu
    exact ⟨Instant.not_isLeap_of_add? hstop hsub, hstop⟩

theorem Ordinary.bounds_of_resolve {now : Instant} {s : SpanSpec} {span : Span} (ho : s.Ordinary now)
    (h : s.resolve now = .ok span) : ¬ span.start.IsLeap ∧ ¬ span.stop.IsLeap := by
  obtain ⟨_, _, _, _, _, hbounds, _⟩ := resolve_eq_ok_iff.1 h
  exact ho.bounds hbounds

theorem Ordinary.since_eq_width {now : Instant} {s : SpanSpec} {span : Span} (ho : s.Ordinary now)
    (h : s.resolve now = .ok span) : span.stop.since span.start = span.width := by
  obtain ⟨hstart, hstop⟩ := ho.bounds_of_resolve h
  exact (since_eq_width_iff h).2 (Or.inr (Instant.not_losesLeap hstart hstop))

theorem Ordinary.total_sub_total {now : Instant} {s : SpanSpec} {span : Span} (ho : s.Ordinary now)
    (h : s.resolve now = .ok span) : span.stop.total - span.start.total = span.width.nanos := by
  obtain ⟨hstart, hstop⟩ := ho.bounds_of_resolve h
  rw [← ho.since_eq_width h, Instant.since_nanos_of_not_isLeap hstop hstart]

/-! ## Given fields -/

theorem lengthOutright_of_width (now : Instant) {s : SpanSpec} {width : Duration}
    (hl : s.sources.length ≤ 1) (hd : s.width = some width) : s.lengthOutright now = .ok width := by
  have hopen : ¬ s.FixesBounds := not_fixesBounds hl (Or.inl (by rw [hd]; rfl))
  unfold lengthOutright
  rw [hd]
  cases hs : s.start with
  | none => rfl
  | some start =>
    cases ht : s.stopInUse now with
    | none => rfl
    | some stop => exact absurd (fixesBounds_of_stopInUse hs ht) hopen

theorem count_of_cut {s : SpanSpec} {length window : Duration} {count given : UInt32}
    {source : WindowSource} (hc : s.windowCount = some given)
    (h : s.cutOutright length = .ok (count, window, source)) : count = given := by
  obtain ⟨_, _, hcount⟩ | ⟨_, hw⟩ := source_of_cut h
  · rw [hcount, hc]
    rfl
  · rw [cutOutright_of_both length hc hw] at h
    cases h
    rfl

theorem keeps_of_resolve {now : Instant} {s : SpanSpec} {span : Span} (h : s.resolve now = .ok span) :
    span.Keeps s := by
  obtain ⟨_, _, hl, hlength, _, hbounds, hcut⟩ := resolve_eq_ok_iff.1 h
  constructor
  · intro start hs
    obtain ⟨hstart, _⟩ | ⟨hstart, _⟩ | ⟨hstart, _⟩ := boundsOutright_cases hbounds
    · exact Option.some.inj (hstart.symm.trans hs)
    · exact Option.some.inj (hstart.symm.trans hs)
    · cases hstart.symm.trans hs
  · intro stop hs
    have hused : s.stopInUse now = some stop := stopInUse_of_given hs
    obtain ⟨_, hstop⟩ | ⟨_, hstop, _⟩ | ⟨_, hstop, _⟩ := boundsOutright_cases hbounds
    · exact Option.some.inj (hstop.symm.trans hused)
    · cases hstop.symm.trans hused
    · rw [← hstop, hused]
      rfl
  · intro width hd
    exact Except.ok.inj (hlength.symm.trans (lengthOutright_of_width now hl hd))
  · intro count hc
    exact count_of_cut hc hcut
  · intro window hw
    obtain ⟨_, hnone, _⟩ | ⟨_, hwindow⟩ := source_of_cut hcut
    · cases hw.symm.trans hnone
    · exact Option.some.inj (hwindow.symm.trans hw)

/-! ## Counts -/

theorem windowCount_pos_iff {now : Instant} {s : SpanSpec} {span : Span}
    (h : s.resolve now = .ok span) : 1 ≤ span.windowCount.toNat ↔
      s.windowCount.isSome ∨ span.windowWidth.nanos < Duration.wordBound ∨
        1000000 ≤ span.width.nanos := by
  obtain ⟨hzero, hpositive, _, _, hpos, _, hcut⟩ := resolve_eq_ok_iff.1 h
  cases hw : s.windowWidth with
  | none =>
    obtain ⟨_, hcount, hwindow⟩ := windows_of_count h hw
    have hshare := (span.width.share_bounds hcount).2
    have hle := Int.ediv_le_self span.windowCount.toNat (Int.le_of_lt hpos)
    rw [← hwindow] at hshare
    refine iff_of_true hcount (Or.inr ?_)
    unfold Duration.wordBound
    omega
  | some window =>
    cases hc : s.windowCount with
    | some given =>
      refine iff_of_true ?_ (Or.inl rfl)
      rw [count_of_cut hc hcut]
      exact given_count_pos hzero hc
    | none =>
      have hnone := windowsOutright_eq_zero_iff hpos (hpositive window hw)
      rw [windowsOutright_of_cut hc hw hcut, Except.ok.injEq] at hnone
      rw [toNat_pos_iff, ne_eq, hnone, (keeps_of_resolve h).windowWidth window hw]
      simp only [Option.isSome_none, Bool.false_eq_true, false_or]
      omega

/-! ## Main statement -/

/-- Outside leap seconds a span keeps what was given, has the length of the time between its bounds,
and starts before it stops. It has a window exactly if the number was given, the window is counted in
nanoseconds, or the length has a whole millisecond. -/
theorem consistent_iff {now : Instant} {s : SpanSpec} {span : Span} (ho : s.Ordinary now)
    (h : s.resolve now = .ok span) :
    span.Keeps s ∧ span.stop.since span.start = span.width ∧ 0 < span.width.nanos ∧
      span.start.total < span.stop.total ∧
      (1 ≤ span.windowCount.toNat ↔
        s.windowCount.isSome ∨ span.windowWidth.nanos < Duration.wordBound ∨
          1000000 ≤ span.width.nanos) := by
  obtain ⟨_, _, _, _, hpos, hbounds, _⟩ := resolve_eq_ok_iff.1 h
  obtain ⟨hstart, hstop⟩ := ho.bounds hbounds
  have hsince : span.stop.since span.start = span.width :=
    (since_eq_width_iff h).2 (Or.inr (Instant.not_losesLeap hstart hstop))
  have htotal := Instant.since_nanos_of_not_isLeap hstop hstart
  rw [hsince] at htotal
  exact ⟨keeps_of_resolve h, hsince, hpos, by omega, windowCount_pos_iff h⟩

/-- From the beginning of 1970 up to the present, in windows of seven seconds. -/
def sevensFromEpoch : SpanSpec where
  start := some .epoch
  windowWidth := some (.ofSeconds 7)

def afterHundred : Instant :=
  { Instant.epoch with second := 100, inRange := by decide, leap_last := by decide }

theorem sevensFromEpoch_consistent : sevensFromEpoch.Ordinary afterHundred ∧
    ∃ span, sevensFromEpoch.resolve afterHundred = .ok span ∧ span.windowCount = 15 ∧
      span.Keeps sevensFromEpoch ∧ span.stop.since span.start = span.width ∧
      span.start.total < span.stop.total ∧ 1 ≤ span.windowCount.toNat := by
  have ho : sevensFromEpoch.Ordinary afterHundred := by
    refine ⟨by decide, ?_, ?_⟩
    · rintro start ⟨⟩
      decide
    · rintro stop ⟨⟩
  obtain ⟨span, h, hseven, hcount⟩ : ∃ span, sevensFromEpoch.resolve afterHundred = .ok span ∧
      span.windowWidth.nanos < Duration.wordBound ∧ span.windowCount = 15 := by
    rw [resolve_eq]
    exact ⟨_, rfl, by decide⟩
  obtain ⟨hkeeps, hsince, _, hlt, hpos⟩ := consistent_iff ho h
  exact ⟨ho, span, h, hcount, hkeeps, hsince, hlt, hpos.2 (Or.inr (Or.inl hseven))⟩

/-- A nanosecond in windows of sixteen thousand weeks. -/
def nanosecondInWeeks : SpanSpec where
  start := some .epoch
  stop := some { Instant.epoch with nano := 1, nano_lt := by decide, leap_last := by decide }
  windowWidth := some (.ofSeconds 9676800000)

/-- It has none of them. -/
theorem nanosecondInWeeks_no_window : ¬ ∀ (now : Instant) (s : SpanSpec) (span : Span),
    s.Ordinary now → s.resolve now = .ok span → 1 ≤ span.windowCount.toNat := by
  intro hall
  have ho : nanosecondInWeeks.Ordinary .epoch := by
    refine ⟨by decide, ?_, ?_⟩
    · rintro start ⟨⟩
      decide
    · rintro stop ⟨⟩
      decide
  obtain ⟨span, h, hcount⟩ : ∃ span, nanosecondInWeeks.resolve .epoch = .ok span ∧
      span.windowCount = 0 := by
    rw [resolve_eq]
    exact ⟨_, rfl, by decide⟩
  exact toNat_pos_iff.1 (hall .epoch _ span ho h) hcount

end SpanSpec
end SeriesExport

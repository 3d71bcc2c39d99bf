import SeriesExport.Proofs.Span.Outright
import SeriesExport.Proofs.Time.LeapSecond

/-! Resolving the request that a span is written back to. Main statement: it gives the span again
exactly when the bounds do not lose a leap second and a given count comes back from its windows. -/
namespace SeriesExport
set_option autoImplicit false

namespace SpanSpec

/-- Both bounds are there before a length is known: given, or a lone start that ends now. -/
def FixesBounds (s : SpanSpec) : Prop := s.start.isSome ∧ (s.stop.isSome ∨ s.sources = [])

instance (s : SpanSpec) : Decidable s.FixesBounds := by unfold FixesBounds; infer_instance

def FixesWindows (s : SpanSpec) : Prop := s.windowCount.isSome ∧ s.windowWidth.isSome

instance (s : SpanSpec) : Decidable s.FixesWindows := by unfold FixesWindows; infer_instance

end SpanSpec

namespace Span

/-- The number of windows is found again from their width: the length is counted in nanoseconds, or
what all windows have below a millisecond stays below one. -/
def CountsBack (span : Span) : Prop :=
  span.width.nanos < Duration.wordBound ∨
    span.windowWidth.nanos % 1000000 * span.windowCount.toNat < 1000000

instance (span : Span) : Decidable span.CountsBack := by unfold CountsBack; infer_instance

/-- What a request and the span it resolves to need in order that the span resolves to itself. -/
def Returns (span : Span) (s : SpanSpec) : Prop :=
  (s.FixesBounds ∨ ¬ Instant.LosesLeap span.start span.stop) ∧ (s.FixesWindows → span.CountsBack)

instance (span : Span) (s : SpanSpec) : Decidable (span.Returns s) := by
  unfold Returns; infer_instance

end Span

namespace SpanSpec

/-! ## Bounds -/

theorem stopInUse_eq_none {now : Instant} {s : SpanSpec} (h : s.stopInUse now = none) :
    s.stop = none ∧ s.sources ≠ [] := by
  unfold stopInUse at h
  cases hs : s.stop with
  | some stop =>
    rw [hs] at h
    cases h
  | none =>
    rw [hs] at h
    refine ⟨rfl, fun hn => ?_⟩
    simp [hn] at h

theorem fixesBounds_of_stopInUse {now : Instant} {s : SpanSpec} {start stop : Instant}
    (hs : s.start = some start) (h : s.stopInUse now = some stop) : s.FixesBounds := by
  unfold stopInUse at h
  refine ⟨by rw [hs]; rfl, ?_⟩
  cases ht : s.stop with
  | some stop => exact Or.inl rfl
  | none =>
    rw [ht, hs] at h
    refine Or.inr (Classical.byContradiction fun hn => ?_)
    simp [hn] at h

/-- A source of the length other than the bounds leaves one of them open. -/
theorem not_fixesBounds {s : SpanSpec} (hl : s.sources.length ≤ 1)
    (h : s.width.isSome ∨ s.FixesWindows) : ¬ s.FixesBounds := by
  have hsources : s.sources ≠ [] := by
    rcases h with h | h
    · simp [sources, h]
    · have hwindows : s.windowCount.isSome ∧ s.windowWidth.isSome := h
      simp [sources, hwindows]
  rintro ⟨hstart, hstop | hnone⟩
  · rcases h with h | h
    · simp [sources, hstart, hstop, h] at hl
    · have hwindows : s.windowCount.isSome ∧ s.windowWidth.isSome := h
      simp [sources, hstart, hstop, hwindows] at hl
  · exact hsources hnone

/-- The time between the bounds of a span is its length unless a leap second is lost. -/
theorem since_eq_width_iff {now : Instant} {s : SpanSpec} {span : Span}
    (h : s.resolve now = .ok span) : span.stop.since span.start = span.width ↔
      s.FixesBounds ∨ ¬ Instant.LosesLeap span.start span.stop := by
  obtain ⟨_, _, _, hlength, hpos, hbounds, _⟩ := resolve_eq_ok_iff.1 h
  -- A bound is reckoned from the other where one is missing; else the length is the time between.
  obtain ⟨hs, ht⟩ | ⟨hs, ht, hadd⟩ | ⟨hs, _, hsub⟩ := boundsOutright_cases hbounds
  · rw [lengthOutright, hs, ht] at hlength
    exact iff_of_true (Except.ok.inj hlength) (Or.inl (fixesBounds_of_stopInUse hs ht))
  · obtain ⟨hnone, hsources⟩ := stopInUse_eq_none ht
    have hn : ¬ s.FixesBounds := by simp [FixesBounds, hnone, hsources]
    simp only [hn, false_or]
    exact Instant.since_eq_iff hpos (Or.inl hadd)
  · have hn : ¬ s.FixesBounds := by simp [FixesBounds, hs]
    simp only [hn, false_or]
    exact Instant.since_eq_iff hpos (Or.inr hsub)

/-! ## Windows -/

theorem length_of_fixesWindows {now : Instant} {s : SpanSpec} {count : UInt32}
    {window length : Duration} (hl : s.sources.length ≤ 1) (hc : s.windowCount = some count)
    (hw : s.windowWidth = some window) (h : s.lengthOutright now = .ok length) :
    length = ⟨window.nanos * count.toNat⟩ := by
  have hwidth : s.width = none := by
    refine Option.eq_none_iff_forall_ne_some.2 fun width hs => ?_
    simp [sources, hc, hw, hs] at hl
  have hopen : ¬ s.FixesBounds := not_fixesBounds hl (Or.inr (by simp [FixesWindows, hc, hw]))
  unfold lengthOutright at h
  rw [hc, hw, hwidth] at h
  split at h
  · rename_i hs ht
    exact absurd (fixesBounds_of_stopInUse hs ht) hopen
  · rename_i hn _
    cases hn
  · rename_i hcount hwindow _
    cases hcount
    cases hwindow
    split at h
    · cases h
    · split at h
      · rename_i hscale
        cases h
        exact Duration.scale?_eq_some hscale
      · cases h
  · rename_i hn
    exact absurd rfl (hn _ _ rfl)

theorem countsBack_iff {count : UInt32} {window length : Duration}
    (hc : 0 < count.toNat) (hw : 0 < window.nanos) (hl : length = ⟨window.nanos * count.toNat⟩) :
    windowsOutright length window = .ok count ↔ length.nanos < Duration.wordBound ∨
      window.nanos % 1000000 * count.toNat < 1000000 := by
  subst hl
  dsimp only
  -- Within a word the count is reckoned in nanoseconds, beyond it in milliseconds.
  by_cases hb : window.nanos * count.toNat < Duration.wordBound
  · exact ⟨fun _ => Or.inl hb, fun _ => windows_of_product_nanos hw hc hb⟩
  · rw [windows_of_product_millis hw (Int.not_lt.1 hb)]
    exact ⟨Or.inr, fun h => h.resolve_left hb⟩

/-- The request a span is written back to cuts its length as the span is cut, unless a given count
does not come back. -/
theorem cut_toSpec_iff {now : Instant} {s : SpanSpec} {span : Span} (h : s.resolve now = .ok span) :
    span.toSpec.cutOutright span.width =
        .ok (span.windowCount, span.windowWidth, span.windowSource) ↔
      (s.FixesWindows → span.CountsBack) := by
  obtain ⟨hzero, hpositive, hl, hlength, _, _, hcut⟩ := resolve_eq_ok_iff.1 h
  obtain ⟨start, stop, width, count, window, source⟩ := span
  dsimp only at hlength hcut ⊢
  cases hw : s.windowWidth with
  | none =>
    have hn : ¬ s.FixesWindows := by simp [FixesWindows, hw]
    rw [cutOutright_of_count width hw] at hcut
    split at hcut
    · cases hcut
    rename_i hsmall
    cases hcut
    simp only [hn, false_implies, iff_true]
    rw [cutOutright_of_count width rfl]
    exact if_neg hsmall
  | some shown =>
    cases hc : s.windowCount with
    | none =>
      have hn : ¬ s.FixesWindows := by simp [FixesWindows, hc]
      rw [cutOutright_of_width width hc hw] at hcut
      split at hcut
      · rename_i hcount
        cases hcut
        simp only [hn, false_implies, iff_true]
        rw [cutOutright_of_width width rfl rfl, hcount]
      · cases hcut
    | some given =>
      have hy : s.FixesWindows := by simp [FixesWindows, hc, hw]
      rw [cutOutright_of_both width hc hw] at hcut
      cases hcut
      simp only [hy, true_implies]
      unfold Span.CountsBack
      rw [cutOutright_of_width width rfl rfl, ← countsBack_iff (given_count_pos hzero hc)
        (hpositive window hw) (length_of_fixesWindows hl hc hw hlength)]
      cases windowsOutright width window <;> simp

/-! ## Main statement -/

theorem sources_toSpec (span : Span) : span.toSpec.sources = [.bounds] := by
  unfold Span.toSpec
  cases span.windowSource <;> rfl

theorem lengthOutright_toSpec (now : Instant) (span : Span) :
    span.toSpec.lengthOutright now = .ok (span.stop.since span.start) := by
  unfold Span.toSpec
  cases span.windowSource <;> rfl

theorem boundsOutright_toSpec (now : Instant) (span : Span) (length : Duration) :
    span.toSpec.boundsOutright now length = .ok (span.start, span.stop) := by
  unfold Span.toSpec
  cases span.windowSource <;> rfl

theorem source_of_cut {s : SpanSpec} {length window : Duration} {count : UInt32}
    {source : WindowSource} (h : s.cutOutright length = .ok (count, window, source)) :
    (source = .count ∧ s.windowWidth = none ∧ count = s.windowCount.getD 240) ∨
      (source = .width ∧ s.windowWidth = some window) := by
  cases hw : s.windowWidth with
  | none =>
    rw [cutOutright_of_count length hw] at h
    split at h
    · cases h
    · cases h
      exact Or.inl ⟨rfl, rfl, rfl⟩
  | some shown =>
    refine Or.inr ?_
    cases hc : s.windowCount with
    | none =>
      rw [cutOutright_of_width length hc hw] at h
      split at h
      · cases h
        exact ⟨rfl, rfl⟩
      · cases h
    | some given =>
      rw [cutOutright_of_both length hc hw] at h
      cases h
      exact ⟨rfl, rfl⟩

theorem checked_toSpec {now : Instant} {s : SpanSpec} {span : Span} (h : s.resolve now = .ok span) :
    span.toSpec.windowCount ≠ some 0 ∧ ∀ window ∈ span.toSpec.windowWidth, 0 < window.nanos := by
  obtain ⟨hzero, hpositive, _, _, _, _, hcut⟩ := resolve_eq_ok_iff.1 h
  unfold Span.toSpec
  obtain ⟨hs, _, hcount⟩ | ⟨hs, hw⟩ := source_of_cut hcut
  · rw [hs, hcount]
    refine ⟨?_, nofun⟩
    cases hc : s.windowCount with
    | none => exact (by decide : (some (240 : UInt32)) ≠ some 0)
    | some count => exact hc ▸ hzero
  · rw [hs]
    refine ⟨nofun, fun window hwindow => hpositive window ?_⟩
    rw [hw]
    exact hwindow

theorem resolve_toSpec_eq {now : Instant} {s : SpanSpec} {span : Span}
    (h : s.resolve now = .ok span) (now' : Instant) :
    span.toSpec.resolve now' = .ok span ↔ span.Returns s := by
  obtain ⟨_, _, _, _, hpos, _, _⟩ := resolve_eq_ok_iff.1 h
  obtain ⟨hzero, hpositive⟩ := checked_toSpec h
  unfold Span.Returns
  rw [resolve_eq_ok_iff, lengthOutright_toSpec, boundsOutright_toSpec, sources_toSpec,
    cut_toSpec_iff h, Except.ok.injEq, since_eq_width_iff h]
  constructor
  · rintro ⟨_, _, _, hbounds, _, _, hcut⟩
    exact ⟨hbounds, hcut⟩
  · rintro ⟨hbounds, hcut⟩
    exact ⟨hzero, hpositive, Nat.le_refl 1, hbounds, hpos, rfl, hcut⟩

theorem eq_of_alike {now : Instant} {span again : Span} (h : span.toSpec.resolve now = .ok again)
    (ha : again.Alike span) : again = span := by
  obtain ⟨_, _, _, _, _, _, hcut⟩ := resolve_eq_ok_iff.1 h
  obtain ⟨hstart, hstop, hwidth, hcount, hwindow⟩ := ha
  have hsource : again.windowSource = span.windowSource := by
    unfold Span.toSpec at hcut
    cases hs : span.windowSource with
    | count =>
      rw [hs] at hcut
      obtain ⟨ht, _⟩ | ⟨_, hw⟩ := source_of_cut hcut
      · exact ht
      · cases hw
    | width =>
      rw [hs] at hcut
      obtain ⟨_, hw, _⟩ | ⟨ht, _⟩ := source_of_cut hcut
      · cases hw
      · exact ht
  cases again
  cases span
  cases hstart
  cases hstop
  cases hwidth
  cases hcount
  cases hwindow
  cases hsource
  rfl

/-- Whatever the moment of the second resolution, it gives the same span exactly when the span
returns. -/
theorem resolve_toSpec_iff {now : Instant} {s : SpanSpec} {span : Span}
    (h : s.resolve now = .ok span) (now' : Instant) :
    (∃ again, span.toSpec.resolve now' = .ok again ∧ again.Alike span) ↔ span.Returns s := by
  rw [← resolve_toSpec_eq h now']
  constructor
  · rintro ⟨again, hagain, ha⟩
    rw [eq_of_alike hagain ha] at hagain
    exact hagain
  · intro hspan
    exact ⟨span, hspan, .refl span⟩

/-- Windows of five seconds and half a millisecond over 340 years. -/
def longWindows : SpanSpec where
  start := some .epoch
  windowCount := some 2147483647
  windowWidth := some ⟨5000500000⟩

/-- Their number is not found again: in milliseconds each counts as five seconds. -/
theorem longWindows_not_returned : ∃ span, longWindows.resolve .epoch = .ok span ∧
    ¬ ∃ again, span.toSpec.resolve .epoch = .ok again ∧ again.Alike span := by
  obtain ⟨span, h, hn⟩ : ∃ span, longWindows.resolve .epoch = .ok span ∧
      ¬ span.Returns longWindows := by
    rw [resolve_eq]
    exact ⟨_, rfl, by decide⟩
  exact ⟨span, h, fun hc => hn ((resolve_toSpec_iff h .epoch).1 hc)⟩

/-- An hour from the leap second at the end of 2016. -/
def hourFromLeap : SpanSpec where
  start := some ⟨1483228799, 1000000000, by decide, by decide, by decide⟩
  width := some (.ofSeconds 3600)

/-- Its bounds lie an hour less a second apart. -/
theorem hourFromLeap_not_returned : ¬ ∀ (now now' : Instant) (s : SpanSpec) (span : Span),
    s.resolve now = .ok span → ∃ again, span.toSpec.resolve now' = .ok again ∧ again.Alike span := by
  intro hall
  obtain ⟨span, h, hn⟩ : ∃ span, hourFromLeap.resolve .epoch = .ok span ∧
      ¬ span.Returns hourFromLeap := by
    rw [resolve_eq]
    exact ⟨_, rfl, by decide⟩
  obtain ⟨again, hagain, ha⟩ := hall .epoch .epoch hourFromLeap span h
  rw [eq_of_alike hagain ha] at hagain
  exact hn ((resolve_toSpec_eq h .epoch).1 hagain)

end SpanSpec
end SeriesExport

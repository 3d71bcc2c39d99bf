import SeriesExport.Span.Resolve

/-! How an open request is filled. A turn fills one open field. From a request with at most one
complete source no turn gives it a second one, every turn leaves the filled request the same, and
after at most three of them the request is settled. -/
namespace SeriesExport.SpanSpec
set_option autoImplicit false

/-! ## Turns -/

/-- `n` turns lead from `s` to the settled `t`, and none of them gives a second source. -/
inductive Completes (now : Instant) : Nat → SpanSpec → SpanSpec → Prop
  | settled {s : SpanSpec} : s.Settled → Completes now 0 s s
  | turn {n : Nat} {s t u : SpanSpec} : ¬ s.Settled → s.fillNext? now = some t →
      t.sources.length ≤ 1 → Completes now n t u → Completes now (n + 1) s u

theorem complete_of_settled {now : Instant} {s : SpanSpec} (h : s.Settled) :
    s.complete now = .ok s := by
  rw [complete, if_pos h]

theorem complete_of_turn {now : Instant} {s t : SpanSpec} (h : ¬ s.Settled)
    (ht : s.fillNext? now = some t) (hl : t.sources.length ≤ 1) :
    s.complete now = t.complete now := by
  rw [complete, if_neg h]
  split
  · rename_i hn
    rw [ht] at hn
    cases hn
  · rename_i u hu
    rw [ht] at hu
    cases hu
    rw [if_neg (by omega)]

theorem Completes.complete_eq {now : Instant} {n : Nat} {s t : SpanSpec}
    (h : Completes now n s t) : s.complete now = .ok t := by
  induction h with
  | settled hs => exact complete_of_settled hs
  | turn hs ht hl _ ih => rw [complete_of_turn hs ht hl, ih]

/-! ## The filled request -/

/-- The end in use: the given one, else `now` where there is no start or nothing to reckon the end
from it. -/
def stopInUse (now : Instant) (s : SpanSpec) : Option Instant :=
  match s.stop with
  | some stop => some stop
  | none => if s.start = none ∨ s.sources = [] then some now else none

/-- The window count in use: 240 where neither window field is given. -/
def countInUse (s : SpanSpec) : Option UInt32 :=
  if s.windowCount = none ∧ s.windowWidth = none then some defaultWindowCount else s.windowCount

/-- The width in use: a day where there is neither a length nor a start to end now. -/
def widthInUse (s : SpanSpec) : Option Duration :=
  if s.start = none ∧ s.sources = [] then some defaultWidth else s.width

def filled (now : Instant) (s : SpanSpec) : SpanSpec :=
  { s with stop := s.stopInUse now, windowCount := s.countInUse, width := s.widthInUse }

theorem filled_of_settled (now : Instant) {s : SpanSpec} (h : s.Settled) : s.filled now = s := by
  obtain ⟨start, stop, width, count, window⟩ := s
  obtain ⟨hs, hb, hw⟩ := h
  have hstop : stopInUse now ⟨start, stop, width, count, window⟩ = stop := by
    cases stop with
    | some stop => rfl
    | none =>
      have hstart : start ≠ none := by
        rintro rfl
        simp [hasBound] at hb
      simp [stopInUse, hs, hstart]
  have hcount : countInUse ⟨start, stop, width, count, window⟩ = count := by
    rw [countInUse, if_neg]
    rintro ⟨rfl, rfl⟩
    simp [hasWindow] at hw
  have hwidth : widthInUse ⟨start, stop, width, count, window⟩ = width := by
    rw [widthInUse, if_neg]
    exact fun h => hs h.2
  rw [filled, hstop, hcount, hwidth]

/-! ## One turn -/

/-- Filling a window field settles no source: the other window field is open too. -/
theorem turn_of_no_window (now : Instant) {s : SpanSpec} (h : s.hasWindow = false) :
    s.fillNext? now = some { s with windowCount := some defaultWindowCount } ∧
      sources { s with windowCount := some defaultWindowCount } = s.sources ∧
      filled now { s with windowCount := some defaultWindowCount } = s.filled now := by
  obtain ⟨start, stop, width, count, window⟩ := s
  simp only [hasWindow, Bool.or_eq_false_iff, Option.isSome_eq_false_iff,
    Option.isNone_iff_eq_none] at h
  obtain ⟨rfl, rfl⟩ := h
  refine ⟨by simp [fillNext?, hasWindow], by simp [sources], ?_⟩
  simp [filled, stopInUse, countInUse, widthInUse, sources]

/-- Without an end the turn falls on `now`. It closes the bounds where there is a start, and then
there was no source before. -/
theorem turn_of_no_stop {now : Instant} {s : SpanSpec} (hw : s.hasWindow = true)
    (hstop : s.stop = none) (hopen : s.start = none ∨ s.sources = []) (hl : s.sources.length ≤ 1) :
    s.fillNext? now = some { s with stop := some now } ∧
      (sources { s with stop := some now }).length ≤ 1 ∧
      filled now { s with stop := some now } = s.filled now := by
  obtain ⟨start, stop, width, count, window⟩ := s
  dsimp only at hstop
  subst hstop
  refine ⟨by simp [fillNext?, hw], ?_, ?_⟩
  · rcases hopen with hs | hs
    · dsimp only at hs
      subst hs
      simpa [sources] using hl
    · simp only [sources, List.append_eq_nil_iff] at hs
      simp only [sources, hs.1.2, hs.2, List.append_nil]
      split <;> simp
  · cases start with
    | none => simp [filled, stopInUse, countInUse, widthInUse, sources]
    | some start =>
      have hs : sources ⟨some start, none, width, count, window⟩ = [] := by
        simpa using hopen
      simp [filled, stopInUse, countInUse, widthInUse, hs]

/-- With an end but neither start nor source the turn gives the width of a day, the one source. -/
theorem turn_of_no_width {now : Instant} {s : SpanSpec} (hw : s.hasWindow = true)
    (hstop : s.stop ≠ none) (hs : s.sources = []) :
    s.fillNext? now = some { s with width := some defaultWidth } ∧
      (sources { s with width := some defaultWidth }).length ≤ 1 ∧
      filled now { s with width := some defaultWidth } = s.filled now := by
  obtain ⟨start, stop, width, count, window⟩ := s
  obtain ⟨stop, rfl⟩ := Option.ne_none_iff_exists'.1 hstop
  cases start with
  | some start => simp [sources] at hs
  | none =>
    cases width with
    | some width => simp [sources] at hs
    | none =>
      have hc : ¬ (count.isSome = true ∧ window.isSome = true) := by
        intro hc
        simp [sources, hc] at hs
      refine ⟨by simp [fillNext?, hw], by simp [sources, hc], ?_⟩
      simp [filled, stopInUse, countInUse, widthInUse, sources, hc]

theorem exists_turn (now : Instant) {s : SpanSpec} (h : ¬ s.Settled) (hl : s.sources.length ≤ 1) :
    ∃ t, s.fillNext? now = some t ∧ t.sources.length ≤ 1 ∧ t.filled now = s.filled now := by
  by_cases hw : s.hasWindow = true
  · by_cases hstop : s.stop = none
    · have hopen : s.start = none ∨ s.sources = [] := by
        refine Classical.byContradiction fun hc => ?_
        rw [not_or] at hc
        have hb : s.hasBound = true := by
          rw [hasBound, Option.isSome_iff_ne_none.2 hc.1, Bool.true_or]
        exact h ⟨hc.2, hb, hw⟩
      exact ⟨_, turn_of_no_stop hw hstop hopen hl⟩
    · have hs : s.sources = [] := by
        refine Classical.byContradiction fun hc => ?_
        have hb : s.hasBound = true := by
          rw [hasBound, Option.isSome_iff_ne_none.2 hstop, Bool.or_true]
        exact h ⟨hc, hb, hw⟩
      exact ⟨_, turn_of_no_width hw hstop hs⟩
  · obtain ⟨ht, hsrc, hf⟩ := turn_of_no_window now (Bool.not_eq_true _ ▸ hw)
    exact ⟨_, ht, by rw [hsrc]; exact hl, hf⟩

/-! ## All turns -/

theorem open?_le_three (s : SpanSpec) : s.open? ≤ 3 := by
  unfold open?
  split <;> split <;> split <;> omega

/-- The number of open fields bounds the turns: each closes one. -/
theorem completes_filled (now : Instant) {s : SpanSpec} (hl : s.sources.length ≤ 1) :
    ∃ n ≤ s.open?, Completes now n s (s.filled now) := by
  by_cases hs : s.Settled
  · refine ⟨0, Nat.zero_le _, ?_⟩
    rw [filled_of_settled now hs]
    exact .settled hs
  · obtain ⟨t, ht, htl, htf⟩ := exists_turn now hs hl
    have hlt : t.open? < s.open? := open?_fillNext? ht
    obtain ⟨n, hn, hc⟩ := completes_filled now htl
    rw [htf] at hc
    exact ⟨n + 1, by omega, .turn hs ht htl hc⟩
  termination_by s.open?

theorem complete_eq_filled (now : Instant) {s : SpanSpec} (hl : s.sources.length ≤ 1) :
    s.complete now = .ok (s.filled now) := by
  obtain ⟨n, _, hc⟩ := completes_filled now hl
  exact hc.complete_eq

end SeriesExport.SpanSpec

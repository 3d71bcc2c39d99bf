import SeriesExport.Proofs.Span.Completion
import SeriesExport.Proofs.Span.Windows

/-! A resolved request said outright, without filling it turn by turn. Main statement: resolving
gives this span or this error, filling ends, and no request stays unsettled. -/
namespace SeriesExport.SpanSpec
set_option autoImplicit false

/-! ## The span of a request -/

/-- From the start to the end in use, else the given width, else all windows together, else a day. -/
def lengthOutright (now : Instant) (s : SpanSpec) : Except SpanError Duration :=
  match s.start, s.stopInUse now, s.width, s.windowCount, s.windowWidth with
  | some start, some stop, _, _, _ => .ok (stop.since start)
  | _, _, some width, _, _ => .ok width
  | _, _, none, some count, some window =>
    if 2147483647 < count.toNat then .error (.windowCountTooLarge count.toNat)
    else
      match window.scale? count.toNat with
      | some length => .ok length
      | none => .error (.periodTooLong count.toNat window)
  | _, _, none, _, _ => .ok .day

/-- The bounds in use, one of them reckoned from the other where it is missing. -/
def boundsOutright (now : Instant) (s : SpanSpec) (length : Duration) :
    Except SpanError (Instant × Instant) :=
  match s.start, s.stopInUse now with
  | some start, some stop => .ok (start, stop)
  | some start, none =>
    match start.add? length with
    | some stop => .ok (start, stop)
    | none => .error (.boundOutOfRange start .forward length)
  | none, stop? =>
    let stop := stop?.getD now
    match stop.sub? length with
    | some start => .ok (start, stop)
    | none => .error (.boundOutOfRange stop .backward length)

/-- The window fields, one of them reckoned from the length where it is missing, with 240 windows
where both are. -/
def cutOutright (s : SpanSpec) (length : Duration) :
    Except SpanError (UInt32 × Duration × WindowSource) :=
  match s.windowCount, s.windowWidth with
  | some count, some window => .ok (count, window, .width)
  | none, some window =>
    match windowsOutright length window with
    | .ok count => .ok (count, window, .width)
    | .error e => .error e
  | count?, none =>
    let count := count?.getD 240
    if 2147483647 < count.toNat then .error (.windowCountTooLarge count.toNat)
    else .ok (count, length.share count.toNat, .count)

/-- The span of a request or its error, the first that applies. -/
def outright (now : Instant) (s : SpanSpec) : Except SpanError Span :=
  if s.windowCount = some 0 then .error .zeroWindows
  else if s.windowWidth.any fun window => window.nanos ≤ 0 then .error .nonPositiveWindow
  else if 2 ≤ s.sources.length then .error (.overConstrained s.sources)
  else
    match s.lengthOutright now with
    | .error e => .error e
    | .ok length =>
      if length.nanos ≤ 0 then .error .nonPositivePeriod
      else
        match s.boundsOutright now length with
        | .error e => .error e
        | .ok (start, stop) =>
          match s.cutOutright length with
          | .error e => .error e
          | .ok (count, window, source) => .ok ⟨start, stop, length, count, window, source⟩

theorem boundsOutright_cases {now : Instant} {s : SpanSpec} {length : Duration} {start stop : Instant}
    (h : s.boundsOutright now length = .ok (start, stop)) :
    (s.start = some start ∧ s.stopInUse now = some stop) ∨
      (s.start = some start ∧ s.stopInUse now = none ∧ start.add? length = some stop) ∨
      (s.start = none ∧ (s.stopInUse now).getD now = stop ∧ stop.sub? length = some start) := by
  unfold boundsOutright at h
  cases hs : s.start with
  | none =>
    rw [hs] at h
    dsimp only at h
    split at h
    · rename_i hsub
      cases h
      exact Or.inr (Or.inr ⟨rfl, rfl, hsub⟩)
    · cases h
  | some first =>
    rw [hs] at h
    cases ht : s.stopInUse now with
    | some last =>
      rw [ht] at h
      cases h
      exact Or.inl ⟨rfl, rfl⟩
    | none =>
      rw [ht] at h
      dsimp only at h
      split at h
      · rename_i hadd
        cases h
        exact Or.inr (Or.inl ⟨rfl, rfl, hadd⟩)
      · cases h

theorem given_count_pos {s : SpanSpec} {count : UInt32} (hzero : s.windowCount ≠ some 0)
    (hc : s.windowCount = some count) : 0 < count.toNat := by
  refine toNat_pos_iff.2 fun h => hzero ?_
  rw [hc, h]

theorem cutOutright_of_both {s : SpanSpec} {count : UInt32} {window : Duration} (length : Duration)
    (hc : s.windowCount = some count) (hw : s.windowWidth = some window) :
    s.cutOutright length = .ok (count, window, .width) := by
  rw [cutOutright, hc, hw]

theorem cutOutright_of_width {s : SpanSpec} {window : Duration} (length : Duration)
    (hc : s.windowCount = none) (hw : s.windowWidth = some window) : s.cutOutright length =
      match windowsOutright length window with
      | .ok count => .ok (count, window, .width)
      | .error e => .error e := by
  rw [cutOutright, hc, hw]

theorem cutOutright_of_count {s : SpanSpec} (length : Duration) (hw : s.windowWidth = none) :
    s.cutOutright length =
      if 2147483647 < (s.windowCount.getD 240).toNat then
        .error (.windowCountTooLarge (s.windowCount.getD 240).toNat)
      else
        .ok (s.windowCount.getD 240, length.share (s.windowCount.getD 240).toNat, .count) := by
  rw [cutOutright, hw]
  cases s.windowCount <;> rfl

theorem windowsOutright_of_cut {s : SpanSpec} {length window shown : Duration} {count : UInt32}
    {source : WindowSource} (hc : s.windowCount = none) (hw : s.windowWidth = some window)
    (h : s.cutOutright length = .ok (count, shown, source)) :
    windowsOutright length window = .ok count := by
  rw [cutOutright_of_width length hc hw] at h
  split at h
  · rename_i hfound
    cases h
    exact hfound
  · cases h

theorem share_of_cut {s : SpanSpec} {length shown : Duration} {count : UInt32}
    {source : WindowSource} (hw : s.windowWidth = none)
    (h : s.cutOutright length = .ok (count, shown, source)) :
    count = s.windowCount.getD 240 ∧ shown = length.share count.toNat := by
  rw [cutOutright_of_count length hw] at h
  split at h
  · cases h
  · cases h
    exact ⟨rfl, rfl⟩

/-! ## The parts of the filled request -/

theorem divisor_eq (count : UInt32) : divisor count =
    if 2147483647 < count.toNat then .error (.windowCountTooLarge count.toNat)
    else .ok count.toNat := by
  unfold divisor
  by_cases h : 2147483647 < count.toNat
  · rw [if_neg (by omega), if_pos h]
  · rw [if_pos (by omega), if_neg h]

theorem windowsPeriod_eq (count : UInt32) (window : Duration) : windowsPeriod count window =
    if 2147483647 < count.toNat then .error (.windowCountTooLarge count.toNat)
    else
      match window.scale? count.toNat with
      | some length => .ok length
      | none => .error (.periodTooLong count.toNat window) := by
  unfold windowsPeriod
  rw [divisor_eq]
  split <;> rfl

theorem period_filled (now : Instant) {s : SpanSpec} (hl : s.sources.length ≤ 1) :
    (s.filled now).period = s.lengthOutright now := by
  obtain ⟨start, stop, width, count, window⟩ := s
  -- Every pattern of given fields; those with two complete sources contradict `hl`.
  cases start <;> cases stop <;> cases width <;> cases count <;> cases window <;>
    simp [sources] at hl <;>
    simp [filled, period, sources, lengthOutright, stopInUse, widthInUse, countInUse, defaultWidth,
      windowsPeriod_eq]

theorem bounds_filled (now : Instant) (s : SpanSpec) (length : Duration) :
    (s.filled now).bounds length = s.boundsOutright now length := by
  have hstop : s.start = none → s.stopInUse now = some (s.stop.getD now) := by
    intro h
    unfold stopInUse
    cases s.stop <;> simp [h]
  unfold bounds boundsOutright filled shift
  dsimp only
  cases hs : s.start with
  | none =>
    rw [hstop hs]
    dsimp only [Option.getD_some]
    cases (s.stop.getD now).sub? length <;> rfl
  | some start =>
    cases s.stopInUse now with
    | none =>
      dsimp only
      cases start.add? length <;> rfl
    | some stop => rfl

theorem windows_filled (now : Instant) (s : SpanSpec) {length : Duration} (h : 0 ≤ length.nanos) :
    (s.filled now).windows length = s.cutOutright length := by
  unfold windows cutOutright filled countInUse
  dsimp only
  cases hw : s.windowWidth with
  | some window =>
    rw [if_neg (fun hn => nomatch hn.2)]
    cases hc : s.windowCount with
    | some count => rfl
    | none =>
      dsimp only
      rw [windowsIn_eq_outright window h]
      cases windowsOutright length window <;> rfl
  | none =>
    cases hc : s.windowCount with
    | some count =>
      rw [if_neg (fun hn => nomatch hn.1)]
      dsimp only [Option.getD_some]
      rw [divisor_eq]
      split <;> rfl
    | none => rfl

/-! ## Resolving -/

theorem checkWindows_eq (s : SpanSpec) : s.checkWindows =
    if s.windowCount = some 0 then .error .zeroWindows
    else if s.windowWidth.any fun window => window.nanos ≤ 0 then .error .nonPositiveWindow
    else .ok () := by
  unfold checkWindows
  by_cases hc : s.windowCount = some 0
  · rw [if_pos hc, if_pos hc]
    rfl
  · rw [if_neg hc, if_neg hc]
    cases hw : s.windowWidth with
    | none => rfl
    | some window =>
      by_cases hp : 0 < window.nanos
      · have hn : ¬ window.nanos ≤ 0 := by omega
        simp [Duration.IsPositive, hp, hn]
        rfl
      · have hn : window.nanos ≤ 0 := by omega
        simp [Duration.IsPositive, hp, hn]
        rfl

theorem derive_filled (now : Instant) {s : SpanSpec} (hl : s.sources.length ≤ 1) :
    (s.filled now).derive =
      match s.lengthOutright now with
      | .error e => .error e
      | .ok length =>
        if length.nanos ≤ 0 then .error .nonPositivePeriod
        else
          match s.boundsOutright now length with
          | .error e => .error e
          | .ok (start, stop) =>
            match s.cutOutright length with
            | .error e => .error e
            | .ok (count, window, source) => .ok ⟨start, stop, length, count, window, source⟩ := by
  unfold derive
  rw [period_filled now hl]
  cases s.lengthOutright now with
  | error e => rfl
  | ok length =>
    simp only [bind, Except.bind]
    by_cases hp : length.nanos ≤ 0
    · have hn : ¬ length.IsPositive := Int.not_lt.2 hp
      rw [if_neg hn, if_pos hp]
      rfl
    · have hn : length.IsPositive := Int.not_le.1 hp
      rw [if_pos hn, if_neg hp, bounds_filled, windows_filled now s (by omega)]
      cases s.boundsOutright now length with
      | error e => rfl
      | ok bounds =>
        cases s.cutOutright length <;> rfl

theorem resolve_eq (now : Instant) (s : SpanSpec) : s.resolve now = s.outright now := by
  unfold resolve outright
  rw [checkWindows_eq]
  by_cases hc : s.windowCount = some 0
  · rw [if_pos hc, if_pos hc]
    rfl
  rw [if_neg hc, if_neg hc]
  by_cases hw : (s.windowWidth.any fun window => window.nanos ≤ 0) = true
  · rw [if_pos hw, if_pos hw]
    rfl
  rw [if_neg hw, if_neg hw]
  by_cases hl : 2 ≤ s.sources.length
  · rw [if_pos hl]
    simp only [bind, Except.bind, if_pos (show 1 < s.sources.length by omega)]
    rfl
  · have hl' : ¬ 1 < s.sources.length := by omega
    rw [if_neg hl, ← derive_filled now (by omega)]
    simp only [bind, Except.bind, if_neg hl', complete_eq_filled now (show s.sources.length ≤ 1 by omega)]

/-- What a span that is resolved owes to its request. -/
theorem resolve_eq_ok_iff {now : Instant} {s : SpanSpec} {span : Span} :
    s.resolve now = .ok span ↔
      s.windowCount ≠ some 0 ∧ (∀ window ∈ s.windowWidth, 0 < window.nanos) ∧
      s.sources.length ≤ 1 ∧ s.lengthOutright now = .ok span.width ∧ 0 < span.width.nanos ∧
      s.boundsOutright now span.width = .ok (span.start, span.stop) ∧
      s.cutOutright span.width = .ok (span.windowCount, span.windowWidth, span.windowSource) := by
  rw [resolve_eq]
  unfold outright
  by_cases hc : s.windowCount = some 0
  · simp [hc]
  rw [if_neg hc]
  have hw : (s.windowWidth.any fun window => window.nanos ≤ 0) = true ↔
      ¬ ∀ window ∈ s.windowWidth, 0 < window.nanos := by
    cases s.windowWidth <;> simp
  by_cases hp : ∀ window ∈ s.windowWidth, 0 < window.nanos
  case neg =>
    rw [if_pos (hw.2 hp)]
    exact ⟨nofun, fun h => absurd h.2.1 hp⟩
  rw [if_neg (fun h => hw.1 h hp)]
  by_cases hl : 2 ≤ s.sources.length
  · rw [if_pos hl]
    constructor
    · nofun
    · rintro ⟨_, _, h, _⟩
      omega
  rw [if_neg hl]
  constructor
  · intro h
    split at h
    · cases h
    rename_i length hlength
    split at h
    · cases h
    rename_i hpos
    split at h
    · cases h
    rename_i start stop hbounds
    split at h
    · cases h
    rename_i count window source hcut
    cases h
    exact ⟨hc, hp, by omega, hlength, by dsimp only; omega, hbounds, hcut⟩
  · rintro ⟨_, _, _, hlength, hpos, hbounds, hcut⟩
    rw [hlength]
    dsimp only
    rw [if_neg (by omega), hbounds]
    dsimp only
    rw [hcut]

/-! ## No request stays unsettled -/

theorem lengthOutright_ne_unsettled (now : Instant) (s : SpanSpec) :
    s.lengthOutright now ≠ .error .unsettled := by
  unfold lengthOutright
  repeat' split
  all_goals nofun

theorem boundsOutright_ne_unsettled (now : Instant) (s : SpanSpec) (length : Duration) :
    s.boundsOutright now length ≠ .error .unsettled := by
  unfold boundsOutright
  dsimp only
  repeat' split
  all_goals nofun

theorem windowsOutright_ne_unsettled (length window : Duration) :
    windowsOutright length window ≠ .error .unsettled := by
  unfold windowsOutright
  dsimp only
  repeat' split
  all_goals nofun

theorem cutOutright_ne_unsettled (s : SpanSpec) (length : Duration) :
    s.cutOutright length ≠ .error .unsettled := by
  unfold cutOutright
  dsimp only
  split
  · nofun
  · rename_i window _ _
    have hw := windowsOutright_ne_unsettled length window
    split
    · nofun
    · rename_i e he
      rw [he] at hw
      intro h
      cases h
      exact hw rfl
  · split
    · nofun
    · nofun

theorem outright_ne_unsettled (now : Instant) (s : SpanSpec) :
    s.outright now ≠ .error .unsettled := by
  unfold outright
  split
  · nofun
  split
  · nofun
  split
  · nofun
  have hlength := lengthOutright_ne_unsettled now s
  cases hl : s.lengthOutright now with
  | error e =>
    rw [hl] at hlength
    intro h
    cases h
    exact hlength rfl
  | ok length =>
    dsimp only
    split
    · nofun
    have hbounds := boundsOutright_ne_unsettled now s length
    cases hb : s.boundsOutright now length with
    | error e =>
      rw [hb] at hbounds
      intro h
      cases h
      exact hbounds rfl
    | ok bounds =>
      have hcut := cutOutright_ne_unsettled s length
      cases hc : s.cutOutright length with
      | error e =>
        rw [hc] at hcut
        intro h
        cases h
        exact hcut rfl
      | ok cut => nofun

/-! ## Main statement -/

/-- Resolving is the span said outright; its filling takes at most three turns, none of which gives a
second source, and it never leaves a request unsettled. -/
theorem resolve_eq_outright (now : Instant) (s : SpanSpec) :
    s.resolve now = s.outright now ∧ s.resolve now ≠ .error .unsettled ∧
      (2 ≤ s.sources.length ∨ ∃ n ≤ 3, Completes now n s (s.filled now)) := by
  refine ⟨resolve_eq now s, ?_, ?_⟩
  · rw [resolve_eq]
    exact outright_ne_unsettled now s
  · by_cases hl : 2 ≤ s.sources.length
    · exact Or.inl hl
    · obtain ⟨n, hn, hc⟩ := completes_filled now (show s.sources.length ≤ 1 by omega)
      exact Or.inr ⟨n, Nat.le_trans hn (open?_le_three s), hc⟩

end SeriesExport.SpanSpec

import SeriesExport.Span.Resolve

/-! How many windows cover a length: the quotient in the common unit of both, rounded up. -/
namespace SeriesExport
set_option autoImplicit false

namespace Duration

theorem wholeMillis_of_nonneg {d : Duration} (h : 0 ≤ d.nanos) : d.wholeMillis = d.nanos / 1000000 :=
  Int.tdiv_eq_ediv_of_nonneg h

theorem wordNanos?_eq_some {d : Duration} (h : 0 ≤ d.nanos) (hb : d.nanos < wordBound) :
    d.wordNanos? = some d.nanos := by
  rw [wordNanos?, if_pos]
  unfold wordBound at *
  omega

theorem wordNanos?_eq_none {d : Duration} (h : wordBound ≤ d.nanos) : d.wordNanos? = none := by
  rw [wordNanos?, if_neg]
  omega

theorem ratio_in_nanos {d e : Duration} (hd : 0 ≤ d.nanos) (he : 0 ≤ e.nanos)
    (hdb : d.nanos < wordBound) (heb : e.nanos < wordBound) : d.ratio e = (d.nanos, e.nanos) := by
  rw [ratio, wordNanos?_eq_some hd hdb, wordNanos?_eq_some he heb]

theorem ratio_in_millis {d e : Duration} (h : wordBound ≤ d.nanos ∨ wordBound ≤ e.nanos) :
    d.ratio e = (d.wholeMillis, e.wholeMillis) := by
  unfold ratio
  rcases h with h | h
  · rw [wordNanos?_eq_none h]
  · rw [wordNanos?_eq_none h]
    cases d.wordNanos? <;> rfl

/-- The unit that both numbers of a ratio are in. -/
def ratioUnit (d e : Duration) : Int :=
  if d.nanos < wordBound ∧ e.nanos < wordBound then 1 else 1000000

theorem ratioUnit_pos (d e : Duration) : 0 < d.ratioUnit e := by
  unfold ratioUnit
  split <;> decide

theorem ratio_eq {d e : Duration} (hd : 0 ≤ d.nanos) (he : 0 ≤ e.nanos) :
    d.ratio e = (d.nanos / d.ratioUnit e, e.nanos / d.ratioUnit e) := by
  unfold ratioUnit
  by_cases h : d.nanos < wordBound ∧ e.nanos < wordBound
  · rw [if_pos h, ratio_in_nanos hd he h.1 h.2, Int.ediv_one, Int.ediv_one]
  · rw [if_neg h, ratio_in_millis (by omega), wholeMillis_of_nonneg hd, wholeMillis_of_nonneg he]

theorem ratio_fst_nonneg {d e : Duration} (h : 0 ≤ d.nanos) : 0 ≤ (d.ratio e).1 := by
  have hm : 0 ≤ d.wholeMillis := by
    rw [wholeMillis_of_nonneg h]
    exact Int.ediv_nonneg h (by decide)
  unfold ratio
  split
  · rename_i hd _
    unfold wordNanos? at hd
    split at hd
    · cases hd
      exact h
    · cases hd
  · exact hm

theorem scale?_eq_some {d e : Duration} {count : Nat} (h : d.scale? count = some e) :
    e = ⟨d.nanos * count⟩ := by
  unfold scale? at h
  dsimp only at h
  split at h
  · cases h
    rfl
  · cases h

end Duration

/-! ## Rounding up -/

theorem ceil_le_iff {p w c : Int} (hw : 0 < w) : (p + w - 1) / w ≤ c ↔ p ≤ c * w := by
  rw [← Int.lt_add_one_iff, Int.ediv_lt_iff_lt_mul hw, Int.add_mul]
  omega

theorem lt_ceil_iff {p w c : Int} (hw : 0 < w) : c < (p + w - 1) / w ↔ c * w < p := by
  rw [← Int.not_le, ceil_le_iff hw, Int.not_le]

theorem ceil_eq_iff {p w c : Int} (hw : 0 < w) :
    (p + w - 1) / w = c ↔ (c - 1) * w < p ∧ p ≤ c * w := by
  rw [← lt_ceil_iff hw, ← ceil_le_iff hw]
  omega

theorem ceil_nonneg {p w : Int} (hp : 0 ≤ p) (hw : 0 < w) : 0 ≤ (p + w - 1) / w :=
  Int.ediv_nonneg (by omega) (by omega)

/-- Cutting off and adding one for a rest is rounding up. -/
theorem tdiv_add_rest {p w : Int} (hp : 0 ≤ p) (hw : 0 < w) :
    p.tdiv w + (if p.tmod w = 0 then 0 else 1) = (p + w - 1) / w := by
  rw [eq_comm, ceil_eq_iff hw, Int.tdiv_eq_ediv_of_nonneg hp, Int.tmod_eq_emod_of_nonneg hp]
  have hrest := Int.emod_nonneg p (show w ≠ 0 by omega)
  have hrest' := Int.emod_lt_of_pos p hw
  have hp' := Int.ediv_mul_add_emod p w
  split
  · rw [Int.add_zero, Int.sub_mul]
    omega
  · rw [Int.add_sub_cancel, Int.add_mul]
    omega

namespace SpanSpec

/-- The windows that cover a length: the quotient rounded up, refused when the unit leaves nothing of
a window or a 32-bit word does not hold the count. -/
def windowsOutright (length window : Duration) : Except SpanError UInt32 :=
  let (p, w) := length.ratio window
  if w ≤ 0 then .error .windowTooSmall
  else if 4294967295 < (p + w - 1) / w then .error (.tooManyWindows ((p + w - 1) / w))
  else .ok (UInt32.ofNat ((p + w - 1) / w).toNat)

theorem windowsIn_eq_outright {length : Duration} (window : Duration) (h : 0 ≤ length.nanos) :
    windowsIn length window = windowsOutright length window := by
  have hp := Duration.ratio_fst_nonneg (e := window) h
  unfold windowsIn windowsOutright
  generalize length.ratio window = r at hp ⊢
  obtain ⟨p, w⟩ := r
  dsimp only at hp ⊢
  by_cases hw : w ≤ 0
  · rw [if_pos hw, if_pos hw]
  · rw [if_neg hw, if_neg hw, tdiv_add_rest hp (by omega)]
    have hc : 0 ≤ (p + w - 1) / w := ceil_nonneg hp (by omega)
    by_cases hb : 4294967295 < (p + w - 1) / w
    · rw [if_pos hb, if_neg (by omega)]
    · rw [if_neg hb, if_pos (by omega)]

/-! ## Counting in a unit -/

/-- What is left of a length after so many windows, each cut to a whole number of units. -/
def leftAfter (length window : Duration) (unit count : Int) : Int :=
  length.nanos - count * (window.nanos / unit * unit)

theorem leftAfter_sub_one (length window : Duration) (unit count : Int) :
    leftAfter length window unit (count - 1) =
      leftAfter length window unit count + window.nanos / unit * unit := by
  unfold leftAfter
  rw [Int.sub_mul]
  omega

theorem mul_lt_ediv_iff (length window : Duration) {unit : Int} (hu : 0 < unit) (count : Int) :
    count * (window.nanos / unit) < length.nanos / unit ↔
      unit ≤ leftAfter length window unit count := by
  rw [← Int.add_one_le_iff, Int.le_ediv_iff_mul_le hu, Int.add_mul, Int.mul_assoc]
  unfold leftAfter
  omega

theorem ofNat_toNat_eq_iff {n : Int} {count : UInt32} (h : 0 ≤ n) (hb : n ≤ 4294967295) :
    UInt32.ofNat n.toNat = count ↔ n = count.toNat := by
  rw [← UInt32.toNat_inj, UInt32.toNat_ofNat_of_lt' (show n.toNat < 4294967296 by omega)]
  omega

theorem toNat_pos_iff {count : UInt32} : 1 ≤ count.toNat ↔ count ≠ 0 := by
  rw [Nat.one_le_iff_ne_zero, ne_eq, ne_eq, ← UInt32.toNat_inj, UInt32.toNat_zero]

theorem windowsOutright_eq_ok_iff {length window : Duration} {count : UInt32}
    (hl : 0 ≤ length.nanos) (hw : 0 ≤ window.nanos) :
    windowsOutright length window = .ok count ↔
      0 < window.nanos / length.ratioUnit window ∧
        (length.nanos / length.ratioUnit window + window.nanos / length.ratioUnit window - 1) /
          (window.nanos / length.ratioUnit window) = count.toNat := by
  have hp := Int.ediv_nonneg hl (Int.le_of_lt (length.ratioUnit_pos window))
  have hcount := count.toNat_lt
  unfold windowsOutright
  rw [Duration.ratio_eq hl hw]
  generalize length.nanos / length.ratioUnit window = p at hp ⊢
  generalize window.nanos / length.ratioUnit window = w
  dsimp only
  by_cases hn : w ≤ 0
  · rw [if_pos hn]
    exact ⟨nofun, fun h => absurd h.1 (by omega)⟩
  rw [if_neg hn]
  have hpos : 0 < w := Int.not_le.1 hn
  by_cases hb : 4294967295 < (p + w - 1) / w
  · rw [if_pos hb]
    refine ⟨nofun, fun h => ?_⟩
    omega
  · rw [if_neg hb, Except.ok.injEq, ofNat_toNat_eq_iff (ceil_nonneg hp hpos) (Int.not_lt.1 hb)]
    exact (and_iff_right hpos).symm

/-- In its unit a count is right when some unit is left before the last window and none after it. -/
theorem windowsOutright_eq_ok_iff_left {length window : Duration} {count : UInt32}
    (hl : 0 ≤ length.nanos) (hw : 0 ≤ window.nanos) :
    windowsOutright length window = .ok count ↔
      0 < window.nanos / length.ratioUnit window ∧
        length.ratioUnit window ≤
          leftAfter length window (length.ratioUnit window) ((count.toNat : Int) - 1) ∧
        leftAfter length window (length.ratioUnit window) count.toNat < length.ratioUnit window := by
  have hbefore := mul_lt_ediv_iff length window (length.ratioUnit_pos window) ((count.toNat : Int) - 1)
  have hafter := mul_lt_ediv_iff length window (length.ratioUnit_pos window) count.toNat
  rw [windowsOutright_eq_ok_iff hl hw]
  refine and_congr_right fun hpos => ?_
  rw [ceil_eq_iff hpos, hbefore, ← Int.not_le, ← hafter, Int.not_lt]

/-- No window is counted only where a window too long for a word in nanoseconds covers less than a
millisecond. -/
theorem windowsOutright_eq_zero_iff {length window : Duration} (hl : 0 < length.nanos)
    (hw : 0 < window.nanos) : windowsOutright length window = .ok 0 ↔
      Duration.wordBound ≤ window.nanos ∧ length.nanos < 1000000 := by
  rw [windowsOutright_eq_ok_iff_left (by omega) (by omega), leftAfter_sub_one]
  unfold leftAfter Duration.ratioUnit Duration.wordBound
  rw [UInt32.toNat_zero]
  split
  · omega
  · omega

/-! ## Whole windows -/

theorem leftAfter_product (window : Duration) (unit count : Int) :
    leftAfter ⟨window.nanos * count⟩ window unit count = window.nanos % unit * count := by
  have hwindow := Int.ediv_mul_add_emod window.nanos unit
  have hrest : window.nanos - window.nanos / unit * unit = window.nanos % unit := by omega
  unfold leftAfter
  rw [Int.mul_comm count, ← Int.sub_mul, hrest]

/-- What the windows have below a unit is cut off one by one but counts together, so that their number
comes back only if it stays below a unit. -/
theorem windows_of_product_iff {window : Duration} {count : UInt32} (hw : 0 ≤ window.nanos) :
    windowsOutright ⟨window.nanos * count.toNat⟩ window = .ok count ↔
      0 < window.nanos / Duration.ratioUnit ⟨window.nanos * count.toNat⟩ window ∧
        window.nanos % Duration.ratioUnit ⟨window.nanos * count.toNat⟩ window * count.toNat <
          Duration.ratioUnit ⟨window.nanos * count.toNat⟩ window := by
  have hproduct : 0 ≤ window.nanos * count.toNat := Int.mul_nonneg hw (by omega)
  have hu := Duration.ratioUnit_pos ⟨window.nanos * count.toNat⟩ window
  rw [windowsOutright_eq_ok_iff_left hproduct hw, leftAfter_sub_one, leftAfter_product]
  refine and_congr_right fun hpos => and_iff_right ?_
  have hrest := Int.mul_nonneg (Int.emod_nonneg window.nanos (Int.ne_of_gt hu))
    (Int.natCast_nonneg count.toNat)
  have hwhole := Int.mul_le_mul_of_nonneg_right (Int.add_one_le_iff.2 hpos) (Int.le_of_lt hu)
  omega

theorem le_mul_of_pos {w c : Int} (hw : 0 ≤ w) (hc : 0 < c) : w ≤ w * c := by
  have h : w * 1 ≤ w * c := Int.mul_le_mul_of_nonneg_left (show 1 ≤ c by omega) hw
  omega

/-- In nanoseconds the windows of a product are counted exactly. -/
theorem windows_of_product_nanos {window : Duration} {count : UInt32} (hw : 0 < window.nanos)
    (hc : 0 < count.toNat) (hb : window.nanos * count.toNat < Duration.wordBound) :
    windowsOutright ⟨window.nanos * count.toNat⟩ window = .ok count := by
  have hle : window.nanos ≤ window.nanos * count.toNat := le_mul_of_pos (by omega) (by omega)
  have hu : Duration.ratioUnit ⟨window.nanos * count.toNat⟩ window = 1 := by
    rw [Duration.ratioUnit, if_pos ⟨hb, by omega⟩]
  rw [windows_of_product_iff (by omega), hu, Int.ediv_one, Int.emod_one, Int.zero_mul]
  exact ⟨hw, by decide⟩

theorem windows_of_product_millis {window : Duration} {count : UInt32} (hw : 0 < window.nanos)
    (hb : Duration.wordBound ≤ window.nanos * count.toNat) :
    windowsOutright ⟨window.nanos * count.toNat⟩ window = .ok count ↔
      window.nanos % 1000000 * count.toNat < 1000000 := by
  have hcount := count.toNat_lt
  have hu : Duration.ratioUnit ⟨window.nanos * count.toNat⟩ window = 1000000 := by
    rw [Duration.ratioUnit, if_neg (by dsimp only; omega)]
  have hq : 0 < window.nanos / 1000000 := by
    have hlt : window.nanos * count.toNat ≤ window.nanos * 4294967296 :=
      Int.mul_le_mul_of_nonneg_left (by omega) (by omega)
    unfold Duration.wordBound at hb
    omega
  rw [windows_of_product_iff (by omega), hu]
  exact and_iff_right hq

end SpanSpec
end SeriesExport

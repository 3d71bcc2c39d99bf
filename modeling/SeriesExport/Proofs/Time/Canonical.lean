import Mathlib.Order.Bounds.Defs
import SeriesExport.Proofs.Time.Spelling

/-! The literal a duration is written as. It takes the largest unit that leaves no remainder, so its
number is the least one that any literal for the duration has. Main statement: `literal_canonical`,
with the durations that are read back from their literals. -/
namespace SeriesExport
set_option autoImplicit false

/-! ## Decimal numerals -/

namespace Text

/-- No zero stands before another digit. -/
def NoLeadingZero (digits : List Char) : Prop := digits.head? = some '0' → digits = ['0']

theorem digitsOf_of_lt {n : Nat} (h : n < 10) : digitsOf n = [n.digitChar] :=
  Nat.toDigits_of_lt_base h

theorem digitsOf_of_le {n : Nat} (h : 10 ≤ n) :
    digitsOf n = digitsOf (n / 10) ++ [(n % 10).digitChar] := by
  unfold digitsOf
  rw [Nat.toDigits_eq_if (by decide), if_neg (Nat.not_lt.2 h)]

theorem digitsOf_ne_nil (n : Nat) : digitsOf n ≠ [] := Nat.toDigits_ne_nil

theorem isDigit_of_mem_digitsOf {n : Nat} {c : Char} (h : c ∈ digitsOf n) : c.isDigit = true :=
  Nat.isDigit_of_mem_toDigits (by decide) (by decide) h

theorem eq_zero_of_head?_digitsOf {n : Nat} (h : (digitsOf n).head? = some '0') : n = 0 := by
  induction n using Nat.strongRecOn with
  | ind n ih =>
    rcases Nat.lt_or_ge n 10 with hlt | hge
    · have hzero : ∀ k < 10, Nat.digitChar k = '0' → k = 0 := by decide
      rw [digitsOf_of_lt hlt] at h
      exact hzero n hlt (Option.some_inj.1 h)
    · rw [digitsOf_of_le hge] at h
      obtain ⟨first, rest, hcons⟩ := List.exists_cons_of_ne_nil (digitsOf_ne_nil (n / 10))
      rw [hcons] at h
      have hhigh := ih (n / 10) (by omega) (by rw [hcons]; exact h)
      omega

theorem noLeadingZero_digitsOf (n : Nat) : NoLeadingZero (digitsOf n) := by
  intro h
  rw [eq_zero_of_head?_digitsOf h]
  rfl

end Text

namespace Duration
open Text

/-! ## The largest unit -/

/-- The first unit of a falling list that passes a test is the largest one that does. -/
theorem Unit.seconds_le_of_find? {us : List Unit} {test : Unit → Bool} {u v : Unit}
    (hus : us.Pairwise fun a b => b.seconds ≤ a.seconds) (hu : us.find? test = some u) (hv : v ∈ us)
    (htest : test v = true) : v.seconds ≤ u.seconds := by
  obtain ⟨_, before, after, rfl, hbefore⟩ := List.find?_eq_some_iff_append.1 hu
  rcases List.mem_append.1 hv with hv | hv
  · have hfails := hbefore v hv
    rw [htest] at hfails
    cases hfails
  · rcases List.mem_cons.1 hv with rfl | hv
    · exact Nat.le_refl _
    · exact List.rel_of_pairwise_cons (List.pairwise_append.1 hus).2.1 hv

theorem Unit.seconds_pos (u : Unit) : 0 < u.seconds := by
  cases u <;> decide

variable {s : Nat}

theorem largestUnit_dvd (s : Nat) : (largestUnit s).seconds ∣ s := by
  unfold largestUnit
  cases hu : List.find? (fun u : Unit => decide ((s : Int) ≠ 0 ∧ (s : Int) % u.seconds = 0))
      [.week, .day, .hour, .minute] with
  | none => exact Nat.one_dvd s
  | some u =>
    have htest := List.find?_some hu
    rw [decide_eq_true_eq] at htest
    exact Nat.dvd_of_mod_eq_zero (Int.ofNat_inj.1 htest.2)

theorem seconds_le_largestUnit (hs : s ≠ 0) {v : Unit} (hv : v.seconds ∣ s) :
    v.seconds ≤ (largestUnit s).seconds := by
  have htest : decide ((s : Int) ≠ 0 ∧ (s : Int) % v.seconds = 0) = true :=
    decide_eq_true ⟨Int.ofNat_ne_zero.2 hs, Int.ofNat_inj.2 (Nat.mod_eq_zero_of_dvd hv)⟩
  by_cases hsecond : v = .second
  · subst hsecond
    exact (largestUnit s).seconds_pos
  · have hmem : v ∈ [Unit.week, .day, .hour, .minute] := by
      cases v <;> first | exact absurd rfl hsecond | decide
    unfold largestUnit
    cases hu : List.find? (fun u : Unit => decide ((s : Int) ≠ 0 ∧ (s : Int) % u.seconds = 0))
        [.week, .day, .hour, .minute] with
    | none => exact absurd htest (List.find?_eq_none.1 hu v hmem)
    | some u => exact Unit.seconds_le_of_find? (by decide) hu hmem htest

/-! ## Writing and reading -/

/-- Whole seconds from zero on, not beyond a word of milliseconds. -/
structure IsNameable (d : Duration) : Prop where
  nonneg : 0 ≤ d.nanos
  whole : d.nanos % 1000000000 = 0
  inRange : d.nanos ≤ maxWord * 1000000

/-- The numbers that literals for a duration have, written without leading zeros. -/
def numbers (d : Duration) : Set Nat :=
  {n | ∃ text digits u, Spells text digits u ∧ NoLeadingZero digits ∧ valueOfDigits digits = n ∧
    ofLiteral text = .ok d}

theorem isNameable_iff {d : Duration} :
    d.IsNameable ↔ ∃ s : Nat, s ≤ maxWord / 1000 ∧ d = ofSeconds s := by
  constructor
  · rintro ⟨hnonneg, hwhole, hrange⟩
    refine ⟨(d.nanos / 1000000000).toNat, by omega, ?_⟩
    obtain ⟨n⟩ := d
    simp only [ofSeconds, nanosPerSecond, mk.injEq] at *
    omega
  · rintro ⟨s, hs, rfl⟩
    constructor <;> simp only [ofSeconds, nanosPerSecond] <;> omega

theorem Denotes.isNameable {text : String} {d : Duration} (h : Denotes text d) : d.IsNameable := by
  obtain ⟨digits, u, _, _, hlimit, hnanos⟩ := h
  exact isNameable_iff.2 ⟨_, hlimit, congrArg Duration.mk hnanos⟩

theorem wholeSeconds_ofSeconds (n : Int) : (ofSeconds n).wholeSeconds = n :=
  Int.mul_tdiv_cancel n (by decide)

theorem ofSeconds_inj {m n : Int} (h : ofSeconds m = ofSeconds n) : m = n := by
  rw [← wholeSeconds_ofSeconds m, h, wholeSeconds_ofSeconds]

theorem toList_literal (s : Nat) : (ofSeconds s).literal.toList =
    digitsOf (s / (largestUnit s).seconds) ++ [(largestUnit s).letter] := by
  unfold literal
  rw [wholeSeconds_ofSeconds]
  show (toString ((s / (largestUnit s).seconds : Nat) : Int) ++ _).toList = _
  rw [String.toList_append, Int.toString_eq_repr, Int.repr_eq_if, if_pos (Int.natCast_nonneg _), Int.toNat_natCast,
    Nat.toList_repr, Char.toString_eq_singleton, String.toList_singleton]
  rfl

theorem spells_literal (s : Nat) : Spells (ofSeconds s).literal
    (digitsOf (s / (largestUnit s).seconds)) (largestUnit s) where
  text_eq := ⟨[], [], by rw [toList_literal, List.append_nil, List.nil_append],
    fun _ hc => absurd hc List.not_mem_nil, fun _ hc => absurd hc List.not_mem_nil⟩
  digits_ne_nil := digitsOf_ne_nil _
  isDigit _ := isDigit_of_mem_digitsOf

theorem denotes_literal (hs : s ≤ maxWord / 1000) :
    Denotes (ofSeconds s).literal (ofSeconds s) := by
  have hdiv := Nat.div_mul_cancel (largestUnit_dvd s)
  have hle := Nat.div_le_self s (largestUnit s).seconds
  refine ⟨_, _, spells_literal s, ?_⟩
  rw [valueOfDigits_digitsOf, hdiv]
  exact ⟨by omega, hs, rfl⟩

theorem ofLiteral_literal_iff {d : Duration} : ofLiteral d.literal = .ok d ↔ d.IsNameable := by
  rw [ofLiteral_eq_ok_iff]
  constructor
  · exact Denotes.isNameable
  · intro h
    obtain ⟨s, hs, rfl⟩ := isNameable_iff.1 h
    exact denotes_literal hs

theorem isNameable_of_ofLiteral {text : String} {d : Duration} (h : ofLiteral text = .ok d) :
    d.IsNameable :=
  (ofLiteral_eq_ok_iff.1 h).isNameable

/-! ## The least number -/

theorem Unit.letter_inj {u v : Unit} (h : u.letter = v.letter) : u = v :=
  Option.some_inj.1 ((Unit.ofLetter?_eq_some.2 rfl).symm.trans (Unit.ofLetter?_eq_some.2 h))

/-- A text gives no other digits and no other unit. -/
theorem Spells.unique {text : String} {digits digits' : List Char} {u u' : Unit}
    (h : Spells text digits u) (h' : Spells text digits' u') : digits = digits' ∧ u = u' := by
  have htrim := (spells_iff.1 h).1.symm.trans (spells_iff.1 h').1
  obtain ⟨hdigits, hletter⟩ := List.append_inj' htrim rfl
  exact ⟨hdigits, Unit.letter_inj (List.head_eq_of_cons_eq hletter)⟩

theorem Spells.seconds_eq {text : String} {digits : List Char} {u : Unit} (h : Spells text digits u)
    (hs : ofLiteral text = .ok (ofSeconds s)) : valueOfDigits digits * u.seconds = s := by
  obtain ⟨digits', u', h', _, _, hnanos⟩ := ofLiteral_eq_ok_iff.1 hs
  obtain ⟨rfl, rfl⟩ := h.unique h'
  exact Int.ofNat_inj.1 (ofSeconds_inj (congrArg Duration.mk hnanos)).symm

/-- A smaller unit than the largest would need a greater number. -/
theorem isLeast_number (hs : s ≤ maxWord / 1000) :
    IsLeast (ofSeconds s).numbers (s / (largestUnit s).seconds) := by
  constructor
  · exact ⟨_, _, _, spells_literal s, noLeadingZero_digitsOf _, valueOfDigits_digitsOf _,
      ofLiteral_eq_ok_iff.2 (denotes_literal hs)⟩
  · rintro n ⟨text, digits, v, hspells, _, rfl, hread⟩
    have hvalue := hspells.seconds_eq hread
    by_cases hzero : s = 0
    · rw [hzero, Nat.zero_div]
      exact Nat.zero_le _
    · have hdvd : v.seconds ∣ s := hvalue ▸ Nat.dvd_mul_left _ _
      have hle := seconds_le_largestUnit hzero hdvd
      calc s / (largestUnit s).seconds ≤ s / v.seconds := Nat.div_le_div_left hle v.seconds_pos
        _ = valueOfDigits digits := Nat.div_eq_of_eq_mul_left v.seconds_pos hvalue.symm

/-- The durations that are read back from their literals are those in whole seconds, from zero up to
the limit of literals. Of the literals for such a one, its own has the least number. What is read from
a text is always such a duration, and two of them are written alike only if they are the same. -/
theorem literal_canonical (d : Duration) :
    (ofLiteral d.literal = .ok d ↔ d.IsNameable) ∧
      (d.IsNameable → ∃ digits u, d.literal.toList = digits ++ [Unit.letter u] ∧
        Spells d.literal digits u ∧ NoLeadingZero digits ∧
        IsLeast d.numbers (valueOfDigits digits)) ∧
      (ofSeconds 0).literal = "0s" ∧
      (∀ text, ofLiteral text = .ok d → ofLiteral d.literal = .ok d) ∧
      ∀ text other e, ofLiteral text = .ok d → ofLiteral other = .ok e →
        (d.literal = e.literal ↔ d = e) := by
  refine ⟨ofLiteral_literal_iff, ?_, rfl, ?_, ?_⟩
  · intro h
    obtain ⟨s, hs, rfl⟩ := isNameable_iff.1 h
    refine ⟨_, _, toList_literal s, spells_literal s, noLeadingZero_digitsOf _, ?_⟩
    rw [valueOfDigits_digitsOf]
    exact isLeast_number hs
  · intro text h
    exact ofLiteral_literal_iff.2 (isNameable_of_ofLiteral h)
  · intro text other e hd he
    refine ⟨fun hsame => ?_, congrArg literal⟩
    have hd' := ofLiteral_literal_iff.2 (isNameable_of_ofLiteral hd)
    have he' := ofLiteral_literal_iff.2 (isNameable_of_ofLiteral he)
    rw [hsame, he'] at hd'
    exact (Except.ok.inj hd').symm

/-- Two days, given in hours, are written in days, and an hour more is not. -/
theorem twoDays_canonical : (ofSeconds 172800).IsNameable ∧
    ofLiteral " 048h" = .ok (ofSeconds 172800) ∧ ofLiteral "49h" = .ok (ofSeconds 176400) ∧
    (ofSeconds 172800).literal = "2d" ∧ ofLiteral "2d" = .ok (ofSeconds 172800) ∧
    (ofSeconds 176400).literal ≠ "2d" ∧ IsLeast (ofSeconds 172800).numbers 2 := by
  have hdays : ofLiteral " 048h" = .ok (ofSeconds 172800) := by rfl
  have hmore : ofLiteral "49h" = .ok (ofSeconds 176400) := by rfl
  have hwritten : (ofSeconds 172800).literal = "2d" := by rfl
  obtain ⟨hread, hleast, _, hagain, halike⟩ := literal_canonical (ofSeconds 172800)
  have hback := hagain _ hdays
  obtain ⟨digits, u, htext, _, _, hnumber⟩ := hleast (hread.1 hback)
  rw [hwritten] at hback htext halike
  have hdigits : digits = ['2'] :=
    (List.append_inj' (htext.symm.trans (rfl : _ = ['2'] ++ ['d'])) rfl).1
  rw [hdigits] at hnumber
  have hother : (ofSeconds 176400).literal ≠ "2d" := fun h =>
    absurd ((halike _ _ _ hdays hmore).1 h.symm) (by decide)
  exact ⟨hread.1 (by rw [hwritten]; exact hback), hdays, hmore, hwritten, hback, hother, hnumber⟩

end Duration
end SeriesExport

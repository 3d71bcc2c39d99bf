import Mathlib.Data.List.TakeWhile
import SeriesExport.Span.Error

/-! Which texts denote a duration: digits and the letter of a unit between blanks, for a number that
fits a word and no more seconds than there are milliseconds for. Main statement:
`ofLiteral_eq_denoted`, that these are read to what they denote and all others are refused. -/
namespace SeriesExport
set_option autoImplicit false

/-! ## Trimming -/

namespace Text

theorem trimStart_append {before rest : List Char} (hbefore : ∀ c ∈ before, isBlank c = true)
    (hrest : ∀ c ∈ rest.head?, isBlank c = false) : trimStart (before ++ rest) = rest := by
  unfold trimStart
  rw [List.dropWhile_append_of_pos hbefore]
  cases rest with
  | nil => rfl
  | cons c rest => exact List.dropWhile_cons_of_neg (Bool.eq_false_iff.1 (hrest c rfl))

theorem trimEnd_append {rest after : List Char} (hrest : ∀ c ∈ rest.getLast?, isBlank c = false)
    (hafter : ∀ c ∈ after, isBlank c = true) : trimEnd (rest ++ after) = rest := by
  have hback : trimStart (after.reverse ++ rest.reverse) = rest.reverse :=
    trimStart_append (fun c hc => hafter c (List.mem_reverse.1 hc)) (by rwa [List.head?_reverse])
  rw [← List.reverse_append] at hback
  exact List.reverse_eq_iff.2 hback

theorem exists_trimStart (cs : List Char) :
    ∃ before, cs = before ++ trimStart cs ∧ ∀ c ∈ before, isBlank c = true :=
  ⟨cs.takeWhile isBlank, List.takeWhile_append_dropWhile.symm, fun _ => List.mem_takeWhile_imp⟩

theorem exists_trimEnd (cs : List Char) :
    ∃ after, cs = trimEnd cs ++ after ∧ ∀ c ∈ after, isBlank c = true := by
  obtain ⟨before, hbefore, hblank⟩ := exists_trimStart cs.reverse
  refine ⟨before.reverse, ?_, fun c hc => hblank c (List.mem_reverse.1 hc)⟩
  rw [List.reverse_eq_iff, List.reverse_append] at hbefore
  exact hbefore

end Text

namespace Duration
open Text

/-! ## Numbers in a word -/

theorem wordOf?_eq_some {n m : Nat} : wordOf? n = some m ↔ n = m ∧ (m : Int) < wordBound := by
  unfold wordOf?
  split
  · rename_i hfits
    rw [Option.some_inj]
    exact ⟨fun h => ⟨h, h ▸ hfits⟩, And.left⟩
  · rename_i hlarge
    constructor
    · rintro ⟨⟩
    · rintro ⟨rfl, hfits⟩
      exact absurd hfits hlarge

theorem readDigit?_eq_some {n m : Nat} {c : Char} : readDigit? n c = some m ↔
    c.isDigit = true ∧ 10 * n + (c.toNat - '0'.toNat) = m ∧ (m : Int) < wordBound := by
  unfold readDigit?
  split
  · rename_i hdigit
    rw [wordOf?_eq_some, and_iff_right hdigit]
  · rename_i hother
    constructor
    · rintro ⟨⟩
    · exact fun h => absurd h.1 hother

theorem le_ofDigitChars (ds : List Char) (n : Nat) : n ≤ Nat.ofDigitChars 10 ds n := by
  induction ds generalizing n with
  | nil => exact Nat.le_of_eq Nat.ofDigitChars_nil.symm
  | cons c ds ih =>
    have hrest := ih (10 * n + (c.toNat - '0'.toNat))
    rw [Nat.ofDigitChars_cons]
    omega

/-- Digits are read on from a number to the one they denote if that fits: what is read before never
passes it. -/
theorem readDigits_eq_some (ds : List Char) {n m : Nat} (hn : (n : Int) < wordBound) :
    ds.foldlM readDigit? n = some m ↔
      (∀ c ∈ ds, c.isDigit = true) ∧ Nat.ofDigitChars 10 ds n = m ∧ (m : Int) < wordBound := by
  induction ds generalizing n with
  | nil =>
    rw [List.foldlM_nil, Nat.ofDigitChars_nil]
    constructor
    · rintro ⟨⟩
      exact ⟨fun _ hc => absurd hc List.not_mem_nil, rfl, hn⟩
    · rintro ⟨_, rfl, _⟩
      rfl
  | cons c ds ih =>
    rw [List.foldlM_cons, List.forall_mem_cons, Nat.ofDigitChars_cons]
    constructor
    · intro h
      obtain ⟨k, hk, hrest⟩ := Option.bind_eq_some_iff.1 h
      obtain ⟨hdigit, rfl, hfits⟩ := readDigit?_eq_some.1 hk
      obtain ⟨hdigits, hvalue⟩ := (ih hfits).1 hrest
      exact ⟨⟨hdigit, hdigits⟩, hvalue⟩
    · rintro ⟨⟨hdigit, hdigits⟩, rfl, hfits⟩
      have hle := le_ofDigitChars ds (10 * n + (c.toNat - '0'.toNat))
      have hk : ((10 * n + (c.toNat - '0'.toNat) : Nat) : Int) < wordBound := by omega
      exact Option.bind_eq_some_iff.2
        ⟨_, readDigit?_eq_some.2 ⟨hdigit, rfl, hk⟩, (ih hk).2 ⟨hdigits, rfl, hfits⟩⟩

theorem ofUnits?_eq_some {n : Nat} {u : Unit} {d : Duration} : ofUnits? n u = some d ↔
    ((n * u.seconds : Nat) : Int) ≤ maxSeconds ∧ d = ofSeconds (n * u.seconds : Nat) := by
  unfold ofUnits?
  constructor
  · intro h
    obtain ⟨seconds, hseconds, hlimit⟩ := Option.bind_eq_some_iff.1 h
    obtain ⟨rfl, _⟩ := wordOf?_eq_some.1 hseconds
    split at hlimit
    · rename_i hle
      cases hlimit
      exact ⟨hle, rfl⟩
    · cases hlimit
  · rintro ⟨hle, rfl⟩
    refine Option.bind_eq_some_iff.2 ⟨n * u.seconds, wordOf?_eq_some.2 ⟨rfl, ?_⟩, if_pos hle⟩
    unfold maxSeconds at hle
    unfold wordBound
    omega

/-! ## Texts -/

/-- A text gives a number of units: its digits, the letter of the unit after them, and blanks around
both. -/
structure Spells (text : String) (digits : List Char) (u : Unit) : Prop where
  text_eq : ∃ before after, text.toList = before ++ ((digits ++ [u.letter]) ++ after) ∧
    (∀ c ∈ before, isBlank c = true) ∧ ∀ c ∈ after, isBlank c = true
  digits_ne_nil : digits ≠ []
  isDigit : ∀ c ∈ digits, c.isDigit = true

/-- The greatest signed 64-bit number. -/
def maxWord : Nat := 9223372036854775807

/-- A text denotes the duration it gives in units, if the number fits a signed 64-bit word and the
seconds are not beyond a word of milliseconds. -/
def Denotes (text : String) (d : Duration) : Prop :=
  ∃ digits u, Spells text digits u ∧ valueOfDigits digits ≤ maxWord ∧
    valueOfDigits digits * u.seconds ≤ maxWord / 1000 ∧
    d.nanos = (valueOfDigits digits * u.seconds : Nat) * 1000000000

theorem isBlank_of_isDigit {c : Char} (h : c.isDigit = true) : isBlank c = false := by
  simp only [Char.isDigit, Bool.and_eq_true, decide_eq_true_eq, UInt32.le_iff_toNat_le] at h
  change 48 ≤ c.toNat ∧ c.toNat ≤ 57 at h
  unfold isBlank
  simp only [Bool.or_eq_false_iff, Bool.and_eq_false_iff, decide_eq_false_iff_not]
  omega

theorem Unit.isBlank_letter (u : Unit) : isBlank u.letter = false := by
  cases u <;> decide

/-- What trimming leaves of a text is what it gives between the blanks. -/
theorem spells_iff {text : String} {digits : List Char} {u : Unit} : Spells text digits u ↔
    trim text.toList = digits ++ [u.letter] ∧ digits ≠ [] ∧ ∀ c ∈ digits, c.isDigit = true := by
  constructor
  · rintro ⟨⟨before, after, htext, hbefore, hafter⟩, hne, hdigits⟩
    refine ⟨?_, hne, hdigits⟩
    have hfirst : ∀ c ∈ ((digits ++ [u.letter]) ++ after).head?, isBlank c = false := by
      intro c hc
      obtain ⟨first, rest, rfl⟩ := List.exists_cons_of_ne_nil hne
      cases hc
      exact isBlank_of_isDigit (hdigits c List.mem_cons_self)
    have hlast : ∀ c ∈ (digits ++ [u.letter]).getLast?, isBlank c = false := by
      intro c hc
      rw [List.getLast?_concat] at hc
      cases hc
      exact u.isBlank_letter
    unfold trim
    rw [htext, trimStart_append hbefore hfirst, trimEnd_append hlast hafter]
  · rintro ⟨htrim, hne, hdigits⟩
    obtain ⟨before, hstart, hbefore⟩ := exists_trimStart text.toList
    obtain ⟨after, hend, hafter⟩ := exists_trimEnd (trimStart text.toList)
    refine ⟨⟨before, after, ?_, hbefore, hafter⟩, hne, hdigits⟩
    rw [← htrim]
    exact hstart.trans (congrArg (before ++ ·) hend)

theorem ofLiteralChars?_eq_some {cs : List Char} {d : Duration} :
    ofLiteralChars? cs = some d ↔ ∃ digits u n, cs = digits ++ [Unit.letter u] ∧ digits ≠ [] ∧
      digits.foldlM readDigit? 0 = some n ∧ ofUnits? n u = some d := by
  unfold ofLiteralChars?
  constructor
  · intro h
    obtain ⟨u, hu, hrest⟩ := Option.bind_eq_some_iff.1 h
    obtain ⟨c, hlast, hletter⟩ := Option.bind_eq_some_iff.1 hu
    obtain ⟨digits, rfl⟩ := List.getLast?_eq_some_iff.1 hlast
    rw [Unit.ofLetter?_eq_some] at hletter
    dsimp only at hrest
    rw [List.dropLast_concat] at hrest
    split at hrest
    · cases hrest
    · rename_i hne
      obtain ⟨n, hn, hunits⟩ := Option.bind_eq_some_iff.1 hrest
      exact ⟨digits, u, n, by rw [hletter], hne, hn, hunits⟩
  · rintro ⟨digits, u, n, rfl, hne, hn, hunits⟩
    have hu : (digits ++ [u.letter]).getLast?.bind Unit.ofLetter? = some u := by
      rw [List.getLast?_concat]
      exact Unit.ofLetter?_eq_some.2 rfl
    refine Option.bind_eq_some_iff.2 ⟨u, hu, ?_⟩
    dsimp only
    rw [List.dropLast_concat, if_neg hne]
    exact Option.bind_eq_some_iff.2 ⟨n, hn, hunits⟩

theorem ofLiteral?_eq_some {text : String} {d : Duration} :
    ofLiteral? text = some d ↔ Denotes text d := by
  unfold ofLiteral?
  rw [ofLiteralChars?_eq_some]
  constructor
  · rintro ⟨digits, u, n, htrim, hne, hn, hunits⟩
    obtain ⟨hdigits, rfl, hfits⟩ := (readDigits_eq_some digits (by decide)).1 hn
    obtain ⟨hle, rfl⟩ := ofUnits?_eq_some.1 hunits
    refine ⟨digits, u, spells_iff.2 ⟨htrim, hne, hdigits⟩, ?_, ?_, rfl⟩
    · unfold wordBound at hfits
      exact Nat.le_of_lt_succ (Int.ofNat_lt.1 hfits)
    · exact Int.ofNat_le.1 hle
  · rintro ⟨digits, u, hspells, hword, hlimit, hnanos⟩
    obtain ⟨htrim, hne, hdigits⟩ := spells_iff.1 hspells
    refine ⟨digits, u, valueOfDigits digits, htrim, hne, ?_, ?_⟩
    · refine (readDigits_eq_some digits (by decide)).2 ⟨hdigits, rfl, ?_⟩
      exact Int.ofNat_lt.2 (Nat.lt_succ_of_le hword)
    · exact ofUnits?_eq_some.2 ⟨Int.ofNat_le.2 hlimit, congrArg Duration.mk hnanos⟩

theorem ofLiteral_eq_ok_iff {text : String} {d : Duration} :
    ofLiteral text = .ok d ↔ Denotes text d := by
  rw [← ofLiteral?_eq_some]
  unfold ofLiteral
  cases ofLiteral? text with
  | none => exact ⟨nofun, nofun⟩
  | some read => rw [Except.ok.injEq, Option.some_inj]

/-- Digits of other scripts count for nothing, and a number of weeks can be too great where it would
do for seconds. -/
example : ofLiteral "٣m" = .error (.invalidDuration "٣m") ∧
    ofLiteral " 15250284453w" = .error (.invalidDuration " 15250284453w") ∧
    ofLiteral " 15250284453s" = .ok (ofSeconds 15250284453) := by
  refine ⟨?_, ?_, ?_⟩ <;> rfl

end Duration
end SeriesExport

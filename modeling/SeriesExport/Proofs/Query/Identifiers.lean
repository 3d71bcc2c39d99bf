import SeriesExport.Proofs.Query.Scoping

/-! Variables of windowed programs as identifiers of Flux. No character of an export's name gets into a
variable that an identifier must not have, but a digit in front stays where it is, and no name stays
no name. Main statement: `identifiers_iff`, that the variables of a program are identifiers exactly
when none of its exports has an empty name or one that begins with a digit. -/
namespace SeriesExport
open Flux
set_option autoImplicit false

namespace Flux

/-! ## Identifiers -/

/-- What an identifier may begin with: an ASCII letter or the underscore. -/
def IsInitial (c : Char) : Prop := c.isAlpha = true ∨ c = '_'

/-- What an identifier may go on with: ASCII digits besides. -/
def IsPart (c : Char) : Prop := IsInitial c ∨ c.isDigit = true

instance : DecidablePred IsInitial := fun _ => inferInstanceAs (Decidable (_ ∨ _))

instance : DecidablePred IsPart := fun _ => inferInstanceAs (Decidable (_ ∨ _))

/-- Every character of the text is one that an identifier may go on with. -/
def OnlyParts (s : String) : Prop := ∀ c ∈ s.toList, IsPart c

instance : DecidablePred OnlyParts := fun s => List.decidableBAll IsPart s.toList

def IsIdentifier (s : String) : Prop :=
  ∃ first rest, s.toList = first :: rest ∧ IsInitial first ∧ ∀ c ∈ rest, IsPart c

def BeginsWithDigit (s : String) : Prop := s.toList.head?.any Char.isDigit = true

instance : DecidablePred BeginsWithDigit := fun _ => inferInstanceAs (Decidable (_ = true))

theorem not_isDigit_of_isInitial {c : Char} (h : IsInitial c) : ¬ c.isDigit = true := by
  rcases h with h | rfl
  · unfold Char.isAlpha Char.isUpper Char.isLower at h
    unfold Char.isDigit
    simp only [Bool.or_eq_true, Bool.and_eq_true, decide_eq_true_eq, UInt32.le_iff_toNat_le] at h ⊢
    have : 'A'.val.toNat = 65 := rfl
    have : 'a'.val.toNat = 97 := rfl
    have : '9'.val.toNat = 57 := rfl
    omega
  · decide

theorem isInitial_iff {c : Char} (h : IsPart c) : IsInitial c ↔ ¬ c.isDigit = true :=
  ⟨not_isDigit_of_isInitial, h.resolve_right⟩

/-- A text of such characters is an identifier unless it is empty or begins with a digit. -/
theorem isIdentifier_iff {s : String} (h : OnlyParts s) :
    IsIdentifier s ↔ s ≠ "" ∧ ¬ BeginsWithDigit s := by
  unfold OnlyParts at h
  unfold IsIdentifier BeginsWithDigit
  rw [Ne, ← String.toList_eq_nil_iff]
  cases htext : s.toList with
  | nil => simp
  | cons first rest =>
    rw [htext] at h
    have hfirst := isInitial_iff (h first List.mem_cons_self)
    have hrest : ∀ c ∈ rest, IsPart c := fun c hc => h c (List.mem_cons_of_mem first hc)
    constructor
    · rintro ⟨_, _, heq, hinitial, _⟩
      cases heq
      exact ⟨List.cons_ne_nil first rest, hfirst.1 hinitial⟩
    · rintro ⟨_, hdigit⟩
      exact ⟨first, rest, rfl, hfirst.2 hdigit, hrest⟩

/-! ## Names and their endings -/

section
variable {name ending : String}

/-- The character that stands for one of a name. -/
def folded (c : Char) : Char := if c.isAlphanum || c == '_' then c else '_'

theorem toList_identifier (name : String) : (identifier name).toList = name.toList.map folded :=
  String.toList_ofList

theorem isPart_folded (c : Char) : IsPart (folded c) := by
  unfold folded
  split
  · rename_i hkept
    simp only [Char.isAlphanum, Bool.or_eq_true, beq_iff_eq] at hkept
    rcases hkept with (halpha | hdigit) | hscore
    · exact Or.inl (Or.inl halpha)
    · exact Or.inr hdigit
    · exact Or.inl (Or.inr hscore)
  · decide

theorem isDigit_folded (c : Char) : (folded c).isDigit = c.isDigit := by
  unfold folded
  split
  · rfl
  · rename_i hchanged
    simp only [Char.isAlphanum, Bool.or_eq_true, not_or, Bool.not_eq_true] at hchanged
    rw [hchanged.1.2]
    rfl

theorem onlyParts_extended (hending : OnlyParts ending) :
    OnlyParts (identifier name ++ ending) := by
  intro c hc
  rw [String.toList_append, toList_identifier, List.mem_append] at hc
  rcases hc with hc | hc
  · obtain ⟨d, _, rfl⟩ := List.mem_map.1 hc
    exact isPart_folded d
  · exact hending c hc

theorem beginsWithDigit_extended_iff (hending : ¬ BeginsWithDigit ending) :
    BeginsWithDigit (identifier name ++ ending) ↔ BeginsWithDigit name := by
  unfold BeginsWithDigit at hending ⊢
  rw [String.toList_append, toList_identifier]
  cases name.toList with
  | nil => exact iff_of_false hending Bool.false_ne_true
  | cons first rest =>
    show (folded first).isDigit = true ↔ first.isDigit = true
    rw [isDigit_folded]

/-- An identifier with an ending: only a digit in front of it all, or nothing at all, is wrong. -/
theorem isIdentifier_extended_iff (hparts : OnlyParts ending)
    (hending : ¬ BeginsWithDigit ending) :
    IsIdentifier (identifier name ++ ending) ↔ (name ≠ "" ∨ ending ≠ "") ∧ ¬ BeginsWithDigit name := by
  have hempty : identifier name ++ ending = "" ↔ name = "" ∧ ending = "" := by
    rw [← String.toList_eq_nil_iff, String.toList_append, toList_identifier,
      List.append_eq_nil_iff, List.map_eq_nil_iff, String.toList_eq_nil_iff, String.toList_eq_nil_iff]
  rw [isIdentifier_iff (onlyParts_extended hparts), beginsWithDigit_extended_iff hending, Ne,
    hempty, not_and_or]

end

end Flux

/-! ## The variables of channels -/

/-- What follows the identifier of an export in the variables of its channel. -/
def variableEndings : List String := ["_openValue", "_rangeValues", ""]

theorem onlyParts_of_mem_variableEndings {ending : String} (h : ending ∈ variableEndings) :
    OnlyParts ending := by
  revert ending
  decide

theorem not_beginsWithDigit_of_mem_variableEndings {ending : String} (h : ending ∈ variableEndings) :
    ¬ BeginsWithDigit ending := by
  revert ending
  decide

namespace Channel

variable {c : Channel}

theorem mem_bindings_iff (h : c.table = identifier c.item.exportName) {name : String} :
    name ∈ c.bindings ↔
      ∃ ending ∈ variableEndings, name = identifier c.item.exportName ++ ending := by
  simp [bindings, openVariable, rangeVariable, variableEndings, h]

theorem onlyParts_of_mem_bindings (h : c.table = identifier c.item.exportName) {name : String}
    (hname : name ∈ c.bindings) : OnlyParts name := by
  obtain ⟨ending, hending, rfl⟩ := (mem_bindings_iff h).1 hname
  exact onlyParts_extended (onlyParts_of_mem_variableEndings hending)

theorem bindings_identifiers_iff (h : c.table = identifier c.item.exportName) :
    (∀ name ∈ c.bindings, IsIdentifier name) ↔
      c.item.exportName ≠ "" ∧ ¬ BeginsWithDigit c.item.exportName := by
  constructor
  · intro hall
    have hbare := hall _ ((mem_bindings_iff h).2 ⟨"", by decide, rfl⟩)
    rw [isIdentifier_extended_iff (by decide) (by decide)] at hbare
    exact ⟨hbare.1.resolve_right (not_not.2 rfl), hbare.2⟩
  · rintro ⟨hname, hdigit⟩ name hmem
    obtain ⟨ending, hending, rfl⟩ := (mem_bindings_iff h).1 hmem
    exact (isIdentifier_extended_iff (onlyParts_of_mem_variableEndings hending)
      (not_beginsWithDigit_of_mem_variableEndings hending)).2 ⟨Or.inl hname, hdigit⟩

end Channel

namespace WindowedQuery

/-- Of the channels of any run of additions, each has its three variables in the program. They have
characters of an identifier only, and are identifiers exactly when the export has a name and that does
not begin with a digit. -/
theorem identifiers_iff {buckets : Buckets} {offered : List (RecordShape × Item)} {q : WindowedQuery}
    (h : ofChannels (ChannelList.offerAll { buckets } offered) = .ok q) :
    q.program.assigned = q.channels.flatMap Channel.bindings ∧ ∀ c ∈ q.channels,
      c.bindings = [identifier c.item.exportName ++ "_openValue",
        identifier c.item.exportName ++ "_rangeValues", identifier c.item.exportName] ∧
      (∀ name ∈ c.bindings, OnlyParts name) ∧
      ((∀ name ∈ c.bindings, IsIdentifier name) ↔
        c.item.exportName ≠ "" ∧ ¬ BeginsWithDigit c.item.exportName) := by
  refine ⟨assigned_program q, fun c hc => ?_⟩
  have htable := (apart_channels h).table_eq c hc
  refine ⟨?_, fun name => Channel.onlyParts_of_mem_bindings htable,
    Channel.bindings_identifiers_iff htable⟩
  rw [Channel.bindings, Channel.openVariable, Channel.rangeVariable, htable]

/-- Letters of other alphabets, and what else an identifier must not have, become underscores. -/
theorem phases_identifiers : ofPlant ["phase 2", "été"] = .ok (plantQuery ["phase 2", "été"]) ∧
    (plantQuery ["phase 2", "été"]).program.assigned = ["phase_2_openValue", "phase_2_rangeValues",
      "phase_2", "_t__openValue", "_t__rangeValues", "_t_"] ∧
    ∀ c ∈ (plantQuery ["phase 2", "été"]).channels, ∀ name ∈ c.bindings, IsIdentifier name := by
  have h : ofPlant ["phase 2", "été"] = .ok (plantQuery ["phase 2", "été"]) := rfl
  have hnames : ∀ c ∈ (plantQuery ["phase 2", "été"]).channels,
      c.item.exportName ≠ "" ∧ ¬ BeginsWithDigit c.item.exportName := by decide
  exact ⟨h, by decide, fun c hc => ((identifiers_iff h).2 c hc).2.2.2 (hnames c hc)⟩

/-- An export may begin with a digit, or have an empty name; then so does its variable. -/
theorem digit_no_identifier :
    (ofPlant ["2nd.line"] = .ok (plantQuery ["2nd.line"]) ∧
      "2nd_line" ∈ (plantQuery ["2nd.line"]).program.assigned ∧ ¬ IsIdentifier "2nd_line") ∧
    ofPlant [""] = .ok (plantQuery [""]) ∧
      "" ∈ (plantQuery [""]).program.assigned ∧ ¬ IsIdentifier "" := by
  refine ⟨⟨rfl, by decide, ?_⟩, rfl, by decide, ?_⟩
  · rw [isIdentifier_iff (by decide)]
    decide
  · rw [isIdentifier_iff (by decide)]
    decide

end WindowedQuery
end SeriesExport

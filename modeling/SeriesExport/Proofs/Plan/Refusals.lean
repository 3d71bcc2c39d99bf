import SeriesExport.Proofs.Traversal
import SeriesExport.Proofs.Plan.Runs

/-! Which of the items that are offered join a plan. An item is judged by the span and the names that
are there before anything is written, so a refused one leaves no trace. Main statement:
`offers_first_come`. -/
namespace SeriesExport
set_option autoImplicit false

namespace Plan

/-! ## Additions in place -/

/-- Refuses an item that has another span or a name in use. -/
def judge (i : Item) : EStateM QueryError Plan Unit := do
  let p ← get
  if let some span := p.span then
    unless span.Alike i.span do throw (.spanMismatch span i.span)
  if p.exportNames.contains i.exportName then throw (.duplicateExportName i.exportName)

/-- Writes the fields of a plan one after another. -/
def write (i : Item) : EStateM QueryError Plan Unit := do
  match (← get).span with
  | none => modify fun p => { p with span := some i.span, commonTags := i.tags }
  | some _ => modify fun p =>
    { p with commonTags := p.commonTags.filter fun key value => i.tags.get? key == some value }
  modify fun p => { p with exportNames := p.exportNames ++ [i.exportName] }
  modify fun p => { p with groups := file p.groups i }

def enter (i : Item) : EStateM QueryError Plan Unit := do
  judge i
  write i

theorem write_eq (i : Item) (p : Plan) : write i p = .ok () (p.joined i) := by
  obtain ⟨groups, span, commonTags, exportNames⟩ := p
  cases span with
  | none => rfl
  | some span => rfl

section
variable {p : Plan} {i : Item}

theorem get_bind {α : Type} (f : Plan → EStateM QueryError Plan α) (p : Plan) :
    (get >>= f) p = f p p := rfl

theorem judge_of_mismatch {span : Span} (hspan : p.span = some span) (h : ¬ span.Alike i.span) :
    judge i p = .error (.spanMismatch span i.span) p := by
  unfold judge
  rw [get_bind]
  simp only [bind, EStateM.bind, hspan, if_neg h]
  rfl

theorem judge_of_taken (hspan : ∀ span, p.span = some span → span.Alike i.span)
    (h : i.exportName ∈ p.exportNames) :
    judge i p = .error (.duplicateExportName i.exportName) p := by
  unfold judge
  rw [get_bind]
  simp only [bind, List.contains_iff_mem.2 h, if_true]
  cases hs : p.span with
  | none => rfl
  | some span =>
    simp only [if_pos (hspan span hs)]
    rfl

theorem judge_of_free (hspan : ∀ span, p.span = some span → span.Alike i.span)
    (h : i.exportName ∉ p.exportNames) : judge i p = .ok () p := by
  have hfree : ¬ p.exportNames.contains i.exportName = true := fun hc => h (List.contains_iff_mem.1 hc)
  unfold judge
  rw [get_bind]
  simp only [bind, if_neg hfree]
  cases hs : p.span with
  | none => rfl
  | some span =>
    simp only [if_pos (hspan span hs)]
    rfl

theorem add_of_mismatch {span : Span} (hspan : p.span = some span) (h : ¬ span.Alike i.span) :
    p.add i = .error (.spanMismatch span i.span) := by
  unfold add
  rw [hspan]
  simp only [bind, Except.bind, if_neg h]
  rfl

theorem add_of_taken (hspan : ∀ span, p.span = some span → span.Alike i.span)
    (h : i.exportName ∈ p.exportNames) : p.add i = .error (.duplicateExportName i.exportName) := by
  unfold add
  simp only [bind, Except.bind, List.contains_iff_mem.2 h, if_true]
  cases hs : p.span with
  | none => rfl
  | some span =>
    simp only [if_pos (hspan span hs)]
    rfl

theorem span_cases (p : Plan) (i : Item) : (∃ span, p.span = some span ∧ ¬ span.Alike i.span) ∨
    ∀ span, p.span = some span → span.Alike i.span := by
  cases p.span with
  | none => exact Or.inr fun _ hs => nomatch hs
  | some span =>
    by_cases h : span.Alike i.span
    · exact Or.inr fun _ hs => Option.some.inj hs ▸ h
    · exact Or.inl ⟨span, rfl, h⟩

/-- In place or not, the outcome is the same, and an error finds the plan as it was. -/
theorem enter_eq (i : Item) (p : Plan) : enter i p =
    match p.add i with
    | .ok q => .ok () q
    | .error e => .error e p := by
  unfold enter
  simp only [bind, EStateM.bind]
  obtain ⟨span, hs, hmismatch⟩ | hspan := span_cases p i
  · rw [judge_of_mismatch hs hmismatch, add_of_mismatch hs hmismatch]
  · by_cases h : i.exportName ∈ p.exportNames
    · rw [judge_of_taken hspan h, add_of_taken hspan h]
    · rw [judge_of_free hspan h, add_eq_ok_iff.2 ⟨hspan, h, rfl⟩]
      exact write_eq i p

end

theorem attemptAll_enter (offered : List Item) (p : Plan) :
    attemptAll enter offered p = p.offerAll offered := by
  refine attemptAll_eq_foldl (fun i q => ?_) offered p
  rw [enter_eq, offer]
  cases q.add i with
  | ok joined => exact Or.inl rfl
  | error e => exact Or.inr ⟨e, rfl⟩

/-! ## One offer -/

/-- Some item of some domain is exported under a name. -/
def HasName (p : Plan) (name : String) : Prop :=
  ∃ domain, ∃ i ∈ p.itemsOf domain, i.exportName = name

/-- How an addition ends: refused for its span, else refused for its name, else joined. A refusal
leaves the plan as it is. -/
inductive Ends (p : Plan) (i : Item) : EStateM.Result QueryError Plan Unit → Prop
  | mismatch (span : Span) (hspan : p.span = some span) (h : ¬ span.Alike i.span) :
      Ends p i (.error (.spanMismatch span i.span) p)
  | taken (hspan : ∀ span, p.span = some span → span.Alike i.span) (h : p.HasName i.exportName) :
      Ends p i (.error (.duplicateExportName i.exportName) p)
  | joined (hspan : ∀ span, p.span = some span → span.Alike i.span)
      (h : ¬ p.HasName i.exportName) : Ends p i (.ok () (p.joined i))

section
variable {p : Plan} {items : List Item}

theorem Holds.hasName_iff (h : p.Holds items) (name : String) :
    p.HasName name ↔ name ∈ p.exportNames := by
  rw [h.names_eq, List.mem_map]
  unfold HasName
  simp only [h.itemsOf_eq, mem_inOrder]
  constructor
  · rintro ⟨_, i, ⟨hi, _⟩, hname⟩
    exact ⟨i, hi, hname⟩
  · rintro ⟨i, hi, hname⟩
    exact ⟨i.domain, i, ⟨hi, rfl⟩, hname⟩

theorem Holds.enter_eq_iff (h : p.Holds items) (i : Item)
    (r : EStateM.Result QueryError Plan Unit) : enter i p = r ↔ p.Ends i r := by
  rw [enter_eq]
  constructor
  · rintro rfl
    obtain ⟨span, hs, hmismatch⟩ | hspan := span_cases p i
    · rw [add_of_mismatch hs hmismatch]
      exact .mismatch span hs hmismatch
    · by_cases hn : i.exportName ∈ p.exportNames
      · rw [add_of_taken hspan hn]
        exact .taken hspan ((h.hasName_iff _).2 hn)
      · rw [add_eq_ok_iff.2 ⟨hspan, hn, rfl⟩]
        exact .joined hspan fun hname => hn ((h.hasName_iff _).1 hname)
  · rintro (⟨span, hs, hmismatch⟩ | ⟨hspan, hname⟩ | ⟨hspan, hname⟩)
    · rw [add_of_mismatch hs hmismatch]
    · rw [add_of_taken hspan ((h.hasName_iff _).1 hname)]
    · rw [add_eq_ok_iff.2 ⟨hspan, fun hn => hname ((h.hasName_iff _).2 hn), rfl⟩]

end

/-! ## Runs of offers -/

/-- A further item joins when it has the span of the first and a name that none before it has. -/
def joinNext (first : Item) (joined : List Item) (i : Item) : List Item :=
  if first.span.Alike i.span ∧ ∀ j ∈ joined, j.exportName ≠ i.exportName then joined ++ [i]
  else joined

def firstCome : List Item → List Item
  | [] => []
  | first :: rest => rest.foldl (joinNext first) [first]

theorem addAll_accepted (p : Plan) (offered : List Item) :
    p.addAll (p.accepted offered) = .ok (p.offerAll offered) := by
  induction offered generalizing p with
  | nil => rfl
  | cons i rest ih =>
    unfold accepted offerAll
    rw [List.foldl_cons]
    cases hq : p.add i with
    | ok q =>
      rw [offer, hq, addAll, List.foldlM_cons, hq]
      exact ih q
    | error e =>
      rw [offer, hq]
      exact ih p

theorem append_accepted_eq {p : Plan} {first : Item} {joined : List Item} (h : p.Holds joined)
    (hspan : p.span = some first.span) (offered : List Item) :
    joined ++ p.accepted offered = offered.foldl (joinNext first) joined := by
  induction offered generalizing p joined with
  | nil => exact List.append_nil joined
  | cons i rest ih =>
    have hnames : i.exportName ∈ p.exportNames ↔ ¬ ∀ j ∈ joined, j.exportName ≠ i.exportName := by
      rw [h.names_eq, List.mem_map]
      simp
    rw [List.foldl_cons, accepted, joinNext]
    by_cases hjoins : first.span.Alike i.span ∧ ∀ j ∈ joined, j.exportName ≠ i.exportName
    · have hadd : p.add i = .ok (p.joined i) := by
        refine add_eq_ok_iff.2 ⟨?_, fun hn => hnames.1 hn hjoins.2, rfl⟩
        intro span hs
        rw [hspan] at hs
        cases hs
        exact hjoins.1
      have hrest := ih (h.add hadd) (by rw [Plan.joined, hspan, Option.getD_some])
      rw [if_pos hjoins, hadd, ← hrest, List.append_assoc]
      rfl
    · rw [if_neg hjoins]
      cases hadd : p.add i with
      | error e => exact ih h hspan
      | ok q =>
        obtain ⟨halike, hn, _⟩ := add_eq_ok_iff.1 hadd
        refine absurd ⟨halike _ hspan, ?_⟩ hjoins
        exact Classical.not_not.1 fun hne => hn (hnames.2 hne)

theorem accepted_eq_firstCome (offered : List Item) :
    empty.accepted offered = firstCome offered := by
  cases offered with
  | nil => rfl
  | cons first rest =>
    have hadd : empty.add first = .ok (empty.joined first) :=
      add_eq_ok_iff.2 ⟨(fun _ hs => nomatch hs), List.not_mem_nil, rfl⟩
    rw [accepted, hadd]
    exact append_accepted_eq (holds_empty.add hadd) rfl rest

/-- After any run of offers a further one ends by the span and the names that are there, and the plan
is that of the items that came first, offered alone: all of them join. -/
theorem offers_first_come (offered : List Item) :
    attemptAll enter offered empty = empty.offerAll offered ∧
      (∀ i r, enter i (empty.offerAll offered) = r ↔ (empty.offerAll offered).Ends i r) ∧
      empty.accepted offered = firstCome offered ∧
      empty.addAll (firstCome offered) = .ok (empty.offerAll offered) := by
  refine ⟨attemptAll_enter offered empty, (holds_offerAll offered).enter_eq_iff,
    accepted_eq_firstCome offered, ?_⟩
  rw [← accepted_eq_firstCome]
  exact addAll_accepted empty offered

end Plan
end SeriesExport

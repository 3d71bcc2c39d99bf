import SeriesExport.Proofs.Csv.Splitting
import SeriesExport.Proofs.Table.Changes

/-! The parts of a split table are the runs of rows with the same cell in the column that tells tables
apart. Main statement: `split_unseen`, that nothing but the runs is new: no row is lost or moved, and
no frame and no projection shows that tables were split. -/
namespace SeriesExport.Csv
set_option autoImplicit false

/-! ## Entries that stay together -/

section
variable {α : Type} {lists : List (List α)} {R : α → α → Bool} {i j : Nat}

/-- One of the lists holds the entries with both numbers; entries are numbered through all lists. -/
def Together (lists : List (List α)) (i j : Nat) : Prop :=
  ∃ before list after, lists = before ++ list :: after ∧
    before.flatten.length ≤ i ∧ i ≤ j ∧ j < before.flatten.length + list.length

theorem not_together_nil : ¬ Together ([] : List (List α)) i j := by
  rintro ⟨before, list, after, h, _⟩
  exact List.append_ne_nil_of_right_ne_nil before (List.cons_ne_nil list after) h.symm

theorem together_cons {list : List α} : Together (list :: lists) i j ↔
    i ≤ j ∧ (j < list.length ∨
      list.length ≤ i ∧ Together lists (i - list.length) (j - list.length)) := by
  constructor
  · rintro ⟨before, held, after, h, hi, hij, hj⟩
    refine ⟨hij, ?_⟩
    cases before with
    | nil =>
      obtain ⟨rfl, rfl⟩ := List.cons.inj h
      exact Or.inl (by simpa using hj)
    | cons first before =>
      obtain ⟨rfl, rfl⟩ := List.cons.inj h
      rw [List.flatten_cons, List.length_append] at hi hj
      exact Or.inr ⟨by omega, before, held, after, rfl, by omega, by omega, by omega⟩
  · rintro ⟨hij, hj | ⟨hi, before, held, after, rfl, hbefore, _, hj⟩⟩
    · exact ⟨[], list, lists, rfl, Nat.zero_le i, hij, by simpa using hj⟩
    · refine ⟨list :: before, held, after, rfl, ?_⟩
      rw [List.flatten_cons, List.length_append]
      omega

/-- The entry with a number and the next one are related. -/
def RelatedAt (R : α → α → Bool) (entries : List α) (i : Nat) : Prop :=
  ∃ a b, entries[i]? = some a ∧ entries[i + 1]? = some b ∧ R a b = true

/-- Lists that are cut wherever neighbours are not related, and nowhere else. -/
theorem together_iff_relatedAt (hfull : [] ∉ lists)
    (hwithin : ∀ list ∈ lists, list.IsChain fun a b => R a b = true)
    (hbetween : lists.IsChain fun a b => ∃ ha hb, R (a.getLast ha) (b.head hb) = false) :
    Together lists i (i + 1) ↔ RelatedAt R lists.flatten i := by
  induction lists generalizing i with
  | nil =>
    refine iff_of_false not_together_nil ?_
    rintro ⟨a, b, ha, _⟩
    cases ha
  | cons list lists ih =>
    obtain ⟨hlink, hrest⟩ := List.isChain_cons.1 hbetween
    have hlist : list ≠ [] := fun h => hfull (h ▸ List.mem_cons_self)
    have hpos := List.length_pos_iff.2 hlist
    rw [together_cons, List.flatten_cons]
    rcases Nat.lt_trichotomy (i + 1) list.length with hin | hlast | hpast
    · -- both are in the first list, which is a chain
      have hrelated := List.isChain_iff_getElem.1 (hwithin list List.mem_cons_self) i hin
      refine iff_of_true ⟨Nat.le_succ i, Or.inl hin⟩ ⟨list[i], list[i + 1], ?_, ?_, hrelated⟩
      · rw [List.getElem?_append_left (by omega), List.getElem?_eq_getElem]
      · rw [List.getElem?_append_left hin, List.getElem?_eq_getElem]
    · -- the first list ends between them, where it is linked to the next
      refine iff_of_false (by omega) ?_
      rintro ⟨a, b, ha, hb, hrelated⟩
      rw [List.getElem?_append_left (by omega)] at ha
      rw [List.getElem?_append_right (by omega), hlast, Nat.sub_self] at hb
      cases lists with
      | nil => cases hb
      | cons next lists =>
        obtain ⟨_, hnext, hcut⟩ := hlink next rfl
        have hlasta : a ∈ list.getLast? := by
          rw [List.getLast?_eq_getElem?, ← hlast]
          exact ha
        have hheadb : b ∈ next.head? := by
          rw [← List.head?_append_of_ne_nil next hnext, List.head?_eq_getElem?]
          exact hb
        rw [List.getLast_of_mem_getLast? hlasta, List.head_of_mem_head? hheadb, hrelated] at hcut
        cases hcut
    · -- neither is in the first list
      have hi : i + 1 - list.length = i - list.length + 1 := by omega
      have hih := ih (i := i - list.length) (fun h => hfull (List.mem_cons_of_mem list h))
        (fun other hother => hwithin other (List.mem_cons_of_mem list hother)) hrest
      unfold RelatedAt at hih ⊢
      rw [List.getElem?_append_right (by omega), List.getElem?_append_right (by omega), hi, ← hih]
      have hle : list.length ≤ i := by omega
      simp [hle, Nat.not_lt.2 (Nat.le_of_lt hpast)]

theorem together_splitBy_iff (entries : List α) :
    Together (entries.splitBy R) i (i + 1) ↔ RelatedAt R entries i := by
  have h := together_iff_relatedAt (i := i) (List.nil_notMem_splitBy R entries)
    (fun _ => List.isChain_of_mem_splitBy) (List.isChain_getLast_head_splitBy R entries)
  rw [List.flatten_splitBy] at h
  exact h

end

/-! ## Split tables -/

/-- Every row has a cell in the column of a name. -/
def Reaches (t : Table) (name : String) : Prop :=
  ∀ row ∈ t.rows, ∃ place, t.place? name = some place ∧ place < row.length

/-- How a table is split. Its parts are the runs of rows that have the same cell under `table`; they
are the table itself where there is nothing to compare. -/
structure SplitInto (t : Table) (parts : List Table) : Prop extends t.CutInto parts where
  whole : t.place? tableColumn = none ∨ t.rows = [] → parts = [t]
  filled : t.rows ≠ [] → ∀ part ∈ parts, part.rows ≠ []
  together_iff : Reaches t tableColumn → ∀ i,
    Together (parts.map Table.rows) i (i + 1) ↔ SameAt (t.cells tableColumn) i (i + 1)

theorem joins_eq {place : Nat} {row next : Row} (hrow : place < row.length)
    (hnext : place < next.length) :
    joins place row next = (row.cellAt (some place) == next.cellAt (some place)) := by
  have hcells : joins place row next = (next[place] == row[place]) := by
    simp [joins, hrow, hnext, bne]
  have hcellAt {source : Row} (h : place < source.length) :
      source.cellAt (some place) = source[place] := by
    simp [Row.cellAt, h]
  rw [hcells, hcellAt hrow, hcellAt hnext, BEq.comm]

theorem relatedAt_joins_iff {t : Table} {place i : Nat} (hplace : t.place? tableColumn = some place)
    (hreaches : Reaches t tableColumn) :
    RelatedAt (joins place) t.rows i ↔ SameAt (t.cells tableColumn) i (i + 1) := by
  have hlong : ∀ row ∈ t.rows, place < row.length := by
    intro row hrow
    obtain ⟨other, hother, hlt⟩ := hreaches row hrow
    cases hplace.symm.trans hother
    exact hlt
  have hjoins {row next : Row} (hrow : t.rows[i]? = some row) (hnext : t.rows[i + 1]? = some next) :
      joins place row next = (row.cellAt (some place) == next.cellAt (some place)) :=
    joins_eq (hlong row (List.mem_of_getElem? hrow)) (hlong next (List.mem_of_getElem? hnext))
  unfold RelatedAt SameAt Table.cells
  rw [hplace]
  simp only [List.getElem?_map, Option.map_eq_some_iff]
  constructor
  · rintro ⟨row, next, hrow, hnext, hrelated⟩
    exact ⟨_, _, ⟨row, hrow, rfl⟩, ⟨next, hnext, rfl⟩, (hjoins hrow hnext).symm.trans hrelated⟩
  · rintro ⟨_, _, ⟨row, hrow, rfl⟩, ⟨next, hnext, rfl⟩, hsame⟩
    exact ⟨row, next, hrow, hnext, (hjoins hrow hnext).trans hsame⟩

theorem splitInto_splitTable (t : Table) : SplitInto t (splitTable t) where
  toCutInto := cutInto_splitTable t
  whole := splitTable_of_whole
  filled := by
    intro hrows part hpart
    cases hplace : t.place? tableColumn with
    | none =>
      rw [splitTable_of_whole (Or.inl hplace), List.mem_singleton] at hpart
      rw [hpart]
      exact hrows
    | some place =>
      rw [splitTable_of_rows hplace hrows] at hpart
      obtain ⟨rows, hmem, rfl⟩ := List.mem_map.1 hpart
      exact List.ne_nil_of_mem_splitBy hmem
  together_iff := by
    intro hreaches i
    by_cases hrows : t.rows = []
    · rw [splitTable_of_whole (Or.inr hrows)]
      refine iff_of_false ?_ ?_
      · rw [List.map_singleton, hrows, together_cons]
        rintro ⟨_, hlt | ⟨_, hrest⟩⟩
        · exact Nat.not_lt_zero _ hlt
        · exact not_together_nil hrest
      · rintro ⟨a, b, ha, _⟩
        simp [Table.cells, hrows] at ha
    · obtain ⟨row, hrow⟩ := List.exists_mem_of_ne_nil t.rows hrows
      obtain ⟨place, hplace, _⟩ := hreaches row hrow
      have hparts : (splitTable t).map Table.rows = t.rows.splitBy (joins place) := by
        rw [splitTable_of_rows hplace hrows, List.map_map]
        exact List.map_id _
      rw [hparts, together_splitBy_iff, relatedAt_joins_iff hplace hreaches]

/-- Splitting loses and moves no row, cuts tables where the `table` column changes and only there, and
is seen neither in the frame that the tables merge into nor in any projection of them. -/
theorem split_unseen (ts : List Table) :
    (ts.flatMap splitTable).flatMap Table.rows = ts.flatMap Table.rows ∧
      (∀ t ∈ ts, SplitInto t (splitTable t)) ∧
      Table.merge (ts.flatMap splitTable) = Table.merge ts ∧
      ∀ names, (Answer.records (ts.flatMap splitTable)).project names =
        (Answer.records ts).project names := by
  refine ⟨?_, fun t _ => splitInto_splitTable t, Table.merge_cut cutInto_splitTable ts,
    Answer.project_cut cutInto_splitTable ts⟩
  rw [List.flatMap_assoc]
  exact List.flatMap_congr fun t _ => (cutInto_splitTable t).rows_eq

/-- Three readings of two meters; the second has no value. -/
def meterReadings : Table :=
  ⟨["result", "table", "_value"], [[.text "_result", .integer 0, .integer 5],
    [.text "_result", .integer 0], [.text "_result", .integer 1, .integer 7]]⟩

theorem readings_split :
    (Reaches meterReadings tableColumn ∧ meterReadings.rows ≠ []) ∧
      Together ((splitTable meterReadings).map Table.rows) 0 1 ∧
      ¬ Together ((splitTable meterReadings).map Table.rows) 1 2 ∧
      ∀ part ∈ splitTable meterReadings, part.rows ≠ [] := by
  have hreaches : Reaches meterReadings tableColumn := by
    have hlong : ∀ row ∈ meterReadings.rows, 1 < row.length := by simp [meterReadings]
    exact fun row hrow => ⟨1, rfl, hlong row hrow⟩
  have hrows : meterReadings.rows ≠ [] := List.cons_ne_nil _ _
  have hsplit := (split_unseen [meterReadings]).2.1 meterReadings List.mem_cons_self
  refine ⟨⟨hreaches, hrows⟩, (hsplit.together_iff hreaches 0).2 ⟨_, _, rfl, rfl, rfl⟩, fun h => ?_,
    hsplit.filled hrows⟩
  obtain ⟨a, b, ha, hb, hsame⟩ := (hsplit.together_iff hreaches 1).1 h
  cases ha
  cases hb
  cases hsame

end SeriesExport.Csv

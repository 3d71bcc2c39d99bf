import Mathlib.Data.List.Basic
import Mathlib.Data.List.Find
import SeriesExport.Table.Basic

/-! Named columns of tables and of answers. A merged table has the columns of its parts, less those a
store adds, and under each of them the cells that stand in the parts. Main statement:
`project_records_eq_frame`, that records and the frame they merge into show the same rows. -/
namespace SeriesExport
set_option autoImplicit false

namespace Table

theorem place?_isSome_iff {t : Table} {name : String} : (t.place? name).isSome ↔ name ∈ t.columns := by
  rw [place?, List.findIdx?_isSome, List.any_eq_true]
  constructor
  · rintro ⟨column, hcolumn, h⟩
    rw [← beq_iff_eq.1 h]
    exact hcolumn
  · exact fun h => ⟨name, h, beq_self_eq_true name⟩

theorem place?_eq_none_iff {t : Table} {name : String} : t.place? name = none ↔ name ∉ t.columns := by
  rw [← place?_isSome_iff, ← Option.not_isSome_iff_eq_none]

theorem isAnnotationColumn_eq_false_iff {name : String} :
    isAnnotationColumn name = false ↔ name ≠ "result" ∧ name ≠ "table" := by
  rw [isAnnotationColumn, Bool.or_eq_false_iff, beq_eq_false_iff_ne, beq_eq_false_iff_ne]

theorem mem_unite {names rest : List String} {name : String} :
    name ∈ unite names rest ↔ name ∈ names ∨ name ∈ rest ∧ isAnnotationColumn name = false := by
  induction rest generalizing names with
  | nil => simp [unite]
  | cons first rest ih =>
    rw [unite]
    by_cases hskip : (isAnnotationColumn first || names.contains first) = true
    · rw [if_pos hskip, ih, List.mem_cons]
      rw [Bool.or_eq_true, List.contains_iff_mem] at hskip
      constructor
      · rintro (h | ⟨h, hname⟩)
        · exact Or.inl h
        · exact Or.inr ⟨Or.inr h, hname⟩
      · rintro (h | ⟨rfl | h, hname⟩)
        · exact Or.inl h
        · rw [hname] at hskip
          exact Or.inl (hskip.resolve_left Bool.false_ne_true)
        · exact Or.inr ⟨h, hname⟩
    · rw [if_neg hskip, ih, List.mem_append, List.mem_singleton, List.mem_cons]
      rw [Bool.or_eq_true, not_or, Bool.not_eq_true] at hskip
      constructor
      · rintro ((h | rfl) | ⟨h, hname⟩)
        · exact Or.inl h
        · exact Or.inr ⟨Or.inl rfl, hskip.1⟩
        · exact Or.inr ⟨Or.inr h, hname⟩
      · rintro (h | ⟨rfl | h, hname⟩)
        · exact Or.inl (Or.inl h)
        · exact Or.inl (Or.inr rfl)
        · exact Or.inr ⟨h, hname⟩

theorem mem_unitedColumns {ts : List Table} {name : String} :
    name ∈ unitedColumns ts ↔ (∃ t ∈ ts, name ∈ t.columns) ∧ isAnnotationColumn name = false := by
  have hfold : ∀ names : List String,
      name ∈ ts.foldl (fun names t => unite names t.columns) names ↔
        name ∈ names ∨ (∃ t ∈ ts, name ∈ t.columns) ∧ isAnnotationColumn name = false := by
    induction ts with
    | nil => simp
    | cons t ts ih =>
      intro names
      rw [List.foldl_cons, ih, mem_unite]
      simp [or_and_right, or_assoc, exists_or]
  rw [unitedColumns, hfold]
  simp

/-! ## Cells under columns -/

/-- A row with one cell for each name has it where the name stands first. -/
theorem cellAt_map (names : List String) (f : String → Cell) (name : String) :
    Row.cellAt (names.map f) (names.findIdx? (· == name)) = if name ∈ names then f name else .missing := by
  induction names with
  | nil => rfl
  | cons first names ih =>
    rw [List.findIdx?_cons]
    by_cases hfirst : first = name
    · subst hfirst
      rw [if_pos (beq_self_eq_true first), if_pos List.mem_cons_self]
      rfl
    · rw [if_neg (by simp [hfirst])]
      have hrest : Row.cellAt ((first :: names).map f) ((names.findIdx? (· == name)).map (· + 1)) =
          Row.cellAt (names.map f) (names.findIdx? (· == name)) := by
        cases names.findIdx? (· == name) <;> rfl
      have hmem : name ∈ first :: names ↔ name ∈ names := by
        simp [List.mem_cons, Ne.symm hfirst]
      rw [hrest, ih]
      simp only [hmem]

theorem project_eq (t : Table) (names : List String) :
    t.project names = t.rows.map fun row => names.map fun name => row.cellAt (t.place? name) := by
  unfold project
  simp only [List.map_map]
  rfl

/-- Cells are looked up in a merged table as in its parts. -/
theorem project_merge (ts : List Table) {names : List String}
    (hnames : ∀ name ∈ names, isAnnotationColumn name = false) :
    (merge ts).project names = ts.flatMap fun t => t.project names := by
  rw [project_eq]
  show (ts.flatMap fun t => t.project (unitedColumns ts)).map _ = _
  rw [List.map_flatMap]
  refine List.flatMap_congr ?_
  intro t ht
  rw [project_eq, project_eq, List.map_map]
  refine List.map_congr_left ?_
  intro row _
  refine List.map_congr_left ?_
  intro name hname
  refine Eq.trans (cellAt_map _ _ name) ?_
  split
  · rfl
  · rename_i habsent
    have hcolumns : name ∉ t.columns := fun h =>
      habsent (mem_unitedColumns.2 ⟨⟨t, ht, h⟩, hnames name hname⟩)
    rw [place?_eq_none_iff.2 hcolumns]
    rfl

/-- The cells under a name, row by row. -/
def cells (t : Table) (name : String) : List Cell := t.rows.map fun row => row.cellAt (t.place? name)

theorem project_singleton (t : Table) (name : String) :
    t.project [name] = (t.cells name).map fun c => [c] := by
  rw [project_eq, cells, List.map_map]
  rfl

theorem cells_merge (ts : List Table) {name : String} (hname : isAnnotationColumn name = false) :
    (merge ts).cells name = ts.flatMap fun t => t.cells name := by
  have hrows := project_merge ts (List.forall_mem_singleton.2 hname)
  simp only [project_singleton] at hrows
  rw [← List.map_flatMap] at hrows
  exact List.map_injective_iff.2 (fun _ _ h => (List.cons.inj h).1) hrows

theorem isEmpty_project (t : Table) (names : List String) : (t.project names).isEmpty = t.isEmpty := by
  rw [project_eq, List.isEmpty_map]
  rfl

theorem isEmpty_merge (ts : List Table) : (merge ts).isEmpty = ts.all isEmpty := by
  show (ts.flatMap fun t => t.project (unitedColumns ts)).isEmpty = _
  rw [Bool.eq_iff_iff, List.isEmpty_iff, List.flatMap_eq_nil_iff, List.all_eq_true]
  refine forall₂_congr fun t _ => ?_
  rw [← List.isEmpty_iff, isEmpty_project]

end Table

namespace Answer
open Table

/-- Names that all have a column are projected, whether there are rows or not. -/
theorem project_of_present {a : Answer} {names : List String} (h : absent? a.tables names = none) :
    a.project names = .ok (a.tables.flatMap fun t => t.project names) := by
  unfold project
  by_cases hrows : (a.tables.any fun t => !t.isEmpty) = true
  · rw [if_pos hrows, h]
  · have hempty : (a.tables.flatMap fun t => t.project names) = [] := by
      rw [List.flatMap_eq_nil_iff]
      intro t ht
      have hnone : t.rows = [] := by
        by_contra hne
        refine hrows (List.any_eq_true.2 ⟨t, ht, ?_⟩)
        simp [Table.isEmpty, hne]
      rw [Table.project_eq, hnone]
      rfl
    rw [if_neg hrows, hempty]

theorem absent?_eq_none_iff {ts : List Table} {names : List String} :
    absent? ts names = none ↔ ∀ name ∈ names, ∃ t ∈ ts, name ∈ t.columns := by
  unfold absent?
  rw [List.find?_eq_none]
  refine forall₂_congr fun name _ => ?_
  rw [List.all_eq_true]
  simp only [Option.isNone_iff_eq_none, place?_eq_none_iff]
  push Not
  rfl

/-- What is projected is all rows. If there are any, every name has a column. -/
theorem project_eq_ok {a : Answer} {names : List String} {rows : List Row}
    (h : a.project names = .ok rows) :
    rows = (a.tables.flatMap fun t => t.project names) ∧
      (rows ≠ [] → absent? a.tables names = none) := by
  cases habsent : absent? a.tables names with
  | none =>
    rw [project_of_present habsent] at h
    exact ⟨(Except.ok.inj h).symm, fun _ => rfl⟩
  | some name =>
    unfold project at h
    rw [habsent] at h
    by_cases hrows : (a.tables.any fun t => !t.isEmpty) = true
    · rw [if_pos hrows] at h
      cases h
    · rw [if_neg hrows] at h
      cases h
      refine ⟨?_, fun hne => absurd rfl hne⟩
      rw [eq_comm, List.flatMap_eq_nil_iff]
      intro t ht
      rw [← List.isEmpty_iff, isEmpty_project]
      rw [Bool.not_eq_true, List.any_eq_false] at hrows
      simpa using hrows t ht

theorem absent?_merge (ts : List Table) {names : List String}
    (hnames : ∀ name ∈ names, isAnnotationColumn name = false) :
    absent? [Table.merge ts] names = absent? ts names := by
  unfold absent?
  refine List.find?_congr ?_
  intro name hname
  rw [Bool.eq_iff_iff, List.all_eq_true, List.all_eq_true]
  simp only [List.mem_singleton, forall_eq, Option.isNone_iff_eq_none, Table.place?_eq_none_iff]
  show name ∉ Table.unitedColumns ts ↔ _
  rw [Table.mem_unitedColumns]
  constructor
  · intro h t ht hcolumn
    exact h ⟨⟨t, ht, hcolumn⟩, hnames name hname⟩
  · rintro h ⟨⟨t, ht, hcolumn⟩, _⟩
    exact h t ht hcolumn

/-- There is a row in a merged table if there is one in a part. -/
theorem any_rows_merge (ts : List Table) :
    ([Table.merge ts].any fun t => !t.isEmpty) = ts.any fun t => !t.isEmpty := by
  rw [List.any_cons, List.any_nil, Bool.or_false, isEmpty_merge, List.not_all_eq_any_not]

/-- Records and the frame they merge into are two views of the same data: names that no store adds
have the same cells in both, and the same name has no column in both. -/
theorem project_records_eq_frame (ts : List Table) {names : List String}
    (hnames : ∀ name ∈ names, name ≠ "result" ∧ name ≠ "table") :
    (records ts).project names = (ofTables ts true).project names := by
  have hplain : ∀ name ∈ names, isAnnotationColumn name = false := by
    intro name hname
    obtain ⟨hresult, htable⟩ := hnames name hname
    rw [isAnnotationColumn, beq_false_of_ne hresult, beq_false_of_ne htable]
    rfl
  have hrows : ([Table.merge ts].flatMap fun t => t.project names) =
      ts.flatMap fun t => t.project names := by
    rw [List.flatMap_singleton, project_merge ts hplain]
  show project (.records ts) names = project (.frame (Table.merge ts)) names
  unfold project tables
  dsimp only
  rw [any_rows_merge, absent?_merge ts hplain, hrows]

/-- Rows shorter and longer than their headers, a name that stands twice in one, and a table without
rows. -/
def raggedTables : List Table :=
  [⟨["result", "table", "_time", "x", "x"],
      [[.text "_result", .integer 0, .integer 1], [.text "_result", .integer 0, .integer 2, .integer 5]]⟩,
    ⟨["y", "_time"], [[.integer 7, .integer 3, .integer 9]]⟩, ⟨["z"], []⟩]

theorem ragged_views :
    (∀ name ∈ ["_time", "x", "y", "x"], name ≠ "result" ∧ name ≠ "table") ∧
      (records raggedTables).project ["_time", "x", "y", "x"] =
        (ofTables raggedTables true).project ["_time", "x", "y", "x"] ∧
      (ofTables raggedTables true).project ["_time", "x", "y", "x"] = .ok
        [[.integer 1, .missing, .missing, .missing], [.integer 2, .integer 5, .missing, .integer 5],
          [.integer 3, .missing, .integer 7, .missing]] :=
  ⟨by decide, project_records_eq_frame raggedTables (by decide), rfl⟩

end Answer
end SeriesExport

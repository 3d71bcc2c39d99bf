import SeriesExport.Proofs.Table.Kept
import SeriesExport.Proofs.Table.Projection
import SeriesExport.Proofs.Traversal
import SeriesExport.Proofs.Query.Repacking

/-! Filters of points against the plain series. A filter numbers the rows of the merged frame; the
plain series projects record by record. Main statement: `filters_thin_series`, that a filter keeps
rows of the plain series, in order, the first and the last among them. -/
namespace SeriesExport
set_option autoImplicit false

/-! ## Columns and rows of one table -/

namespace Table

variable {t : Table} {name : String}

theorem column_eq (h : name ∈ t.columns) : t.column name = .ok (t.cells name) := by
  obtain ⟨place, hplace⟩ := Option.isSome_iff_exists.1 (place?_isSome_iff.2 h)
  unfold column cells
  rw [hplace]

/-- Rows selected by number are those of the projection. -/
theorem selectRows_eq {names : List String} (h : ∀ name ∈ names, name ∈ t.columns)
    (numbers : List Nat) : t.selectRows names numbers = .ok (pick (t.project names) numbers) := by
  unfold selectRows
  rw [mapM_eq_map (g := t.place?)]
  · unfold project
    rw [pick_map]
    rfl
  · intro name hname
    obtain ⟨place, hplace⟩ := Option.isSome_iff_exists.1 (place?_isSome_iff.2 (h name hname))
    rw [hplace]

end Table

namespace SeriesQuery
open Table

/-- The query for the same series that keeps other points. -/
def keeping (q : SeriesQuery) (keep : PointFilter) : SeriesQuery := { q with keep }

theorem compile_eq_keeping (buckets : Buckets) (shape : RecordShape) (keep : PointFilter) (i : Item) :
    compile buckets shape keep i = (compile buckets shape .all i).map (·.keeping keep) := by
  unfold compile
  cases shape with
  | fields names => rfl
  | loneValue => cases buckets.find i.domain <;> rfl

variable {q : SeriesQuery} {ts : List Table} {rows : List Row} {tabular : Bool}

/-! ## Repacking through the frame -/

theorem toFrame_ofTables (ts : List Table) (tabular : Bool) :
    (Answer.ofTables ts tabular).toFrame = merge ts := by
  cases tabular <;> rfl

theorem isAnnotationColumn_of_sourceColumns (h : isAnnotationColumn q.item.measurement = false) :
    ∀ name ∈ q.sourceColumns, isAnnotationColumn name = false := by
  intro name hname
  rcases List.mem_pair.1 hname with rfl | rfl
  · rfl
  · exact h

/-- Rows of the plain series are those of the frame, and it has their columns if there are any. -/
theorem rows_of_plain (hplain : isAnnotationColumn q.item.measurement = false)
    (h : (q.keeping .all).repack (.ofTables ts tabular) = .ok rows) :
    (merge ts).project q.sourceColumns = rows ∧
      (rows ≠ [] → ∀ name ∈ q.sourceColumns, name ∈ (merge ts).columns) := by
  have hnames := isAnnotationColumn_of_sourceColumns hplain
  obtain ⟨hrows, hpresent⟩ := Answer.project_eq_ok (orMissing_eq_ok_iff.1 h)
  have hframe : (merge ts).project q.sourceColumns =
      (Answer.ofTables ts tabular).tables.flatMap fun t => t.project q.sourceColumns := by
    cases tabular with
    | false => exact project_merge ts hnames
    | true => exact (List.flatMap_singleton _ _).symm
  have habsent : Answer.absent? [merge ts] q.sourceColumns =
      Answer.absent? (Answer.ofTables ts tabular).tables q.sourceColumns := by
    cases tabular with
    | false => exact Answer.absent?_merge ts hnames
    | true => rfl
  refine ⟨hframe.trans hrows.symm, ?_⟩
  intro hne name hname
  obtain ⟨t, ht, hcolumn⟩ := Answer.absent?_eq_none_iff.1 (habsent.trans (hpresent hne)) name hname
  rw [List.mem_singleton.1 ht] at hcolumn
  exact hcolumn

theorem repack_eq (hframe : q.wantsFrame = true) (a : Answer) :
    q.repack a = if a.toFrame.isEmpty then .ok []
      else orMissing (do a.toFrame.selectRows q.sourceColumns (← q.keptRows a.toFrame)) := by
  unfold wantsFrame at hframe
  unfold repack
  cases hkeep : q.keep with
  | all =>
    rw [hkeep] at hframe
    cases hframe
  | changes => rfl
  | discontinuities band => rfl

theorem keptRows_changes {frame : Table} (h : q.item.measurement ∈ frame.columns) :
    (q.keeping .changes).keptRows frame = .ok (changedIndices (frame.cells q.item.measurement)) := by
  show (do return changedIndices (← frame.column q.item.measurement)) = _
  rw [column_eq h]
  rfl

theorem keptRows_discontinuities (band : Band) {frame : Table} (h : stepColumn ∈ frame.columns) :
    (q.keeping (.discontinuities band)).keptRows frame =
      .ok (discontinuityIndices band ((frame.cells stepColumn).map Cell.number?)) := by
  show (do
    let cells ← frame.column stepColumn
    return discontinuityIndices band (cells.map Cell.number?)) = _
  rw [column_eq h]
  rfl

/-- A filter that numbers rows of the frame keeps the rows of the plain series with these numbers. -/
theorem repack_of_keptRows (hplain : isAnnotationColumn q.item.measurement = false)
    (h : (q.keeping .all).repack (.ofTables ts tabular) = .ok rows) {keep : PointFilter}
    (hkeep : (q.keeping keep).wantsFrame = true) {numbers : List Nat}
    (hnumbers : rows ≠ [] → (q.keeping keep).keptRows (merge ts) = .ok numbers) :
    (q.keeping keep).repack (.ofTables ts tabular) = .ok (pick rows numbers) := by
  obtain ⟨hframe, hcolumns⟩ := rows_of_plain hplain h
  have hempty : (merge ts).isEmpty = rows.isEmpty := by
    rw [← hframe, isEmpty_project]
  rw [repack_eq hkeep, toFrame_ofTables, hempty]
  by_cases hrows : rows = []
  · rw [hrows, pick_nil]
    rfl
  · rw [if_neg (mt List.isEmpty_iff.1 hrows), hnumbers hrows, orMissing_eq_ok_iff, ← hframe]
    exact selectRows_eq (hcolumns hrows) numbers

/-- The numbers are those of the rows themselves, since their second cells are what is compared. -/
theorem values_of_plain (hplain : isAnnotationColumn q.item.measurement = false)
    (h : (q.keeping .all).repack (.ofTables ts tabular) = .ok rows) :
    (merge ts).cells q.item.measurement = rows.map fun row => row.cellAt (some 1) := by
  rw [← (rows_of_plain hplain h).1, project_eq, List.map_map]
  rfl

theorem length_steps (hplain : isAnnotationColumn q.item.measurement = false)
    (h : (q.keeping .all).repack (.ofTables ts tabular) = .ok rows) :
    (ts.flatMap fun t => t.cells stepColumn).length = rows.length := by
  rw [← cells_merge ts rfl, ← (rows_of_plain hplain h).1, project_eq, cells, List.length_map,
    List.length_map]

theorem changes_thin (hplain : isAnnotationColumn q.item.measurement = false)
    (h : (q.keeping .all).repack (.ofTables ts tabular) = .ok rows) :
    ∃ kept, (q.keeping .changes).repack (.ofTables ts tabular) = .ok kept ∧
      kept = pick rows (changedIndices (rows.map fun row => row.cellAt (some 1))) ∧
      Thins kept rows := by
  refine ⟨_, repack_of_keptRows hplain h rfl ?_, rfl, ?_⟩
  · intro hne
    have hcolumn : q.item.measurement ∈ (merge ts).columns :=
      (rows_of_plain hplain h).2 hne _ (List.mem_cons_of_mem _ List.mem_cons_self)
    rw [keptRows_changes hcolumn, values_of_plain hplain h]
  · unfold changedIndices
    rw [List.length_map]
    exact thins_kept rows _

theorem discontinuities_thin (hplain : isAnnotationColumn q.item.measurement = false)
    (h : (q.keeping .all).repack (.ofTables ts tabular) = .ok rows)
    (hsteps : rows = [] ∨ ∃ t ∈ ts, stepColumn ∈ t.columns) (band : Band) :
    ∃ kept, (q.keeping (.discontinuities band)).repack (.ofTables ts tabular) = .ok kept ∧
      kept = pick rows (discontinuityIndices band
        ((ts.flatMap fun t => t.cells stepColumn).map Cell.number?)) ∧
      Thins kept rows := by
  refine ⟨_, repack_of_keptRows hplain h rfl ?_, rfl, ?_⟩
  · intro hne
    have hcolumn : stepColumn ∈ (merge ts).columns :=
      mem_unitedColumns.2 ⟨hsteps.resolve_left hne, rfl⟩
    rw [keptRows_discontinuities band hcolumn, cells_merge ts rfl]
  · unfold discontinuityIndices
    rw [List.length_map, length_steps hplain h]
    exact thins_kept rows _

/-- What the filters keep of a plain series: rows at which the value changes, and, if the steps are
there, rows next to a step out of band. -/
theorem filters_thin_series (q : SeriesQuery) (ts : List Table) (tabular : Bool) {rows : List Row}
    (hresult : q.item.measurement ≠ "result") (htable : q.item.measurement ≠ "table")
    (h : (q.keeping .all).repack (.ofTables ts tabular) = .ok rows) :
    (∃ kept, (q.keeping .changes).repack (.ofTables ts tabular) = .ok kept ∧
      kept = pick rows (changedIndices (rows.map fun row => row.cellAt (some 1))) ∧
      Thins kept rows) ∧
    ((rows = [] ∨ ∃ t ∈ ts, stepColumn ∈ t.columns) → ∀ band, ∃ kept,
      (q.keeping (.discontinuities band)).repack (.ofTables ts tabular) = .ok kept ∧
      kept = pick rows (discontinuityIndices band
        ((ts.flatMap fun t => t.cells stepColumn).map Cell.number?)) ∧
      Thins kept rows) := by
  have hplain := isAnnotationColumn_eq_false_iff.2 ⟨hresult, htable⟩
  exact ⟨changes_thin hplain h, fun hsteps band => discontinuities_thin hplain h hsteps band⟩

/-- Steps in one table, values in the other, and rows that end early in both. -/
def steppedTables : List Table :=
  [⟨["result", "_time", "power"],
      [[.text "_result", .integer 1, .integer 7], [.text "_result", .integer 2, .integer 7],
        [.text "_result", .integer 3]]⟩,
    ⟨["_time", "difference"], [[.integer 4, .integer 200], [.integer 5]]⟩]

def steppedRows : List Row :=
  [[.integer 1, .integer 7], [.integer 2, .integer 7], [.integer 3, .missing], [.integer 4, .missing],
    [.integer 5, .missing]]

theorem stepped_thinned : ∃ q, ofPlantSeries "power" = .ok q ∧
    (q.item.measurement ≠ "result" ∧ q.item.measurement ≠ "table") ∧
    (q.keeping .all).repack (.ofTables steppedTables false) = .ok steppedRows ∧
    (q.keeping .changes).repack (.ofTables steppedTables false) =
      .ok [[.integer 1, .integer 7], [.integer 3, .missing], [.integer 5, .missing]] ∧
    ∃ kept, (q.keeping (.discontinuities .standard)).repack (.ofTables steppedTables false) = .ok kept ∧
      Thins kept steppedRows := by
  let q : SeriesQuery := ⟨plantSeries "power", .ofItem "b" (plantSeries "power"), .all, true⟩
  have hrows : (q.keeping .all).repack (.ofTables steppedTables false) = .ok steppedRows := rfl
  obtain ⟨⟨changed, hchanged, rfl, _⟩, hdiscontinuities⟩ :=
    filters_thin_series q steppedTables false (by decide) (by decide) hrows
  obtain ⟨kept, hkept, _, hthins⟩ :=
    hdiscontinuities (Or.inr ⟨_, List.mem_cons_of_mem _ List.mem_cons_self, by decide⟩) .standard
  exact ⟨q, rfl, ⟨by decide, by decide⟩, hrows, hchanged, kept, hkept, hthins⟩

/-! ## Compiled filters -/

/-- An item whose plain series is compiled has a query for every filter, and it repacks an answer to a
thinned plain series. Only the filter of steps needs a column that not every answer has. -/
theorem compiled_filters_thin {buckets : Buckets} {shape : RecordShape} {i : Item}
    (hq : compile buckets shape .all i = .ok q) (hplain : isAnnotationColumn i.measurement = false)
    (h : q.repack (.ofTables ts tabular) = .ok rows) (keep : PointFilter)
    (hsteps : ∀ band, keep = .discontinuities band → rows = [] ∨ ∃ t ∈ ts, stepColumn ∈ t.columns) :
    ∃ filter kept, compile buckets shape keep i = .ok filter ∧
      filter.repack (.ofTables ts tabular) = .ok kept ∧ Thins kept rows := by
  obtain ⟨bucket, _, hplainQuery⟩ := of_compile hq
  have hitem : q.item = i := by rw [hplainQuery]
  have hall : q.keeping .all = q := by rw [hplainQuery]; rfl
  have hfilter : compile buckets shape keep i = .ok (q.keeping keep) := by
    rw [compile_eq_keeping, hq]
    rfl
  rw [← hitem] at hplain
  rw [← hall] at h
  cases keep with
  | all => exact ⟨_, rows, hfilter, h, .refl rows⟩
  | changes =>
    obtain ⟨kept, hkept, _, hthins⟩ := changes_thin hplain h
    exact ⟨_, kept, hfilter, hkept, hthins⟩
  | discontinuities band =>
    obtain ⟨kept, hkept, _, hthins⟩ := discontinuities_thin hplain h (hsteps band rfl) band
    exact ⟨_, kept, hfilter, hkept, hthins⟩

end SeriesQuery
end SeriesExport

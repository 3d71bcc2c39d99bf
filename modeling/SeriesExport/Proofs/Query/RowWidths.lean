import SeriesExport.Proofs.Query.ColumnOrder
import SeriesExport.Proofs.Table.Alignment

/-! Rows of queries against their columns. A query reads some columns of an answer and reports others,
one for each that it reads. Main statement: `rows_aligned`, that projections are complete and rows as
wide as the columns that are reported. -/
namespace SeriesExport
set_option autoImplicit false

/-- All rows have as many cells as there are names. -/
def FitsColumns (rows : List Row) (names : List String) : Prop :=
  ∀ row ∈ rows, row.length = names.length

theorem FitsColumns.congr {rows : List Row} {names names' : List String}
    (h : FitsColumns rows names) (hnames : names.length = names'.length) :
    FitsColumns rows names' :=
  fun row hrow => (h row hrow).trans hnames

theorem fitsColumns_nil (names : List String) : FitsColumns [] names :=
  fun _ hrow => absurd hrow List.not_mem_nil

theorem Answer.fitsColumns_project {a : Answer} {names : List String} {rows : List Row}
    (h : a.project names = .ok rows) : FitsColumns rows names := by
  rw [(project_eq_ok h).1]
  intro row hrow
  obtain ⟨t, _, hrow⟩ := List.mem_flatMap.1 hrow
  exact Table.length_of_mem_project hrow

theorem Table.fitsColumns_selectRows {t : Table} {names : List String} {numbers : List Nat}
    {rows : List Row} (h : t.selectRows names numbers = .ok rows) : FitsColumns rows names := by
  unfold selectRows at h
  obtain ⟨places, hplaces, hrows⟩ := bind_eq_ok_iff.1 h
  cases hrows
  intro row hrow
  obtain ⟨source, _, rfl⟩ := List.mem_map.1 hrow
  rw [List.length_map, length_of_mapM hplaces]

/-! ## Kinds of queries -/

theorem SeriesQuery.fitsColumns_repack {q : SeriesQuery} {a : Answer} {rows : List Row}
    (h : q.repack a = .ok rows) : FitsColumns rows q.columns := by
  have hnames : q.sourceColumns.length = q.columns.length := rfl
  refine FitsColumns.congr ?_ hnames
  cases hframe : q.wantsFrame with
  | false =>
    rw [repack_of_not_wantsFrame hframe, orMissing_eq_ok_iff] at h
    exact Answer.fitsColumns_project h
  | true =>
    rw [repack_eq hframe] at h
    split at h
    · cases h
      exact fitsColumns_nil _
    · obtain ⟨numbers, _, hselect⟩ := bind_eq_ok_iff.1 (orMissing_eq_ok_iff.1 h)
      exact Table.fitsColumns_selectRows hselect

theorem AggregateQuery.fitsColumns_repack {q : AggregateQuery} {a : Answer} {rows : List Row}
    (h : q.repack a = .ok rows) : FitsColumns rows q.columns := by
  have hnames : q.sourceColumns.length = q.columns.length := by
    unfold sourceColumns columns
    cases q.aggregation <;> rfl
  exact (Answer.fitsColumns_project (orMissing_eq_ok_iff.1 h)).congr hnames

theorem TagValuesQuery.fitsColumns_repack {q : TagValuesQuery} {a : Answer} {rows : List Row}
    (h : q.repack a = .ok rows) : FitsColumns rows q.columns := by
  unfold repack at h
  dsimp only at h
  split at h
  · cases h
    exact fitsColumns_nil _
  · obtain ⟨cells, _, hrows⟩ := bind_eq_ok_iff.1 (orMissing_eq_ok_iff.1 h)
    cases hrows
    intro row hrow
    obtain ⟨c, _, rfl⟩ := List.mem_map.1 hrow
    rfl

namespace Query

theorem fitsColumns_repack {q : Query} {a : Answer} {rows : List Row} (h : q.repack a = .ok rows) :
    FitsColumns rows q.columns := by
  cases q with
  | series q => exact q.fitsColumns_repack h
  | aggregate q => exact q.fitsColumns_repack h
  | windowed q => exact Answer.fitsColumns_project (orMissing_eq_ok_iff.1 h)
  | tagValues q => exact q.fitsColumns_repack h

/-- A projection fails only where there are rows and a name that no table has, and reports the first
such name. Else it has a row for each row of the answer, in their order, and in it the cell under each
name or none. So the rows of a query have a cell for each column that it reports. -/
theorem rows_aligned (a : Answer) :
    (∀ names name, a.project names = .error ⟨name⟩ ↔ a.HasRow ∧ a.LacksFirst names name) ∧
      (∀ names rows, a.project names = .ok rows ↔
        ¬ (a.HasRow ∧ ∃ name ∈ names, a.Lacks name) ∧
          List.Forall₂ (fun source => ShownAs names source.1 source.2) a.sources rows) ∧
      ∀ (q : Query) rows, q.repack a = .ok rows → ∀ row ∈ rows, row.length = q.columns.length :=
  ⟨fun _ _ => Answer.project_eq_error_iff, fun _ _ => Answer.project_eq_ok_iff,
    fun _ _ => fitsColumns_repack⟩

/-- A band of which one table has no mean keeps four cells to a row, and a median is in none. -/
theorem band_aligned : ∃ q rows, AggregateQuery.compile (fun _ => some "b") .loneValue
      { plantSeries "power" with exporter := .aggregateBand } = .ok q ∧
    (Query.aggregate q).repack (.records gappedTables) = .ok rows ∧
    (Query.aggregate q).columns = ["_time", "series.min", "series.mean", "series.max"] ∧
    (∀ row ∈ rows, row.length = (Query.aggregate q).columns.length) ∧
    List.Forall₂ (fun source => ShownAs ["_time", "min", "mean", "max"] source.1 source.2)
      (Answer.records gappedTables).sources rows ∧
    (Answer.records gappedTables).project ["_time", "median", "mode"] = .error ⟨"median"⟩ ∧
    (Answer.records gappedTables).LacksFirst ["_time", "median", "mode"] "median" := by
  obtain ⟨hmissing, hshown, hwidth⟩ := rows_aligned (.records gappedTables)
  have hlacks : (Answer.records gappedTables).project ["_time", "median", "mode"] =
      .error ⟨"median"⟩ := rfl
  exact ⟨_, _, rfl, rfl, rfl, hwidth _ _ rfl, ((hshown _ _).1 rfl).2, hlacks, ((hmissing _ _).1 hlacks).2⟩

end Query
end SeriesExport

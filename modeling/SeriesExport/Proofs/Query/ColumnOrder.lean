import SeriesExport.Proofs.Query.Filtering
import SeriesExport.Proofs.Table.ColumnOrder
import SeriesExport.Query.Basic

/-! Queries look at an answer by the names of its columns only. Main statement: `repack_of_reordered`,
that the columns of the tables of an answer may stand in any order. -/
namespace SeriesExport
set_option autoImplicit false

namespace Table

variable {t u : Table} {ts us : List Table}

/-! ## Columns of one table -/

theorem column_eq_error {name : String} (h : name ∉ t.columns) : t.column name = .error ⟨name⟩ := by
  unfold column
  rw [place?_eq_none_iff.2 h]

theorem SameByName.column_eq (h : t.SameByName u) (name : String) :
    t.column name = u.column name := by
  by_cases hname : name ∈ t.columns
  · rw [Table.column_eq hname, Table.column_eq ((h.columns name).1 hname), h.cells_eq]
  · rw [column_eq_error hname, column_eq_error (mt (h.columns name).2 hname)]

theorem SameByName.size_eq (h : t.SameByName u) : t.size = u.size := h.rows.length_eq

/-- The first name without a column is the one that is reported. -/
theorem selectRows_eq_error {names : List String} {name : String}
    (h : Answer.absent? [t] names = some name) (numbers : List Nat) :
    t.selectRows names numbers = .error ⟨name⟩ := by
  have habsent : ∀ other, ([t].all fun t => (t.place? other).isNone) = (t.place? other).isNone :=
    fun other => Bool.and_true _
  obtain ⟨hname, before, after, rfl, hbefore⟩ := List.find?_eq_some_iff_append.1 h
  rw [habsent, Option.isNone_iff_eq_none] at hname
  unfold selectRows
  rw [mapM_eq_error_iff.2 ⟨before, name, after, rfl, ?_, ?_⟩]
  · rfl
  · intro other hother
    have hplace := hbefore other hother
    rw [habsent, Bool.not_eq_true', Option.isNone_eq_false_iff] at hplace
    obtain ⟨place, hplace⟩ := Option.isSome_iff_exists.1 hplace
    rw [hplace]
    exact ⟨_, rfl⟩
  · rw [hname]

theorem mem_columns_of_present {names : List String} (h : Answer.absent? [t] names = none) :
    ∀ name ∈ names, name ∈ t.columns := by
  intro name hname
  obtain ⟨_, htable, hcolumn⟩ := Answer.absent?_eq_none_iff.1 h name hname
  exact List.mem_singleton.1 htable ▸ hcolumn

theorem absent?_eq (h : List.Forall₂ SameByName ts us) (names : List String) :
    Answer.absent? ts names = Answer.absent? us names := by
  unfold Answer.absent?
  refine List.find?_congr fun name _ => ?_
  have hcolumns := not_congr (exists_column_iff h name)
  rw [Bool.eq_iff_iff, List.all_eq_true, List.all_eq_true]
  simp only [Option.isNone_iff_eq_none, place?_eq_none_iff]
  simpa only [not_exists, not_and] using hcolumns

theorem SameByName.selectRows_eq (h : t.SameByName u) (names : List String) (numbers : List Nat) :
    t.selectRows names numbers = u.selectRows names numbers := by
  have habsent := absent?_eq (.cons h .nil) names
  cases hname : Answer.absent? [t] names with
  | some name =>
    rw [selectRows_eq_error hname, selectRows_eq_error (habsent.symm.trans hname)]
  | none =>
    rw [Table.selectRows_eq (mem_columns_of_present hname),
      Table.selectRows_eq (mem_columns_of_present (habsent.symm.trans hname)), h.project_eq]

/-! ## Lists of tables -/

theorem any_rows_eq (h : List.Forall₂ SameByName ts us) :
    (ts.any fun t => !t.isEmpty) = us.any fun u => !u.isEmpty := by
  induction h with
  | nil => rfl
  | cons htu _ ih => rw [List.any_cons, List.any_cons, htu.isEmpty_eq, ih]

theorem flatMap_project_eq (h : List.Forall₂ SameByName ts us) (names : List String) :
    (ts.flatMap fun t => t.project names) = us.flatMap fun u => u.project names := by
  induction h with
  | nil => rfl
  | cons htu _ ih => rw [List.flatMap_cons, List.flatMap_cons, htu.project_eq, ih]

end Table

/-! ## Answers -/

/-- Two answers of the same tables by name, one by one and merged. -/
structure Answer.SameByName (a b : Answer) : Prop where
  tables : List.Forall₂ Table.SameByName a.tables b.tables
  frame : a.toFrame.SameByName b.toFrame

namespace Answer

variable {a b : Answer} {ts us : List Table}

theorem sameByName_ofTables (h : List.Forall₂ Table.SameByName ts us) (tabular : Bool) :
    (ofTables ts tabular).SameByName (ofTables us tabular) := by
  have hmerged := Table.SameByName.merge h
  cases tabular with
  | false => exact ⟨h, hmerged⟩
  | true => exact ⟨.cons hmerged .nil, hmerged⟩

theorem SameByName.project_eq (h : a.SameByName b) (names : List String) :
    a.project names = b.project names := by
  unfold project
  rw [Table.any_rows_eq h.tables, Table.absent?_eq h.tables, Table.flatMap_project_eq h.tables]

end Answer

/-! ## Queries -/

variable {a b : Answer}

theorem SeriesQuery.keptRows_eq (q : SeriesQuery) {t u : Table} (h : t.SameByName u) :
    q.keptRows t = q.keptRows u := by
  unfold keptRows
  cases q.keep with
  | all => exact congrArg (fun n => Except.ok (List.range n)) h.size_eq
  | changes =>
    dsimp only
    rw [h.column_eq]
  | discontinuities band =>
    dsimp only
    rw [h.column_eq]

theorem SeriesQuery.repack_of_not_wantsFrame {q : SeriesQuery} (hframe : q.wantsFrame = false)
    (a : Answer) : q.repack a = orMissing (a.project q.sourceColumns) := by
  unfold wantsFrame at hframe
  unfold repack
  cases hkeep : q.keep with
  | all => rfl
  | changes =>
    rw [hkeep] at hframe
    cases hframe
  | discontinuities band =>
    rw [hkeep] at hframe
    cases hframe

theorem SeriesQuery.repack_of_sameByName (q : SeriesQuery) (h : a.SameByName b) :
    q.repack a = q.repack b := by
  cases hframe : q.wantsFrame with
  | false =>
    rw [repack_of_not_wantsFrame hframe, repack_of_not_wantsFrame hframe, h.project_eq]
  | true =>
    rw [repack_eq hframe, repack_eq hframe, h.frame.isEmpty_eq, q.keptRows_eq h.frame]
    simp only [h.frame.selectRows_eq]

theorem TagValuesQuery.repack_of_sameByName (q : TagValuesQuery) (h : a.SameByName b) :
    q.repack a = q.repack b := by
  have hnone : a.toFrame.columns = [] ↔ b.toFrame.columns = [] := by
    rw [List.eq_nil_iff_forall_not_mem, List.eq_nil_iff_forall_not_mem]
    exact forall_congr' fun name => not_congr (h.frame.columns name)
  unfold repack
  dsimp only
  rw [h.frame.column_eq]
  simp only [hnone]

namespace Query

/-- Every query makes the same of answers that are the same by name. -/
theorem repack_of_sameByName (q : Query) (h : a.SameByName b) : q.repack a = q.repack b := by
  cases q with
  | series q => exact q.repack_of_sameByName h
  | aggregate q => exact congrArg orMissing (h.project_eq q.sourceColumns)
  | windowed q => exact congrArg orMissing (h.project_eq q.columns)
  | tagValues q => exact q.repack_of_sameByName h

/-- Whatever order the columns have in each table, a query makes the same rows of them, or reports the
same error. -/
theorem repack_of_reordered (q : Query) {ts us : List Table} (hts : ∀ t ∈ ts, t.Rectangular)
    (h : List.Forall₂ Table.Reordered ts us) (tabular : Bool) :
    q.repack (.ofTables us tabular) = q.repack (.ofTables ts tabular) :=
  (q.repack_of_sameByName
    (Answer.sameByName_ofTables (Table.sameByName_of_reordered hts h) tabular)).symm

/-- Two tables of a band, of which the second has no mean. -/
def gappedTables : List Table :=
  [⟨["result", "table", "_time", "min", "mean", "max"],
      [[.text "_result", .integer 0, .integer 1, .integer 2, .integer 4, .integer 6],
        [.text "_result", .integer 0, .integer 2, .integer 3, .missing, .integer 5]]⟩,
    ⟨["_time", "max", "min"], [[.integer 3, .integer 9, .integer 8]]⟩]

def shuffledTables : List Table :=
  [⟨["max", "min", "_time", "result", "mean", "table"],
      [[.integer 6, .integer 2, .integer 1, .text "_result", .integer 4, .integer 0],
        [.integer 5, .integer 3, .integer 2, .text "_result", .missing, .integer 0]]⟩,
    ⟨["min", "_time", "max"], [[.integer 8, .integer 3, .integer 9]]⟩]

theorem band_reordered : (∀ t ∈ gappedTables, t.Rectangular) ∧
    List.Forall₂ Table.Reordered gappedTables shuffledTables ∧
    ∃ q, AggregateQuery.compile (fun _ => some "b") .loneValue
        { plantSeries "power" with exporter := .aggregateBand } = .ok q ∧
      ∀ tabular, (Query.aggregate q).repack (.ofTables shuffledTables tabular) =
        .ok [[.integer 1, .integer 2, .integer 4, .integer 6],
          [.integer 2, .integer 3, .missing, .integer 5],
          [.integer 3, .integer 8, .missing, .integer 9]] := by
  have hrectangular : ∀ t ∈ gappedTables, t.Rectangular := by
    intro t ht
    rcases List.mem_pair.1 ht with rfl | rfl
    · exact ⟨by decide, by simp⟩
    · exact ⟨by decide, by simp⟩
  have hreordered : List.Forall₂ Table.Reordered gappedTables shuffledTables :=
    .cons ⟨[5, 3, 2, 0, 4, 1], by decide, rfl⟩ (.cons ⟨[2, 0, 1], by decide, rfl⟩ .nil)
  refine ⟨hrectangular, hreordered, _, rfl, fun tabular => ?_⟩
  rw [repack_of_reordered _ hrectangular hreordered tabular]
  cases tabular <;> rfl

end Query
end SeriesExport

import Mathlib.Data.List.SplitBy
import SeriesExport.Csv.Annotated
import SeriesExport.Proofs.Table.Cutting

/-! How a table is split. The loop over its rows gathers the runs of rows that join the row before them.
Main statement: `cutInto_splitTable`, that splitting keeps the rows of a table, in order, and its
columns. -/
namespace SeriesExport.Csv
set_option autoImplicit false

/-! ## Runs of rows -/

/-- Rows stay in one part unless the cells at the place are there and differ. -/
def joins (place : Nat) (row next : Row) : Bool := !(row[place]?.isSome && next[place]? != row[place]?)

theorem loop_eq_splitRows (place : Nat) (row : Row) (part : List Row) (parts : List (List Row))
    (rows : List Row) : List.splitBy.loop (joins place) rows row part parts =
      parts.reverse ++ splitRows place (row :: part) row[place]? rows := by
  induction rows generalizing row part parts with
  | nil => exact List.reverse_cons
  | cons next rows ih =>
    rw [splitRows]
    by_cases hcut : (row[place]?.isSome && next[place]? != row[place]?) = true
    · have hjoins : joins place row next = false := by
        rw [joins, hcut]
        rfl
      simp only [List.splitBy.loop, hjoins, ih, if_pos hcut]
      simp
    · have hjoins : joins place row next = true := by
        rw [joins, Bool.not_eq_true', ← Bool.not_eq_true]
        exact hcut
      simp only [List.splitBy.loop, hjoins, ih, if_neg hcut]

theorem splitRows_eq_splitBy (place : Nat) {rows : List Row} (h : rows ≠ []) :
    splitRows place [] none rows = rows.splitBy (joins place) := by
  obtain ⟨row, rows, rfl⟩ := List.exists_cons_of_ne_nil h
  exact (loop_eq_splitRows place row [] [] rows).symm

/-! ## Split tables -/

variable {t : Table}

theorem splitTable_of_whole (h : t.place? tableColumn = none ∨ t.rows = []) : splitTable t = [t] := by
  unfold splitTable
  cases hplace : t.place? tableColumn with
  | none => rfl
  | some place =>
    have hrows := h.resolve_left (by simp [hplace])
    rw [hrows]
    exact congrArg (fun rows => [Table.mk t.columns rows]) hrows.symm

theorem splitTable_of_rows {place : Nat} (hplace : t.place? tableColumn = some place)
    (hrows : t.rows ≠ []) :
    splitTable t = (t.rows.splitBy (joins place)).map fun rows => ⟨t.columns, rows⟩ := by
  unfold splitTable
  rw [hplace, ← splitRows_eq_splitBy place hrows]

theorem cutInto_splitTable (t : Table) : t.CutInto (splitTable t) := by
  by_cases hwhole : t.place? tableColumn = none ∨ t.rows = []
  · rw [splitTable_of_whole hwhole]
    exact Table.cutInto_self t
  · obtain ⟨hplace, hrows⟩ := not_or.1 hwhole
    obtain ⟨place, hplace⟩ := Option.ne_none_iff_exists'.1 hplace
    rw [splitTable_of_rows hplace hrows]
    refine ⟨?_, fun part hpart => ?_, ?_⟩
    · exact fun h => List.splitBy_ne_nil.2 hrows (List.map_eq_nil_iff.1 h)
    · obtain ⟨rows, _, rfl⟩ := List.mem_map.1 hpart
      rfl
    · rw [List.flatMap_map, List.flatMap_id']
      exact List.flatten_splitBy (joins place) t.rows

end SeriesExport.Csv

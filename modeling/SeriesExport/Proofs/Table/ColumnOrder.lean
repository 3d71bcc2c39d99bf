import Mathlib.Data.List.Forall2
import Mathlib.Logic.Function.Basic
import SeriesExport.Proofs.Table.Kept
import SeriesExport.Proofs.Table.Projection

/-! Tables whose columns stand in another order. Two tables are the same by name when no look at a
named column tells them apart. Main statements: `sameByName_reorder`, that the order of the columns
is not seen by name, and `SameByName.merge`, that it is not seen in a merged table either, although
that has its columns in the order of their first appearance. -/
namespace SeriesExport.Table
set_option autoImplicit false

/-- The same names have columns, and each row has the same cells under them. -/
structure SameByName (t u : Table) : Prop where
  columns : ∀ name, name ∈ t.columns ↔ name ∈ u.columns
  rows : List.Forall₂ (fun row other => ∀ name,
    row.cellAt (t.place? name) = other.cellAt (u.place? name)) t.rows u.rows

variable {t u : Table} {ts us : List Table}

/-! ## What is seen by name -/

theorem SameByName.project_eq (h : t.SameByName u) (names : List String) :
    t.project names = u.project names := by
  rw [Table.project_eq, Table.project_eq, ← List.forall₂_eq_eq_eq, List.forall₂_map_left_iff,
    List.forall₂_map_right_iff]
  exact h.rows.imp fun row other hcells => List.map_congr_left fun name _ => hcells name

theorem SameByName.cells_eq (h : t.SameByName u) (name : String) : t.cells name = u.cells name := by
  unfold cells
  rw [← List.forall₂_eq_eq_eq, List.forall₂_map_left_iff, List.forall₂_map_right_iff]
  exact h.rows.imp fun row other hcells => hcells name

theorem SameByName.isEmpty_eq (h : t.SameByName u) : t.isEmpty = u.isEmpty := by
  rw [← isEmpty_project t [], ← isEmpty_project u [], h.project_eq]

/-! ## Merging -/

theorem exists_column_iff (h : List.Forall₂ SameByName ts us) (name : String) :
    (∃ t ∈ ts, name ∈ t.columns) ↔ ∃ u ∈ us, name ∈ u.columns := by
  induction h with
  | nil => rfl
  | cons htu _ ih => simp only [List.exists_mem_cons_iff, htu.columns, ih]

theorem SameByName.merge (h : List.Forall₂ SameByName ts us) :
    (merge ts).SameByName (merge us) := by
  have hcolumns : ∀ name, name ∈ unitedColumns ts ↔ name ∈ unitedColumns us := by
    intro name
    rw [mem_unitedColumns, mem_unitedColumns, exists_column_iff h]
  refine ⟨hcolumns, List.rel_flatMap h ?_⟩
  intro t u htu
  dsimp only
  rw [Table.project_eq, Table.project_eq, List.forall₂_map_left_iff, List.forall₂_map_right_iff]
  refine htu.rows.imp fun row other hcells name => ?_
  have hleft := cellAt_map (unitedColumns ts) (fun name => row.cellAt (t.place? name)) name
  have hright := cellAt_map (unitedColumns us) (fun name => other.cellAt (u.place? name)) name
  refine hleft.trans (Eq.trans ?_ hright.symm)
  simp only [hcolumns name, hcells name]

/-! ## Reordering -/

/-- Every row has a cell for each column, and no column stands twice. -/
structure Rectangular (t : Table) : Prop where
  nodup : t.columns.Nodup
  full : ∀ row ∈ t.rows, row.length = t.columns.length

/-- The columns, and with them the cells of every row, in the order of the given places. -/
def reorder (order : List Nat) (t : Table) : Table :=
  ⟨pick t.columns order, t.rows.map fun row => pick row order⟩

/-- The second table has the columns of the first in some order. -/
def Reordered (t u : Table) : Prop :=
  ∃ order, order.Perm (List.range t.columns.length) ∧ u = t.reorder order

/-- A full row is known from the cells under the names. -/
theorem exists_cells {names : List String} (hnodup : names.Nodup) {row : Row}
    (hfull : row.length = names.length) : ∃ f : String → Cell, row = names.map f := by
  induction names generalizing row with
  | nil => exact ⟨fun _ => .missing, List.length_eq_zero_iff.1 hfull⟩
  | cons name names ih =>
    obtain ⟨hnew, hnodup⟩ := List.nodup_cons.1 hnodup
    obtain ⟨c, rest, rfl⟩ := List.exists_cons_of_length_eq_add_one hfull
    obtain ⟨f, rfl⟩ := ih hnodup (Nat.succ.inj hfull)
    refine ⟨Function.update f name c, ?_⟩
    rw [List.map_cons, Function.update_self]
    refine congrArg (c :: ·) (List.map_congr_left fun other hother => ?_)
    have hne : other ≠ name := fun h => hnew (h ▸ hother)
    rw [Function.update_of_ne hne]

theorem sameByName_reorder (ht : t.Rectangular) {order : List Nat}
    (horder : order.Perm (List.range t.columns.length)) : t.SameByName (t.reorder order) := by
  have hcolumns : ∀ name, name ∈ t.columns ↔ name ∈ pick t.columns order :=
    fun name => (pick_perm horder).mem_iff.symm
  refine ⟨hcolumns, ?_⟩
  show List.Forall₂ _ t.rows (t.rows.map fun row => pick row order)
  rw [List.forall₂_map_right_iff, List.forall₂_same]
  intro row hrow name
  obtain ⟨f, rfl⟩ := exists_cells ht.nodup (ht.full row hrow)
  rw [pick_map]
  refine (cellAt_map t.columns f name).trans (Eq.trans ?_ (cellAt_map (pick t.columns order) f name).symm)
  simp only [hcolumns name]

theorem sameByName_of_reordered (hts : ∀ t ∈ ts, t.Rectangular)
    (h : List.Forall₂ Reordered ts us) : List.Forall₂ SameByName ts us := by
  refine ((List.forall₂_and_left ts us).2 ⟨hts, h⟩).imp ?_
  rintro t u ⟨ht, order, horder, rfl⟩
  exact sameByName_reorder ht horder

end SeriesExport.Table

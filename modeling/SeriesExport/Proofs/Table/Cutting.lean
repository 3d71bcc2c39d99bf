import SeriesExport.Proofs.Table.Merging

/-! Tables cut into parts. Parts have the columns of their table and, one after another, its rows. Main
statements: `merge_cut` and `Answer.project_cut`, that neither the frame that tables merge into nor
the rows they show tell parts from the tables they were cut from. -/
namespace SeriesExport
set_option autoImplicit false

namespace Table

/-- Parts of a table, at least one: its rows in their order, under all of its columns. -/
structure CutInto (t : Table) (parts : List Table) : Prop where
  ne_nil : parts ≠ []
  columns_eq : ∀ part ∈ parts, part.columns = t.columns
  rows_eq : parts.flatMap Table.rows = t.rows

/-! ## The parts of one table -/

section
variable {t part : Table} {parts : List Table}

theorem cutInto_self (t : Table) : t.CutInto [t] where
  ne_nil := List.cons_ne_nil t []
  columns_eq := List.forall_mem_singleton.2 rfl
  rows_eq := List.flatMap_singleton Table.rows t

theorem CutInto.place?_eq (h : t.CutInto parts) (hpart : part ∈ parts) (name : String) :
    part.place? name = t.place? name := by
  unfold place?
  rw [h.columns_eq part hpart]

theorem CutInto.project_eq (h : t.CutInto parts) (names : List String) :
    (parts.flatMap fun part => part.project names) = t.project names := by
  have hpart : ∀ part ∈ parts, part.project names =
      part.rows.map fun row => names.map fun name => row.cellAt (t.place? name) := by
    intro part hpart
    simp only [Table.project_eq, h.place?_eq hpart]
  rw [List.flatMap_congr hpart, ← List.map_flatMap, h.rows_eq, Table.project_eq]

theorem CutInto.any_rows (h : t.CutInto parts) :
    (parts.any fun part => !part.isEmpty) = !t.isEmpty := by
  have hrows : (parts.all fun part => part.isEmpty) = t.isEmpty := by
    rw [Bool.eq_iff_iff, List.all_eq_true, isEmpty, List.isEmpty_iff, ← h.rows_eq,
      List.flatMap_eq_nil_iff]
    exact forall₂_congr fun part _ => List.isEmpty_iff
  rw [← hrows, List.not_all_eq_any_not]

theorem CutInto.all_lack (h : t.CutInto parts) (name : String) :
    (parts.all fun part => (part.place? name).isNone) = (t.place? name).isNone := by
  obtain ⟨first, hfirst⟩ := List.exists_mem_of_ne_nil parts h.ne_nil
  rw [Bool.eq_iff_iff, List.all_eq_true]
  constructor
  · intro hall
    rw [← h.place?_eq hfirst]
    exact hall first hfirst
  · intro hnone part hpart
    rw [h.place?_eq hpart]
    exact hnone

/-- The columns of a further part are known from the first. -/
theorem CutInto.unite_eq (h : t.CutInto parts) (names : List String) :
    unite names (parts.flatMap columns) = unite names t.columns := by
  obtain ⟨first, rest, rfl⟩ := List.exists_cons_of_ne_nil h.ne_nil
  rw [List.flatMap_cons, unite_append, h.columns_eq first List.mem_cons_self]
  refine unite_of_known fun name hname hplain => ?_
  obtain ⟨part, hpart, hname⟩ := List.mem_flatMap.1 hname
  rw [h.columns_eq part (List.mem_cons_of_mem first hpart)] at hname
  exact mem_unite.2 (Or.inr ⟨hname, hplain⟩)

end

/-! ## The parts of all tables -/

variable {cut : Table → List Table}

theorem unitedColumns_cut (hcut : ∀ t : Table, t.CutInto (cut t)) (ts : List Table) :
    unitedColumns (ts.flatMap cut) = unitedColumns ts := by
  rw [unitedColumns_eq, unitedColumns_eq, List.flatMap_assoc]
  exact unite_flatMap_congr (fun t _ => (hcut t).unite_eq) []

theorem flatMap_project_cut (hcut : ∀ t : Table, t.CutInto (cut t)) (ts : List Table) (names : List String) :
    ((ts.flatMap cut).flatMap fun part => part.project names) =
      ts.flatMap fun t => t.project names := by
  rw [List.flatMap_assoc]
  exact List.flatMap_congr fun t _ => (hcut t).project_eq names

theorem merge_cut (hcut : ∀ t : Table, t.CutInto (cut t)) (ts : List Table) :
    merge (ts.flatMap cut) = merge ts := by
  show Table.mk (unitedColumns (ts.flatMap cut)) _ = Table.mk (unitedColumns ts) _
  rw [unitedColumns_cut hcut, flatMap_project_cut hcut]

end Table

namespace Answer
open Table

theorem project_cut {cut : Table → List Table} (hcut : ∀ t : Table, t.CutInto (cut t)) (ts : List Table)
    (names : List String) :
    (records (ts.flatMap cut)).project names = (records ts).project names := by
  have hrows : ((ts.flatMap cut).any fun part => !part.isEmpty) = ts.any fun t => !t.isEmpty := by
    rw [List.any_flatMap]
    simp only [(hcut _).any_rows]
  have habsent : absent? (ts.flatMap cut) names = absent? ts names := by
    unfold absent?
    refine List.find?_congr fun name _ => ?_
    rw [List.all_flatMap]
    simp only [(hcut _).all_lack]
  unfold project tables
  dsimp only
  rw [hrows, habsent, flatMap_project_cut hcut]

end Answer
end SeriesExport

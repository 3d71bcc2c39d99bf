import Mathlib.Data.List.Forall2
import SeriesExport.Proofs.Table.Projection

/-! Projection said cell by cell: a row for each row, and in it a cell for each name, the one under the
first place of the name in the header. Main statements: `project_eq_error_iff` and
`project_eq_ok_iff`, which name the column that is missing or every cell that is given. -/
namespace SeriesExport
set_option autoImplicit false

/-! ## Cells under a name -/

/-- The place in a header at which a name stands first. -/
def StandsFirst (columns : List String) (name : String) (place : Nat) : Prop :=
  columns[place]? = some name ∧ ∀ i < place, columns[i]? ≠ some name

/-- The cell that a row has under a name of its header. It is missing where the header lacks the name,
and where the row ends before its place. -/
inductive Under (columns : List String) (source : Row) (name : String) : Cell → Prop where
  | given {place : Nat} {c : Cell} (first : StandsFirst columns name place)
      (cell : source[place]? = some c) : Under columns source name c
  | short {place : Nat} (first : StandsFirst columns name place) (ends : source.length ≤ place) :
      Under columns source name .missing
  | absent (lacks : name ∉ columns) : Under columns source name .missing

/-- A row holds, for each of the names in turn, the cell of another row under it. -/
def ShownAs (names columns : List String) (source row : Row) : Prop :=
  List.Forall₂ (Under columns source) names row

theorem findIdx?_eq_some_iff_first {columns : List String} {name : String} {place : Nat} :
    columns.findIdx? (· == name) = some place ↔ StandsFirst columns name place := by
  unfold StandsFirst
  rw [List.findIdx?_eq_some_iff_getElem]
  constructor
  · rintro ⟨hlt, hname, hbefore⟩
    refine ⟨?_, fun i hi h => ?_⟩
    · rw [List.getElem?_eq_getElem hlt, beq_iff_eq.1 hname]
    · obtain ⟨hlt', hcolumn⟩ := List.getElem?_eq_some_iff.1 h
      exact hbefore i hi (beq_iff_eq.2 hcolumn)
  · rintro ⟨hname, hbefore⟩
    obtain ⟨hlt, hcolumn⟩ := List.getElem?_eq_some_iff.1 hname
    refine ⟨hlt, beq_iff_eq.2 hcolumn, fun i hi h => hbefore i hi ?_⟩
    rw [List.getElem?_eq_getElem (hi.trans hlt), beq_iff_eq.1 h]

theorem cellAt_eq_iff_under {columns : List String} {source : Row} {name : String} {c : Cell} :
    source.cellAt (columns.findIdx? (· == name)) = c ↔ Under columns source name c := by
  cases hplace : columns.findIdx? (· == name) with
  | none =>
    have hlacks : name ∉ columns := fun h =>
      absurd (List.findIdx?_eq_none_iff.1 hplace name h) (by simp)
    constructor
    · rintro rfl
      exact .absent hlacks
    · rintro (⟨hfirst, _⟩ | ⟨hfirst, _⟩ | _)
      · exact absurd (List.mem_of_getElem? hfirst.1) hlacks
      · exact absurd (List.mem_of_getElem? hfirst.1) hlacks
      · rfl
  | some place =>
    have hfirst := findIdx?_eq_some_iff_first.1 hplace
    have hunique {i : Nat} (h : StandsFirst columns name i) : i = place :=
      Option.some_inj.1 ((findIdx?_eq_some_iff_first.2 h).symm.trans hplace)
    show (source[place]?).getD .missing = c ↔ _
    constructor
    · rintro rfl
      cases hcell : source[place]? with
      | none => exact .short hfirst (List.getElem?_eq_none_iff.1 hcell)
      | some c => exact .given hfirst hcell
    · rintro (⟨h, hcell⟩ | ⟨h, hends⟩ | hlacks)
      · rw [← hunique h, hcell]
        rfl
      · rw [← hunique h, List.getElem?_eq_none hends]
        rfl
      · exact absurd (List.mem_of_getElem? hfirst.1) hlacks

theorem map_eq_iff_forall₂ {α β : Type} {f : α → β} {xs : List α} {ys : List β} :
    xs.map f = ys ↔ List.Forall₂ (fun x y => f x = y) xs ys := by
  rw [← List.forall₂_map_left_iff, List.forall₂_eq_eq_eq]

namespace Table

theorem length_of_mem_project {t : Table} {names : List String} {row : Row}
    (h : row ∈ t.project names) : row.length = names.length := by
  rw [project_eq] at h
  obtain ⟨source, _, rfl⟩ := List.mem_map.1 h
  exact List.length_map _

end Table

/-! ## Rows of an answer -/

namespace Answer
open Table

variable {a : Answer} {names : List String}

/-- All rows, table by table, each with the header over it. -/
def sources (a : Answer) : List (List String × Row) :=
  a.tables.flatMap fun t => t.rows.map fun row => (t.columns, row)

/-- There is a row in some table. -/
def HasRow (a : Answer) : Prop := ∃ t ∈ a.tables, t.rows ≠ []

/-- No table has a column of the name. -/
def Lacks (a : Answer) (name : String) : Prop := ∀ t ∈ a.tables, name ∉ t.columns

/-- Of the names asked for, this is the first that no table has. -/
def LacksFirst (a : Answer) (names : List String) (name : String) : Prop :=
  ∃ before after, names = before ++ name :: after ∧ a.Lacks name ∧ ∀ other ∈ before, ¬ a.Lacks other

theorem any_rows_iff : (a.tables.any fun t => !t.isEmpty) = true ↔ a.HasRow := by
  rw [List.any_eq_true]
  refine exists_congr fun t => and_congr_right fun _ => ?_
  rw [Bool.not_eq_true', ← Bool.not_eq_true, Table.isEmpty, List.isEmpty_iff]

theorem all_isNone_iff {name : String} :
    (a.tables.all fun t => (t.place? name).isNone) = true ↔ a.Lacks name := by
  rw [List.all_eq_true]
  refine forall₂_congr fun t _ => ?_
  rw [Option.isNone_iff_eq_none, place?_eq_none_iff]

theorem absent?_eq_some_iff {name : String} :
    absent? a.tables names = some name ↔ a.LacksFirst names name := by
  unfold absent?
  rw [List.find?_eq_some_iff_append, all_isNone_iff]
  constructor
  · rintro ⟨hlacks, before, after, hsplit, hbefore⟩
    refine ⟨before, after, hsplit, hlacks, fun other hother h => ?_⟩
    have hhas := hbefore other hother
    rw [all_isNone_iff.2 h] at hhas
    cases hhas
  · rintro ⟨before, after, hsplit, hlacks, hbefore⟩
    refine ⟨hlacks, before, after, hsplit, fun other hother => ?_⟩
    rw [Bool.not_eq_true', ← Bool.not_eq_true, all_isNone_iff]
    exact hbefore other hother

theorem absent?_eq_none_iff_lacks :
    absent? a.tables names = none ↔ ¬ ∃ name ∈ names, a.Lacks name := by
  unfold absent?
  rw [List.find?_eq_none]
  simp only [all_isNone_iff, not_exists, not_and]

theorem project_eq_error_iff {name : String} :
    a.project names = .error ⟨name⟩ ↔ a.HasRow ∧ a.LacksFirst names name := by
  rw [← any_rows_iff, ← absent?_eq_some_iff]
  unfold project
  by_cases hrows : (a.tables.any fun t => !t.isEmpty) = true
  · rw [if_pos hrows, and_iff_right hrows]
    cases absent? a.tables names with
    | none => exact ⟨nofun, nofun⟩
    | some first => rw [Except.error.injEq, MissingColumn.mk.injEq, Option.some_inj]
  · rw [if_neg hrows]
    exact ⟨nofun, fun h => absurd h.1 hrows⟩

theorem flatMap_project_eq_iff {rows : List Row} :
    (a.tables.flatMap fun t => t.project names) = rows ↔
      List.Forall₂ (fun source => ShownAs names source.1 source.2) a.sources rows := by
  have hcells : (a.tables.flatMap fun t => t.project names) = a.sources.map fun source =>
      names.map fun name => source.2.cellAt (source.1.findIdx? (· == name)) := by
    unfold sources
    rw [List.map_flatMap]
    refine List.flatMap_congr fun t _ => ?_
    rw [project_eq, List.map_map]
    rfl
  rw [hcells, map_eq_iff_forall₂]
  unfold ShownAs
  simp only [map_eq_iff_forall₂, cellAt_eq_iff_under]

/-- What is projected is a row for each row of the answer, unless a name without a column stops it. -/
theorem project_eq_ok_iff {rows : List Row} : a.project names = .ok rows ↔
    ¬ (a.HasRow ∧ ∃ name ∈ names, a.Lacks name) ∧
      List.Forall₂ (fun source => ShownAs names source.1 source.2) a.sources rows := by
  rw [← flatMap_project_eq_iff, ← any_rows_iff]
  constructor
  · intro h
    refine ⟨?_, (project_eq_ok h).1.symm⟩
    rintro ⟨hrows, habsent⟩
    unfold project at h
    rw [if_pos hrows] at h
    cases hname : absent? a.tables names with
    | none => exact absent?_eq_none_iff_lacks.1 hname habsent
    | some name =>
      rw [hname] at h
      cases h
  · rintro ⟨hnone, rfl⟩
    by_cases hrows : (a.tables.any fun t => !t.isEmpty) = true
    · exact project_of_present (absent?_eq_none_iff_lacks.2 fun h => hnone ⟨hrows, h⟩)
    · cases h : a.project names with
      | ok rows => rw [(project_eq_ok h).1]
      | error e => exact absurd (any_rows_iff.2 (project_eq_error_iff.1 h).1) hrows

end Answer
end SeriesExport

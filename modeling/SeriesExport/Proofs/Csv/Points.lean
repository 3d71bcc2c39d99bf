import Mathlib.Data.List.Forall2
import SeriesExport.Proofs.Csv.Decoding
import SeriesExport.Proofs.Csv.Splitting
import SeriesExport.Proofs.Csv.Writing
import SeriesExport.Proofs.Table.Projection

/-! Texts of points, as a store answers with them: a result, a table, a time and a number in each of a
few named columns. Such a text is decoded to its points unless a column is named after errors. -/
namespace SeriesExport
set_option autoImplicit false

/-- A time and a number for each column. -/
structure Point where
  time : Instant
  value : String → Int64

/-- The cells of a point after its result and its table. -/
def Point.cells (p : Point) (columns : List String) : Row :=
  .time p.time :: columns.map fun column => .integer (p.value column)

namespace Csv

/-- The columns of a store that come before those of the points. -/
def givenColumns : List String := ["result", "table", "_time"]

/-- A record has the texts of a point; its result is any text, and its table any number or missing. -/
def Block.Spells (b : Block) (columns : List String) (record : List String) (p : Point) : Prop :=
  ∃ first result table time cells, record = first :: result :: table :: time :: cells ∧
    (∃ c, CellType.long.decode (b.filled 1 table) = .ok c) ∧
    Timestamp.readStrict? time = some p.time ∧
    List.Forall₂ (fun column cell => long? cell = some (.integer (p.value column))) columns cells

/-- One block with typed columns, and a record for each point. -/
structure Block.Presents (b : Block) (columns : List String) (points : List Point) : Prop where
  types : b.last "#datatype" =
    "string" :: "long" :: "dateTime:RFC3339" :: columns.map fun _ => "long"
  body : ∃ first data, b.body = (first :: (givenColumns ++ columns)) :: data ∧
    List.Forall₂ (b.Spells columns) data points

def Presents (body : String) (columns : List String) (points : List Point) : Prop :=
  ∃ b : Block, blocks (records body) = [b] ∧ b.Presents columns points

/-! ## Cells -/

variable {b : Block} {columns : List String}

/-- A cell that its type can read is no empty one, so no default takes its place. -/
theorem Block.decode_filled (b : Block) (i : Nat) {t : CellType} {s : String} {c : Cell}
    (hempty : t.read? "" = none) (h : t.read? s = some c) : t.decode (b.filled i s) = .ok c := by
  have hne : s.isEmpty = false := by
    rw [Bool.eq_false_iff]
    intro hs
    rw [String.isEmpty_iff.1 hs, hempty] at h
    cases h
  rw [filled, hne, if_neg Bool.false_ne_true, CellType.decode, hne, if_neg Bool.false_ne_true, h]

theorem Block.cell_of_read? {i : Nat} {t : CellType} {s : String} {c : Cell} (htype : b.typeAt i = t)
    (hempty : t.read? "" = none) (h : t.read? s = some c) : b.cell i s = .ok c := by
  rw [cell, htype, decode_filled b i hempty h]

theorem Block.cell_of_text {i : Nat} {s : String} (htype : b.typeAt i = .text) :
    ∃ c, b.cell i s = .ok c := by
  rw [Block.cell, htype, CellType.decode]
  by_cases h : (b.filled i s).isEmpty = true
  · exact ⟨.missing, if_pos h⟩
  · exact ⟨.text (b.filled i s), if_neg h⟩

/-! ## Rows -/

theorem Block.types_presents {points : List Point} (h : b.Presents columns points) :
    b.typeAt 0 = .text ∧ b.typeAt 1 = .long ∧ b.typeAt 2 = .dateTime ∧
      ∀ j < columns.length, b.typeAt (3 + j) = .long := by
  unfold Block.typeAt
  rw [h.types]
  have htime : CellType.ofAnnotation "dateTime:RFC3339" = .dateTime := by decide +kernel
  refine ⟨rfl, rfl, htime, ?_⟩
  intro j hj
  have hcell : ("string" :: "long" :: "dateTime:RFC3339" :: columns.map fun _ => "long")[3 + j]? =
      some "long" := by
    rw [Nat.add_comm]
    simp [hj]
  rw [hcell]
  rfl

theorem Block.cells_of_longs {p : Point} {names cells : List String} {k : Nat}
    (htypes : ∀ j < names.length, b.typeAt (k + j) = .long)
    (h : List.Forall₂ (fun column cell => long? cell = some (.integer (p.value column))) names cells) :
    (cells.zipIdx k).mapM (fun (s, i) => b.cell i s) =
      .ok (names.map fun column => .integer (p.value column)) := by
  induction h generalizing k with
  | nil => rfl
  | cons hcell _ ih =>
    have hfirst := Block.cell_of_read? (i := k) (htypes 0 (Nat.succ_pos _)) rfl hcell
    have hrest := ih (k := k + 1) (fun j hj => by
      have hnext := htypes (j + 1) (Nat.succ_lt_succ hj)
      rwa [Nat.add_assoc, Nat.add_comm 1 j])
    rw [List.zipIdx_cons, mapM_cons_ok (f := fun (s, i) => b.cell i s) (x := (_, k)) hfirst, hrest]
    rfl

theorem Block.row_of_cells {points : List Point} (h : b.Presents columns points) {p : Point}
    {first result table time : String} {cells : List String} {resultCell tableCell : Cell}
    (hresult : b.cell 0 result = .ok resultCell) (htable : b.cell 1 table = .ok tableCell)
    (htime : Timestamp.readStrict? time = some p.time)
    (hcells : List.Forall₂ (fun column cell => long? cell = some (.integer (p.value column)))
      columns cells) :
    b.row (first :: result :: table :: time :: cells) =
      .ok (resultCell :: tableCell :: p.cells columns) := by
  obtain ⟨_, _, htype, hlong⟩ := types_presents h
  have hread : CellType.dateTime.read? time = some (.time p.time) := by
    show (Timestamp.readStrict? time).map Cell.time = _
    rw [htime]
    rfl
  have hthird := cell_of_read? htype rfl hread
  have hrest := cells_of_longs hlong hcells
  let f : String × Nat → Except DecodeError Cell := fun (s, i) => b.cell i s
  show ((result, 0) :: (table, 1) :: (time, 2) :: cells.zipIdx 3).mapM f = _
  rw [mapM_cons_ok (f := f) (x := (result, 0)) hresult, mapM_cons_ok (f := f) (x := (table, 1)) htable,
    mapM_cons_ok (f := f) (x := (time, 2)) hthird, show (cells.zipIdx 3).mapM f = _ from hrest]
  rfl

/-- A row has the cells of a point after its result and its table. -/
def Shows (columns : List String) (row : Row) (p : Point) : Prop :=
  ∃ result table, row = result :: table :: p.cells columns

theorem Block.row_of_spells {points : List Point} (h : b.Presents columns points)
    {record : List String} {p : Point} (hrecord : b.Spells columns record p) :
    ∃ row, b.row record = .ok row ∧ Shows columns row p := by
  obtain ⟨htext, hlong, _, _⟩ := types_presents h
  obtain ⟨first, result, table, time, cells, rfl, ⟨tableCell, hdecode⟩, htime, hcells⟩ := hrecord
  obtain ⟨resultCell, hresult⟩ := cell_of_text (s := result) htext
  have htable : b.cell 1 table = .ok tableCell := by rw [Block.cell, hlong, hdecode]
  exact ⟨_, row_of_cells h hresult htable htime hcells, resultCell, tableCell, rfl⟩

theorem Block.rows_presents {points : List Point} (h : b.Presents columns points)
    {data : List (List String)} {shown : List Point}
    (hdata : List.Forall₂ (b.Spells columns) data shown) :
    ∃ rows, data.mapM b.row = .ok rows ∧ List.Forall₂ (Shows columns) rows shown := by
  induction hdata with
  | nil => exact ⟨[], rfl, .nil⟩
  | cons hrecord _ ih =>
    obtain ⟨row, hrow, hshows⟩ := row_of_spells h hrecord
    obtain ⟨rows, hrows, hrest⟩ := ih
    refine ⟨row :: rows, ?_, .cons hshows hrest⟩
    rw [mapM_cons_ok hrow, hrows]
    rfl

/-! ## Columns -/

def pointTable (columns : List String) (rows : List Row) : Table := ⟨givenColumns ++ columns, rows⟩

variable {rows : List Row}

theorem place?_of_not_given {name : String} (h : name ∉ givenColumns) :
    (pointTable columns rows).place? name =
      (columns.findIdx? (· == name)).map (· + 3) := by
  have hgiven : givenColumns.findIdx? (· == name) = none := by
    rw [List.findIdx?_eq_none_iff]
    intro given hmem
    rw [beq_eq_false_iff_ne]
    exact fun heq => h (heq ▸ hmem)
  rw [Table.place?, pointTable, List.findIdx?_append, hgiven]
  rfl

theorem cellAt_of_shows {row : Row} {p : Point} (hrow : Shows columns row p) {name : String}
    (hgiven : name ∉ givenColumns) (hname : name ∈ columns) :
    row.cellAt ((pointTable columns rows).place? name) = .integer (p.value name) := by
  obtain ⟨result, table, rfl⟩ := hrow
  have hcell := Table.cellAt_map columns (fun column => .integer (p.value column)) name
  rw [if_pos hname] at hcell
  rw [place?_of_not_given hgiven]
  refine Eq.trans ?_ hcell
  cases columns.findIdx? (· == name) <;> rfl

theorem reported?_of_error {points : List Point} (hrows : List.Forall₂ (Shows columns) rows points)
    (h : "error" ∈ columns) :
    Block.reported? (pointTable columns rows) = some "unknown store error" := by
  have hgiven : "error" ∉ givenColumns := by decide
  have hplace : ((pointTable columns rows).place? "error").isSome := by
    rw [Table.place?_isSome_iff]
    exact List.mem_append_right _ h
  obtain ⟨place, hplace⟩ := Option.isSome_iff_exists.1 hplace
  unfold Block.reported? errorColumn
  rw [hplace]
  cases rows with
  | nil => rfl
  | cons row rows =>
    obtain ⟨p, _, hrow, _, _⟩ := List.forall₂_cons_left_iff.1 hrows
    have hcell : row.cellAt ((pointTable columns (row :: rows)).place? "error") =
        .integer (p.value "error") := cellAt_of_shows hrow hgiven h
    have hhead : (pointTable columns (row :: rows)).rows.head?.bind (·[place]?) = row[place]? := rfl
    rw [hplace] at hcell
    dsimp only
    rw [hhead]
    cases hget : row[place]? with
    | none => rfl
    | some cell =>
      have hinteger : cell = .integer (p.value "error") := by
        simpa [Row.cellAt, hget] using hcell
      rw [hinteger]

theorem reported?_eq_none (h : "error" ∉ columns) :
    Block.reported? (pointTable columns rows) = none := by
  have hplace : (pointTable columns rows).place? "error" = none := by
    rw [Table.place?_eq_none_iff]
    exact fun hmem => h ((List.mem_append.1 hmem).resolve_left (by decide))
  unfold Block.reported? errorColumn
  rw [hplace]

theorem decode_of_blocks {body first : String} {data : List (List String)}
    (hblocks : blocks (records body) = [b])
    (hbody : b.body = (first :: (givenColumns ++ columns)) :: data) (hrows : data.mapM b.row = .ok rows) :
    decode body = match Block.reported? (pointTable columns rows) with
      | some message => .error (.reported message)
      | none => .ok (splitTable (pointTable columns rows)) := by
  have htable : b.table? = match Block.reported? (pointTable columns rows) with
      | some message => .error (.reported message)
      | none => .ok (some (pointTable columns rows)) := by
    rw [Block.table?, hbody]
    dsimp only
    rw [hrows]
    rfl
  have hdecode : decode body = ((blocks (records body)).mapM Block.table?).map
      fun tables => tables.reduceOption.flatMap splitTable := tablesOfRecords_eq (records body)
  rw [hdecode, hblocks]
  cases hreport : Block.reported? (pointTable columns rows) with
  | some message =>
    rw [hreport] at htable
    rw [mapM_cons_error htable]
    rfl
  | none =>
    rw [hreport] at htable
    rw [mapM_cons_ok htable]
    show Except.ok (splitTable _ ++ []) = _
    rw [List.append_nil]

/-- A text of points is decoded to their table, split, or to an error if a column has the name of one. -/
theorem decode_presents {body : String} {points : List Point} (h : Presents body columns points) :
    ∃ rows, List.Forall₂ (Shows columns) rows points ∧
      decode body = if "error" ∈ columns then .error (.reported "unknown store error")
        else .ok (splitTable (pointTable columns rows)) := by
  obtain ⟨b, hblocks, hb⟩ := h
  obtain ⟨first, data, hbody, hdata⟩ := hb.body
  obtain ⟨rows, hmap, hrows⟩ := Block.rows_presents hb hdata
  refine ⟨rows, hrows, ?_⟩
  rw [decode_of_blocks hblocks hbody hmap]
  by_cases herror : "error" ∈ columns
  · rw [reported?_of_error hrows herror, if_pos herror]
  · rw [reported?_eq_none herror, if_neg herror]

/-! ## Written texts -/

end Csv
end SeriesExport

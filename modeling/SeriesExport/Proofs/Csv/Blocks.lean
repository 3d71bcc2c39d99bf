import Mathlib.Data.List.SplitBy
import Mathlib.Data.List.TakeWhile
import Mathlib.Data.List.ReduceOption
import SeriesExport.Csv.Annotated
import SeriesExport.Proofs.Traversal

/-! Annotated text block by block. Each annotation that does not follow another one begins a block: a
run of annotations, a header and the records of one table. -/
namespace SeriesExport.Csv
set_option autoImplicit false

/-! ## Blocks -/

def isBlank (r : List String) : Bool := r.all String.isEmpty

def isAnnotationRecord (r : List String) : Bool :=
  match r with
  | [] => false
  | first :: _ => first.startsWith "#"

/-- Annotations in sequence, and the records after them. -/
structure Block where
  run : List (List String)
  body : List (List String)

namespace Block

def ofRecords (rs : List (List String)) : Block :=
  ⟨rs.takeWhile isAnnotationRecord, rs.dropWhile isAnnotationRecord⟩

/-- The cells of the last annotation of a name. -/
def last (b : Block) (name : String) : List String :=
  ((b.run.filter fun r => r.head? == some name).getLast?.map List.tail).getD []

def typeAt (b : Block) (i : Nat) : CellType :=
  (((b.last "#datatype")[i]?).map CellType.ofAnnotation).getD .text

/-- A cell of a column, the default in place of an empty one. -/
def filled (b : Block) (i : Nat) (cell : String) : String :=
  if cell.isEmpty then ((b.last "#default")[i]?).getD "" else cell

def cell (b : Block) (i : Nat) (cell : String) : Except DecodeError Cell :=
  (b.typeAt i).decode (b.filled i cell)

def row (b : Block) (r : List String) : Except DecodeError Row :=
  r.tail.zipIdx.mapM fun (s, i) => b.cell i s

/-- The message of a table that reports an error: the text under `error` in its first row. -/
def reported? (t : Table) : Option String :=
  match t.place? errorColumn with
  | none => none
  | some place =>
    match t.rows.head?.bind (·[place]?) with
    | some (.text message) => some message
    | _ => some "unknown store error"

def table? (b : Block) : Except DecodeError (Option Table) :=
  match b.body with
  | [] => .ok none
  | header :: data => do
    let table : Table := ⟨header.tail, ← data.mapM b.row⟩
    match reported? table with
    | some message => throw (.reported message)
    | none => return some table

end Block

/-- Whether two records in sequence are in one block. -/
def joined (r s : List String) : Bool := isAnnotationRecord r || !isAnnotationRecord s

def blocks (rs : List (List String)) : List Block :=
  ((rs.filter fun r => !isBlank r).splitBy joined).map .ofRecords

/-- How records are cut into blocks: only the first may lack annotations, and only the last a header. -/
structure Cuts (rs : List (List String)) (bs : List Block) : Prop where
  records_eq : bs.flatMap (fun b => b.run ++ b.body) = rs.filter fun r => !isBlank r
  run : ∀ b ∈ bs, ∀ r ∈ b.run, isAnnotationRecord r = true
  body : ∀ b ∈ bs, ∀ r ∈ b.body, isAnnotationRecord r = false
  linked : bs.IsChain fun a b => a.body ≠ [] ∧ b.run ≠ []

/-- After a record that is no annotation there is none in its block. -/
theorem plain_of_joined {r : List String} {rs : List (List String)}
    (h : (r :: rs).IsChain fun a b => joined a b = true) (hr : isAnnotationRecord r = false) :
    ∀ s ∈ r :: rs, isAnnotationRecord s = false := by
  induction rs generalizing r with
  | nil =>
    intro s hs
    rw [List.mem_singleton.1 hs]
    exact hr
  | cons b rs ih =>
    obtain ⟨hab, htail⟩ := List.isChain_cons_cons.1 h
    have hb : isAnnotationRecord b = false := by simpa [joined, hr] using hab
    intro s hs
    rcases List.mem_cons.1 hs with rfl | hs
    · exact hr
    · exact ih htail hb s hs

theorem plain_dropWhile {rs : List (List String)} (h : rs.IsChain fun a b => joined a b = true) :
    ∀ r ∈ rs.dropWhile isAnnotationRecord, isAnnotationRecord r = false := by
  induction rs with
  | nil => exact fun r hr => nomatch hr
  | cons a rs ih =>
    by_cases ha : isAnnotationRecord a = true
    · rw [List.dropWhile_cons_of_pos ha]
      exact ih h.tail
    · rw [List.dropWhile_cons_of_neg ha]
      exact plain_of_joined h (Bool.eq_false_iff.2 ha)

theorem cuts_blocks (rs : List (List String)) : Cuts rs (blocks rs) where
  records_eq := by
    have hparts : ∀ b : List (List String),
        (Block.ofRecords b).run ++ (Block.ofRecords b).body = b := fun b =>
      List.takeWhile_append_dropWhile
    unfold blocks
    rw [List.flatMap_map]
    simp only [hparts]
    rw [List.flatMap_id', List.flatten_splitBy]
  run := by
    intro b hb r hr
    obtain ⟨part, _, rfl⟩ := List.mem_map.1 hb
    exact List.mem_takeWhile_imp hr
  body := by
    intro b hb
    obtain ⟨part, hpart, rfl⟩ := List.mem_map.1 hb
    exact plain_dropWhile (List.isChain_of_mem_splitBy hpart)
  linked := by
    unfold blocks
    rw [List.isChain_map]
    refine (List.isChain_getLast_head_splitBy joined _).imp ?_
    rintro a b ⟨ha, hb, hab⟩
    rw [joined, Bool.or_eq_false_iff, Bool.not_eq_false'] at hab
    constructor
    · intro hnil
      have hall := List.dropWhile_eq_nil_iff.1 hnil (a.getLast ha) (List.getLast_mem ha)
      rw [hab.1] at hall
      cases hall
    · obtain ⟨first, rest, rfl⟩ := List.exists_cons_of_ne_nil hb
      have hrun : (Block.ofRecords (first :: rest)).run = first :: rest.takeWhile isAnnotationRecord :=
        List.takeWhile_cons_of_pos hab.2
      rw [hrun]
      exact List.cons_ne_nil _ _

end SeriesExport.Csv

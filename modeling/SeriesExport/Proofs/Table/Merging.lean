import SeriesExport.Proofs.Table.Alignment
import SeriesExport.Proofs.Table.ColumnOrder

/-! Merging in chunks. A merged table has the columns of its parts in the order of their first
appearance, and every row of the parts laid out under them. Main statements: `unites_iff`, that
nothing else is such a table, and `merge_in_chunks`, that laying rows out twice, first under the
columns of their chunk and then under those of all, gives what laying them out at once does. -/
namespace SeriesExport.Table
set_option autoImplicit false

/-! ## Names that are united -/

theorem unite_append (names front back : List String) :
    unite names (front ++ back) = unite (unite names front) back := by
  induction front generalizing names with
  | nil => rfl
  | cons name front ih =>
    rw [List.cons_append, unite, unite]
    split
    · exact ih names
    · exact ih (names ++ [name])

theorem unite_cons (names rest : List String) (name : String) :
    unite names (name :: rest) = unite (unite names [name]) rest :=
  unite_append names [name] rest

/-- Names that are there already, and annotations, add nothing. -/
theorem unite_of_known {names rest : List String}
    (h : ∀ name ∈ rest, isAnnotationColumn name = false → name ∈ names) : unite names rest = names := by
  induction rest with
  | nil => rfl
  | cons name rest ih =>
    have hskip : (isAnnotationColumn name || names.contains name) = true := by
      have hname := h name List.mem_cons_self
      cases hplain : isAnnotationColumn name with
      | true => rfl
      | false => simpa using hname hplain
    rw [unite, if_pos hskip]
    exact ih fun other hother => h other (List.mem_cons_of_mem name hother)

theorem unite_of_new {names : List String} {name : String} (hplain : isAnnotationColumn name = false)
    (h : name ∉ names) : unite names [name] = names ++ [name] := by
  have hkeep : ¬ (isAnnotationColumn name || names.contains name) = true := by
    simp [hplain, h]
  rw [unite, if_neg hkeep]
  rfl

/-- Names may be united among themselves before they are added to others. -/
theorem unite_unite (names seen rest : List String) :
    unite names (unite seen rest) = unite (unite names seen) rest := by
  induction rest generalizing seen with
  | nil => rfl
  | cons name rest ih =>
    by_cases hknown : isAnnotationColumn name = false → name ∈ seen
    · have hseen : unite seen [name] = seen :=
        unite_of_known (List.forall_mem_singleton.2 hknown)
      have hunited : unite (unite names seen) [name] = unite names seen :=
        unite_of_known (List.forall_mem_singleton.2 fun hplain =>
          mem_unite.2 (Or.inr ⟨hknown hplain, hplain⟩))
      rw [unite_cons seen, hseen, ih, unite_cons (unite names seen), hunited]
    · obtain ⟨hplain, hnew⟩ := Classical.not_imp.1 hknown
      rw [unite_cons seen, unite_of_new hplain hnew, ih, unite_append, ← unite_cons]

/-- Entries of which each adds the same names in two ways, add the same together. -/
theorem unite_flatMap_congr {α : Type} {f g : α → List String} {entries : List α}
    (h : ∀ a ∈ entries, ∀ names, unite names (f a) = unite names (g a)) (names : List String) :
    unite names (entries.flatMap f) = unite names (entries.flatMap g) := by
  induction entries generalizing names with
  | nil => rfl
  | cons a entries ih =>
    rw [List.flatMap_cons, List.flatMap_cons, unite_append, unite_append, h a List.mem_cons_self]
    exact ih (fun b hb => h b (List.mem_cons_of_mem a hb)) (unite names (g a))

/-! ## The columns of a merged table -/

theorem unitedColumns_eq (ts : List Table) :
    unitedColumns ts = unite [] (ts.flatMap columns) := by
  have hfold : ∀ names, ts.foldl (fun names t => unite names t.columns) names =
      unite names (ts.flatMap columns) := by
    induction ts with
    | nil => exact fun names => rfl
    | cons t ts ih =>
      intro names
      rw [List.foldl_cons, ih, List.flatMap_cons, unite_append]
  exact hfold []

/-- Going through the headers, one name is met before another one. -/
def MetBefore (headers : List String) (a b : String) : Prop := headers.idxOf a < headers.idxOf b

/-- The names gathered so far are the plain ones of the headers behind, each where it was met first. -/
theorem metBefore_unite {past names : List String} (rest : List String)
    (hmem : ∀ name, name ∈ names ↔ name ∈ past ∧ isAnnotationColumn name = false)
    (h : names.Pairwise (MetBefore past)) :
    (unite names rest).Pairwise (MetBefore (past ++ rest)) := by
  induction rest generalizing past names with
  | nil =>
    rw [List.append_nil]
    exact h
  | cons name rest ih =>
    have hplace {other : String} (hother : other ∈ names) :
        (past ++ [name]).idxOf other = past.idxOf other :=
      List.idxOf_append_of_mem ((hmem other).1 hother).1
    have hnames : names.Pairwise (MetBefore (past ++ [name])) := by
      refine h.imp_of_mem fun {a b} ha hb hab => ?_
      rw [MetBefore, hplace ha, hplace hb]
      exact hab
    rw [unite_cons, List.append_cons]
    by_cases hknown : isAnnotationColumn name = false → name ∈ names
    · rw [unite_of_known (List.forall_mem_singleton.2 hknown)]
      refine ih (fun other => ?_) hnames
      have hmet : other = name → isAnnotationColumn other = false → other ∈ past := by
        rintro rfl hplain
        exact ((hmem other).1 (hknown hplain)).1
      simp only [hmem, List.mem_append, List.mem_singleton]
      grind
    · obtain ⟨hplain, hnew⟩ := Classical.not_imp.1 hknown
      have hunmet : name ∉ past := fun hmet => hnew ((hmem name).2 ⟨hmet, hplain⟩)
      rw [unite_of_new hplain hnew]
      refine ih (fun other => ?_) ?_
      · simp only [List.mem_append, List.mem_singleton, hmem]
        grind
      · refine List.pairwise_append.2 ⟨hnames, List.pairwise_singleton _ _, ?_⟩
        intro other hother last hlast
        have hlt := List.idxOf_lt_length_iff.2 ((hmem other).1 hother).1
        rw [List.mem_singleton.1 hlast, MetBefore, hplace hother,
          List.idxOf_append_of_notMem hunmet]
        omega

theorem metBefore_unitedColumns (ts : List Table) :
    (unitedColumns ts).Pairwise (MetBefore (ts.flatMap columns)) := by
  rw [unitedColumns_eq]
  exact @metBefore_unite [] [] _ (by simp) List.Pairwise.nil

theorem nodup_of_metBefore {headers names : List String} (h : names.Pairwise (MetBefore headers)) :
    names.Nodup := by
  refine h.imp ?_
  rintro a _ hbefore rfl
  exact Nat.lt_irrefl _ hbefore

/-- No other names in no other order are met in this way. -/
theorem eq_of_metBefore {headers names others : List String}
    (hmem : ∀ name, name ∈ names ↔ name ∈ others) (h : names.Pairwise (MetBefore headers))
    (hothers : others.Pairwise (MetBefore headers)) : names = others := by
  have hperm : names.Perm others :=
    (List.perm_ext_iff_of_nodup (nodup_of_metBefore h) (nodup_of_metBefore hothers)).2 hmem
  exact hperm.eq_of_pairwise (fun a b _ _ hab hba => absurd hba (Nat.lt_asymm hab)) h hothers

/-! ## Merged tables -/

/-- A table that holds others: their columns but for annotations, once each and as they are met, and
over all of them a row for each row. -/
structure Unites (ts : List Table) (merged : Table) : Prop extends Rectangular merged where
  mem_columns : ∀ name, name ∈ merged.columns ↔
    (∃ t ∈ ts, name ∈ t.columns) ∧ name ≠ "result" ∧ name ≠ "table"
  metBefore : merged.columns.Pairwise (MetBefore (ts.flatMap columns))
  rows : List.Forall₂ (fun source => ShownAs merged.columns source.1 source.2)
    (Answer.records ts).sources merged.rows

theorem unites_iff {ts : List Table} {merged : Table} : Unites ts merged ↔ merged = merge ts := by
  have hmem (name : String) : name ∈ unitedColumns ts ↔
      (∃ t ∈ ts, name ∈ t.columns) ∧ name ≠ "result" ∧ name ≠ "table" := by
    rw [mem_unitedColumns, isAnnotationColumn_eq_false_iff]
  constructor
  · intro h
    have hcolumns : merged.columns = unitedColumns ts :=
      eq_of_metBefore (fun name => (h.mem_columns name).trans (hmem name).symm) h.metBefore
        (metBefore_unitedColumns ts)
    have hrows : (ts.flatMap fun t => t.project merged.columns) = merged.rows :=
      Answer.flatMap_project_eq_iff.2 h.rows
    rw [hcolumns] at hrows
    show Table.mk merged.columns merged.rows = Table.mk (unitedColumns ts) _
    rw [hcolumns, ← hrows]
  · rintro rfl
    have hmet := metBefore_unitedColumns ts
    refine ⟨⟨nodup_of_metBefore hmet, ?_⟩, hmem, hmet, Answer.flatMap_project_eq_iff.1 rfl⟩
    intro row hrow
    obtain ⟨t, _, hrow⟩ := List.mem_flatMap.1 hrow
    exact length_of_mem_project hrow

/-! ## Chunks -/

theorem unitedColumns_chunks (chunks : List (List Table)) :
    unitedColumns (chunks.map merge) = unitedColumns chunks.flatten := by
  rw [unitedColumns_eq, unitedColumns_eq, List.flatMap_map, ← List.flatMap_id, List.flatMap_assoc]
  refine unite_flatMap_congr (fun ts _ names => ?_) []
  show unite names (unitedColumns ts) = unite names (ts.flatMap columns)
  rw [unitedColumns_eq, unite_unite]
  rfl

theorem merge_chunks (chunks : List (List Table)) :
    merge (chunks.map merge) = merge chunks.flatten := by
  have hrows {names : List String} (hplain : ∀ name ∈ names, isAnnotationColumn name = false) :
      ((chunks.map merge).flatMap fun t => t.project names) =
        chunks.flatten.flatMap fun t => t.project names := by
    rw [List.flatMap_map, ← List.flatMap_id, List.flatMap_assoc]
    exact List.flatMap_congr fun ts _ => project_merge ts hplain
  show Table.mk (unitedColumns (chunks.map merge)) _ = Table.mk (unitedColumns chunks.flatten) _
  rw [unitedColumns_chunks, hrows fun name hname => (mem_unitedColumns.1 hname).2]

/-- Tables can be merged chunk by chunk: no cell is moved, lost or added on the way through the frame
of a chunk. -/
theorem merge_in_chunks (ts us : List Table) :
    merge (ts ++ us) = merge [merge ts, merge us] ∧ merge [merge ts] = merge ts ∧
      Unites ts (merge ts) := by
  have htwo := merge_chunks [ts, us]
  have hone := merge_chunks [ts]
  rw [List.flatten_cons, List.flatten_singleton] at htwo
  rw [List.flatten_singleton] at hone
  exact ⟨htwo.symm, hone, unites_iff.2 rfl⟩

example :
    merge [merge [⟨["table", "x", "x"], [[.integer 0, .integer 1, .integer 2]]⟩],
        merge [⟨["y", "x"], [[.integer 3], [.integer 4, .integer 5, .integer 6]]⟩]] =
      ⟨["x", "y"], [[.integer 1, .missing], [.missing, .integer 3], [.integer 5, .integer 4]]⟩ :=
  rfl

end SeriesExport.Table

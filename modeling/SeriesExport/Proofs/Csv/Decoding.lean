import SeriesExport.Proofs.Csv.Blocks

/-! Reading annotated text record by record gives the tables of its blocks: an annotation that begins a
block closes the table before it, and the records of a block touch nothing but the table that is open.
Main statement: `decode_eq_blocks`, that a text is decoded to the tables of its blocks or to the first
error in one of them. -/
namespace SeriesExport.Csv
set_option autoImplicit false

/-! ## One record -/

theorem read_blank (r : Reader) {record : List String} (h : isBlank record = true) :
    r.read record = .ok r := by
  cases record with
  | nil => rfl
  | cons first cells => exact if_pos h

theorem foldlM_read_filter (r : Reader) (rs : List (List String)) :
    rs.foldlM Reader.read r = (rs.filter fun record => !isBlank record).foldlM Reader.read r := by
  induction rs generalizing r with
  | nil => rfl
  | cons record rs ih =>
    by_cases hb : isBlank record = true
    · rw [List.foldlM_cons, read_blank r hb, List.filter_cons_of_neg (by simp [hb])]
      exact ih r
    · rw [List.foldlM_cons, List.filter_cons_of_pos (by simp [hb]), List.foldlM_cons]
      exact congrArg _ (funext ih)

def note (a : Annotations) (record : List String) : Annotations :=
  Reader.annotate a (record.headD "") record.tail

def OpenTable.append (t : OpenTable) (rows : List Row) : OpenTable :=
  { t with table := { t.table with rows := t.table.rows ++ rows } }

variable {r : Reader} {record : List String}

theorem read_annotation_next (ha : isAnnotationRecord record = true) (hb : isBlank record = false)
    (hr : r.inAnnotations = true) :
    r.read record = .ok { r with annotations := note r.annotations record } := by
  cases record with
  | nil => cases ha
  | cons first cells =>
    have hblank : ¬ (first :: cells).all String.isEmpty = true := Bool.eq_false_iff.1 hb
    have hhash : first.startsWith "#" = true := ha
    rw [Reader.read, if_neg hblank, if_pos hhash, if_pos hr]
    rfl

/-- The first annotation of a block closes the table before it. -/
theorem read_annotation_first (ha : isAnnotationRecord record = true) (hb : isBlank record = false)
    (hr : r.inAnnotations = false) : r.read record = do
      let closed ← r.close
      return { closed with annotations := note {} record, inAnnotations := true } := by
  cases record with
  | nil => cases ha
  | cons first cells =>
    have hblank : ¬ (first :: cells).all String.isEmpty = true := Bool.eq_false_iff.1 hb
    have hhash : first.startsWith "#" = true := ha
    have hfirst : ¬ r.inAnnotations = true := Bool.eq_false_iff.1 hr
    rw [Reader.read, if_neg hblank, if_pos hhash, if_neg hfirst]
    cases r.close <;> rfl

theorem read_header (ha : isAnnotationRecord record = false) (hb : isBlank record = false)
    (hr : r.current = none) : r.read record =
      .ok ⟨r.tables, some ⟨r.annotations, ⟨record.tail, []⟩⟩, {}, false⟩ := by
  cases record with
  | nil => cases hb
  | cons first cells =>
    have hblank : ¬ (first :: cells).all String.isEmpty = true := Bool.eq_false_iff.1 hb
    have hhash : ¬ first.startsWith "#" = true := Bool.eq_false_iff.1 ha
    rw [Reader.read, if_neg hblank, if_neg hhash, hr]
    rfl

theorem read_data {t : OpenTable} (ha : isAnnotationRecord record = false) (hb : isBlank record = false)
    (hr : r.current = some t) : r.read record = do
      let row ← t.annotations.decodeRow record.tail
      return { r with current := some (t.append [row]), inAnnotations := false } := by
  cases record with
  | nil => cases hb
  | cons first cells =>
    have hblank : ¬ (first :: cells).all String.isEmpty = true := Bool.eq_false_iff.1 hb
    have hhash : ¬ first.startsWith "#" = true := Bool.eq_false_iff.1 ha
    rw [Reader.read, if_neg hblank, if_neg hhash, hr]
    rfl

/-! ## Annotations in sequence -/

theorem foldlM_annotations {run : List (List String)}
    (hrun : ∀ record ∈ run, isAnnotationRecord record = true ∧ isBlank record = false)
    (hr : r.inAnnotations = true) :
    run.foldlM Reader.read r = .ok { r with annotations := run.foldl note r.annotations } := by
  induction run generalizing r with
  | nil => rfl
  | cons record run ih =>
    obtain ⟨ha, hb⟩ := hrun record List.mem_cons_self
    rw [List.foldlM_cons, read_annotation_next ha hb hr]
    have hrest := ih (r := { r with annotations := note r.annotations record })
      (fun s hs => hrun s (List.mem_cons_of_mem _ hs)) hr
    exact hrest

/-- Reading the annotations of a block, if it has any; without any it has to be the first. -/
theorem foldlM_run {run : List (List String)}
    (hrun : ∀ record ∈ run, isAnnotationRecord record = true ∧ isBlank record = false)
    (hr : r.inAnnotations = false) (hfirst : run = [] → r.current = none ∧ r.annotations = {}) :
    run.foldlM Reader.read r = do
      let closed ← r.close
      return { closed with annotations := run.foldl note {}, inAnnotations := !run.isEmpty } := by
  cases run with
  | nil =>
    obtain ⟨hcurrent, hannotations⟩ := hfirst rfl
    obtain ⟨tables, current, annotations, inAnnotations⟩ := r
    subst hcurrent hannotations hr
    rfl
  | cons record run =>
    obtain ⟨ha, hb⟩ := hrun record List.mem_cons_self
    rw [List.foldlM_cons, read_annotation_first ha hb hr]
    cases r.close with
    | error e => rfl
    | ok closed =>
      exact foldlM_annotations (fun s hs => hrun s (List.mem_cons_of_mem _ hs)) rfl

theorem foldlM_data {data : List (List String)} {t : OpenTable}
    (hdata : ∀ record ∈ data, isAnnotationRecord record = false ∧ isBlank record = false)
    (hcurrent : r.current = some t) (hr : r.inAnnotations = false) :
    data.foldlM Reader.read r = do
      let rows ← data.mapM fun record => t.annotations.decodeRow record.tail
      return { r with current := some (t.append rows) } := by
  induction data generalizing r t with
  | nil =>
    obtain ⟨tables, current, annotations, inAnnotations⟩ := r
    subst hcurrent
    have hsame : t.append [] = t := by simp [OpenTable.append]
    rw [List.foldlM_nil, List.mapM_nil]
    show _ = Except.ok _
    rw [hsame]
    rfl
  | cons record data ih =>
    obtain ⟨ha, hb⟩ := hdata record List.mem_cons_self
    rw [List.foldlM_cons, read_data ha hb hcurrent]
    let f := fun record : List String => t.annotations.decodeRow record.tail
    cases hrow : f record with
    | error e =>
      rw [mapM_cons_error hrow, show t.annotations.decodeRow record.tail = .error e from hrow]
      rfl
    | ok row =>
      have hrest := ih
        (r := { r with current := some (t.append [row]), inAnnotations := false })
        (fun s hs => hdata s (List.mem_cons_of_mem _ hs)) rfl rfl
      rw [mapM_cons_ok hrow, show t.annotations.decodeRow record.tail = .ok row from hrow]
      refine Eq.trans hrest ?_
      show ((data.mapM f).bind fun rows => Except.ok _) = _
      cases data.mapM f with
      | error e => rfl
      | ok rows =>
        have happend : (t.append [row]).append rows = t.append (row :: rows) := by
          simp [OpenTable.append]
        show Except.ok _ = Except.ok _
        rw [happend, hr]

/-! ## Annotations of a block -/

theorem Block.last_append (run body : List (List String)) (record : List String) (name : String) :
    (Block.mk (run ++ [record]) body).last name =
      if record.head? = some name then record.tail else (Block.mk run body).last name := by
  by_cases h : record.head? = some name
  · simp [Block.last, List.filter_append, h]
  · simp [Block.last, List.filter_append, h]

def Block.annotations (b : Block) : Annotations :=
  ⟨(b.last "#datatype").map CellType.ofAnnotation, b.last "#default"⟩

theorem foldl_note (b : Block) : b.run.foldl note {} = b.annotations := by
  obtain ⟨run, body⟩ := b
  induction run using List.reverseRecOn with
  | nil => rfl
  | append_singleton run record ih =>
    show (run ++ [record]).foldl note {} = _
    rw [List.foldl_concat, show run.foldl note {} = _ from ih]
    unfold Block.annotations note
    rw [Block.last_append, Block.last_append]
    cases record with
    | nil => rfl
    | cons first cells =>
      simp only [List.headD_cons, List.head?_cons, List.tail_cons, Option.some.injEq]
      unfold Reader.annotate
      split_ifs with htype hdefault hdefault
      · rw [htype] at hdefault
        exact absurd hdefault (by decide)
      · rfl
      · rfl
      · rfl

theorem decodeRow_annotations (b : Block) (record : List String) :
    b.annotations.decodeRow record.tail = b.row record := by
  unfold Annotations.decodeRow Block.row Block.cell Block.typeAt Block.filled Block.annotations
  simp only [List.getElem?_map]

theorem OpenTable.close_eq (t : OpenTable) : t.close =
    match Block.reported? t.table with
    | some message => .error (.reported message)
    | none => .ok t.table := by
  unfold OpenTable.close Block.reported?
  cases t.table.place? errorColumn with
  | none => rfl
  | some place =>
    dsimp only
    cases t.table.rows.head?.bind (·[place]?) with
    | none => rfl
    | some cell => cases cell <;> rfl

theorem close_of_none (hr : r.current = none) : r.close = .ok r := by
  rw [Reader.close, hr]

theorem close_of_some {t : OpenTable} (hr : r.current = some t) : r.close =
    match Block.reported? t.table with
    | some message => .error (.reported message)
    | none => .ok { r with tables := r.tables ++ [t.table], current := none } := by
  rw [Reader.close, hr]
  show t.close.bind _ = _
  rw [t.close_eq]
  cases Block.reported? t.table <;> rfl

theorem current_of_close {closed : Reader} (h : r.close = .ok closed) : closed.current = none := by
  cases hcurrent : r.current with
  | none =>
    rw [close_of_none hcurrent] at h
    cases h
    exact hcurrent
  | some t =>
    rw [close_of_some hcurrent] at h
    cases hreport : Block.reported? t.table with
    | some message =>
      rw [hreport] at h
      cases h
    | none =>
      rw [hreport] at h
      cases h
      rfl

/-! ## Block by block -/

/-- What reading the records of a block makes of a reader without an open table. -/
def afterBlock (b : Block) (r : Reader) : Except DecodeError Reader :=
  match b.body with
  | [] => .ok { r with annotations := b.annotations, inAnnotations := !b.run.isEmpty }
  | header :: data => do
    let rows ← data.mapM b.row
    return ⟨r.tables, some ⟨b.annotations, ⟨header.tail, rows⟩⟩, {}, false⟩

variable {b : Block}

theorem afterBlock_of_nil (hb : b.body = []) : afterBlock b r =
    .ok { r with annotations := b.annotations, inAnnotations := !b.run.isEmpty } := by
  rw [afterBlock, hb]

theorem afterBlock_of_cons {header : List String} {data : List (List String)}
    (hb : b.body = header :: data) : afterBlock b r = (data.mapM b.row).map fun rows =>
      ⟨r.tables, some ⟨b.annotations, ⟨header.tail, rows⟩⟩, {}, false⟩ := by
  rw [afterBlock, hb]
  show (data.mapM b.row).bind _ = _
  cases data.mapM b.row <;> rfl

theorem foldlM_block
    (hrun : ∀ record ∈ b.run, isAnnotationRecord record = true ∧ isBlank record = false)
    (hbody : ∀ record ∈ b.body, isAnnotationRecord record = false ∧ isBlank record = false)
    (hr : r.inAnnotations = false) (hfirst : b.run = [] → r.current = none ∧ r.annotations = {}) :
    (b.run ++ b.body).foldlM Reader.read r = r.close.bind (afterBlock b) := by
  rw [List.foldlM_append, foldlM_run hrun hr hfirst, foldl_note]
  cases hclose : r.close with
  | error e => rfl
  | ok closed =>
    show b.body.foldlM Reader.read
      { closed with annotations := b.annotations, inAnnotations := !b.run.isEmpty } = afterBlock b closed
    cases hb : b.body with
    | nil =>
      rw [afterBlock_of_nil hb, List.foldlM_nil]
      rfl
    | cons header data =>
      rw [hb] at hbody
      obtain ⟨hplain, hblank⟩ := hbody header List.mem_cons_self
      have hheader := read_header (r := { closed with
        annotations := b.annotations, inAnnotations := !b.run.isEmpty }) hplain hblank
        (show closed.current = none from current_of_close hclose)
      have hdata := foldlM_data
        (r := ⟨closed.tables, some ⟨b.annotations, ⟨header.tail, []⟩⟩, {}, false⟩)
        (fun record h => hbody record (List.mem_cons_of_mem _ h)) rfl rfl
      simp only [decodeRow_annotations] at hdata
      rw [List.foldlM_cons, hheader, afterBlock_of_cons hb]
      refine Eq.trans hdata ?_
      cases data.mapM b.row <;> rfl

/-- A block adds its table, or its error, when it is closed. -/
theorem close_afterBlock (hr : r.current = none) :
    ((afterBlock b r).bind Reader.close).map Reader.tables =
      b.table?.map fun table => r.tables ++ [table].reduceOption := by
  unfold Block.table?
  cases hb : b.body with
  | nil =>
    have hclose := close_of_none
      (r := { r with annotations := b.annotations, inAnnotations := !b.run.isEmpty }) hr
    rw [afterBlock_of_nil hb]
    show (Reader.close _).map _ = Except.ok (r.tables ++ [])
    rw [hclose, List.append_nil]
    rfl
  | cons header data =>
    rw [afterBlock_of_cons hb]
    dsimp only
    cases data.mapM b.row with
    | error e => rfl
    | ok rows =>
      let read : Reader := ⟨r.tables, some ⟨b.annotations, ⟨header.tail, rows⟩⟩, {}, false⟩
      have hclose := close_of_some (r := read) rfl
      show read.close.map Reader.tables = _
      rw [hclose]
      show Except.map _ (match Block.reported? ⟨header.tail, rows⟩ with
        | some message => Except.error (DecodeError.reported message)
        | none => _) = Except.map _ (match Block.reported? ⟨header.tail, rows⟩ with
        | some message => throw (DecodeError.reported message)
        | none => _)
      cases Block.reported? ⟨header.tail, rows⟩ <;> rfl

theorem inAnnotations_of_afterBlock {read : Reader} (hb : b.body ≠ [])
    (h : afterBlock b r = .ok read) : read.inAnnotations = false := by
  obtain ⟨header, data, hbody⟩ := List.exists_cons_of_ne_nil hb
  rw [afterBlock_of_cons hbody] at h
  cases hrows : data.mapM b.row with
  | error e =>
    rw [hrows] at h
    cases h
  | ok rows =>
    rw [hrows] at h
    cases h
    rfl

/-- Reading blocks one after another gives their tables, after the one that was open before. -/
theorem foldlM_blocks (bs : List Block)
    (hrun : ∀ b ∈ bs, ∀ record ∈ b.run, isAnnotationRecord record = true ∧ isBlank record = false)
    (hbody : ∀ b ∈ bs, ∀ record ∈ b.body, isAnnotationRecord record = false ∧ isBlank record = false)
    (hlinked : bs.IsChain fun a b => a.body ≠ [] ∧ b.run ≠ [])
    (hstart : ∀ b ∈ bs.head?,
      r.inAnnotations = false ∧ (b.run = [] → r.current = none ∧ r.annotations = {})) :
    (((bs.flatMap fun b => b.run ++ b.body).foldlM Reader.read r).bind Reader.close).map Reader.tables =
      (r.close.map Reader.tables).bind fun before =>
        (bs.mapM Block.table?).map fun tables => before ++ tables.reduceOption := by
  induction bs generalizing r with
  | nil =>
    show r.close.map Reader.tables = _
    cases r.close with
    | error e => rfl
    | ok closed =>
      show Except.ok closed.tables = Except.ok (closed.tables ++ [])
      rw [List.append_nil]
  | cons b bs ih =>
    obtain ⟨hr, hfirst⟩ := hstart b rfl
    have hblock := foldlM_block (hrun b List.mem_cons_self) (hbody b List.mem_cons_self) hr hfirst
    rw [List.flatMap_cons, List.foldlM_append, hblock]
    cases hclose : r.close with
    | error e => rfl
    | ok closed =>
      have hclosed := close_afterBlock (b := b) (current_of_close hclose)
      show (((afterBlock b closed).bind fun read =>
        (bs.flatMap fun b => b.run ++ b.body).foldlM Reader.read read).bind _).map _ =
          ((b :: bs).mapM Block.table?).map _
      cases hafter : afterBlock b closed with
      | error e =>
        rw [hafter] at hclosed
        cases htable : b.table? with
        | error e' =>
          rw [htable] at hclosed
          rw [mapM_cons_error htable]
          exact congrArg Except.error (Except.error.inj hclosed)
        | ok table =>
          rw [htable] at hclosed
          cases hclosed
      | ok read =>
        rw [hafter] at hclosed
        have hrest := ih (r := read)
          (fun c hc => hrun c (List.mem_cons_of_mem _ hc))
          (fun c hc => hbody c (List.mem_cons_of_mem _ hc)) hlinked.tail
          (by
            intro c hc
            obtain ⟨hne, hcrun⟩ := hlinked.rel_head? hc
            exact ⟨inAnnotations_of_afterBlock hne hafter, fun hnil => absurd hnil hcrun⟩)
        refine Eq.trans hrest ?_
        rw [show read.close.map Reader.tables = _ from hclosed]
        cases htable : b.table? with
        | error e =>
          rw [mapM_cons_error htable]
          rfl
        | ok table =>
          rw [mapM_cons_ok htable]
          show (bs.mapM Block.table?).map _ = _
          cases bs.mapM Block.table? with
          | error e => rfl
          | ok tables =>
            show Except.ok (closed.tables ++ [table].reduceOption ++ tables.reduceOption) =
              Except.ok (closed.tables ++ ([table] ++ tables).reduceOption)
            rw [List.reduceOption_append, List.append_assoc]

theorem tablesOfRecords_eq (rs : List (List String)) : tablesOfRecords rs =
    ((blocks rs).mapM Block.table?).map fun tables => tables.reduceOption.flatMap splitTable := by
  have hcuts := cuts_blocks rs
  have hblank : ∀ b ∈ blocks rs, ∀ record ∈ b.run ++ b.body, isBlank record = false := by
    intro b hb record hrecord
    have hmem : record ∈ (blocks rs).flatMap fun b => b.run ++ b.body :=
      List.mem_flatMap.2 ⟨b, hb, hrecord⟩
    rw [hcuts.records_eq] at hmem
    simpa using List.of_mem_filter hmem
  have hread := foldlM_blocks (r := {}) (blocks rs)
    (fun b hb s hs => ⟨hcuts.run b hb s hs, hblank b hb s (List.mem_append_left _ hs)⟩)
    (fun b hb s hs => ⟨hcuts.body b hb s hs, hblank b hb s (List.mem_append_right _ hs)⟩)
    hcuts.linked (fun b _ => ⟨rfl, fun _ => ⟨rfl, rfl⟩⟩)
  rw [hcuts.records_eq, ← foldlM_read_filter] at hread
  have hsplit : tablesOfRecords rs =
      (((rs.foldlM Reader.read {}).bind Reader.close).map Reader.tables).map
        fun tables => tables.flatMap splitTable := by
    unfold tablesOfRecords
    show (rs.foldlM Reader.read {}).bind _ = _
    cases rs.foldlM Reader.read {} with
    | error e => rfl
    | ok read =>
      show read.close.bind _ = (read.close.map _).map _
      cases read.close <;> rfl
  rw [hsplit, hread]
  show (((blocks rs).mapM Block.table?).map _).map _ = _
  cases (blocks rs).mapM Block.table? <;> rfl

/-! ## Errors -/

end SeriesExport.Csv

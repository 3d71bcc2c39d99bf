import SeriesExport.Execution
import SeriesExport.Proofs.Plan.Draining

/-! What running a domain files. Every query leaves its output under its name, and every item is shown,
unless an item with a query of its own takes the name of the windowed query of its domain. -/
namespace SeriesExport
set_option autoImplicit false

variable {buckets : Buckets} {store : Store} {domain : String} {items : List Item}

/-! ## Running compiled queries -/

/-- In its turn, the store answers the call with the domain, the program of a query and the form it
wants, and the query makes these rows of the answer. -/
def Answers (store : Store) (domain : String) (turn : Nat) (q : NamedQuery) (rows : List Row) :
    Prop :=
  ∃ a, store turn ⟨domain, q.query.program.text, q.query.wantsFrame⟩ = .ok a ∧
    q.query.repack a = .ok rows

def NamedQuery.output (q : NamedQuery) (rows : List Row) : Output :=
  ⟨q.query.strategy, q.query.columns, rows⟩

/-- The outputs of queries that are run one after another from a turn on. -/
def entriesFrom (rows : Nat → List Row) : (turn : Nat) → List NamedQuery → List (String × Output)
  | _, [] => []
  | turn, q :: qs => (q.name, q.output (rows turn)) :: entriesFrom rows (turn + 1) qs

theorem names_entriesFrom (rows : Nat → List Row) (turn : Nat) (qs : List NamedQuery) :
    (entriesFrom rows turn qs).map Prod.fst = qs.map NamedQuery.name := by
  induction qs generalizing turn with
  | nil => rfl
  | cons q qs ih => exact congrArg (q.name :: ·) (ih (turn + 1))

theorem mem_entriesFrom (rows : Nat → List Row) (turn : Nat) {qs : List NamedQuery} {k : Nat}
    (hk : k < qs.length) :
    (qs[k].name, qs[k].output (rows (turn + k))) ∈ entriesFrom rows turn qs := by
  induction qs generalizing turn k with
  | nil => exact absurd hk (Nat.not_lt_zero k)
  | cons q qs ih =>
    cases k with
    | zero => exact List.mem_cons_self
    | succ k =>
      have h := ih (turn + 1) (Nat.lt_of_succ_lt_succ hk)
      have hturn : turn + 1 + k = turn + (k + 1) := by omega
      rw [hturn] at h
      exact List.mem_cons_of_mem _ h

theorem Answers.output_eq {turn : Nat} {q : NamedQuery} {rows : List Row}
    (h : Answers store domain turn q rows) :
    (store turn (callOf domain q)).bind (outputOf q) = .ok (q.output rows) := by
  obtain ⟨a, ha, hrows⟩ := h
  rw [callOf, ha]
  change outputOf q a = _
  rw [outputOf, hrows]
  rfl

theorem runQueries_result {qs : List NamedQuery} (rows : Nat → List Row) (turn : Nat)
    (outputs : DomainOutput)
    (h : ∀ k (hk : k < qs.length), Answers store domain (turn + k) qs[k] (rows (turn + k))) :
    (runQueries store domain turn outputs qs).result =
      .ok (outputs.insertAll (entriesFrom rows turn qs)) := by
  induction qs generalizing turn outputs with
  | nil => rfl
  | cons q qs ih =>
    have hfirst : Answers store domain turn q (rows turn) := h 0 (Nat.succ_pos _)
    have hrest : ∀ k (hk : k < qs.length),
        Answers store domain (turn + 1 + k) qs[k] (rows (turn + 1 + k)) := by
      intro k hk
      have hlater := h (k + 1) (Nat.succ_lt_succ hk)
      have hturn : turn + (k + 1) = turn + 1 + k := by omega
      rw [hturn] at hlater
      exact hlater
    rw [runQueries, hfirst.output_eq, entriesFrom, SortedMap.insertAll_cons]
    exact ih (turn + 1) _ hrest

theorem compileAll_ok (qs : List NamedQuery) : compileAll (qs.map .ok) = .ok qs := by
  unfold compileAll
  induction qs with
  | nil => rfl
  | cons q qs ih =>
    rw [List.map_cons, List.mapM_cons, ih]
    rfl

namespace Plan

theorem executeDomain_result {p : Plan} {qs : List NamedQuery} {rows : Nat → List Row}
    (hqs : p.queries buckets domain = qs.map .ok)
    (hrows : ∀ k (hk : k < qs.length), Answers store domain k qs[k] (rows k)) :
    (p.executeDomain buckets store domain).result =
      .ok (SortedMap.empty.insertAll (entriesFrom rows 0 qs)) := by
  rw [executeDomain, hqs, compileAll_ok]
  refine runQueries_result rows 0 .empty fun k hk => ?_
  rw [Nat.zero_add]
  exact hrows k hk

/-! ## The names of compiled queries -/

theorem names_own {own : List Item} {qs : List NamedQuery}
    (hw : ∀ i ∈ own, i.exporter.isWindowed = false)
    (hqs : qs.map .ok = own.map (Item.ownResult buckets)) :
    qs.map NamedQuery.name = own.map Item.exportName ∧
      ∀ i ∈ own, ∃ q ∈ qs, q.name = i.exportName ∧ q.query.strategy = .single i.exporter := by
  induction own generalizing qs with
  | nil =>
    rw [List.map_nil, List.map_eq_nil_iff] at hqs
    rw [hqs]
    exact ⟨rfl, fun i hi => absurd hi List.not_mem_nil⟩
  | cons i own ih =>
    obtain ⟨q, rest, rfl, hq, hrest⟩ := List.map_eq_cons_iff.1 hqs
    obtain ⟨hnames, hall⟩ := ih (fun j hj => hw j (List.mem_cons_of_mem i hj)) hrest
    obtain ⟨_, h⟩ | ⟨_, _, h⟩ | ⟨_, _, q', _, h, hname, hstrategy⟩ :=
      i.ownResult_cases buckets (hw i List.mem_cons_self)
    · cases hq.trans h
    · cases hq.trans h
    · cases hq.trans h
      rw [List.map_cons, List.map_cons, hname, hnames]
      refine ⟨rfl, fun j hj => ?_⟩
      rcases List.mem_cons.1 hj with rfl | hj
      · exact ⟨q, List.mem_cons_self, hname, hstrategy⟩
      · obtain ⟨q', hq', h'⟩ := hall j hj
        exact ⟨q', List.mem_cons_of_mem q hq', h'⟩

/-- Where all results of a domain are queries, those are the queries of its own items and, if there are
windowed items, one for them all. -/
theorem split_queries {qs : List NamedQuery} (hqs : resultsOf buckets domain items = qs.map .ok) :
    ∃ own last, qs = own ++ last ∧
      own.map .ok = (ownItems domain items).map (Item.ownResult buckets) ∧
      (windowedItems domain items = [] ∧ last = [] ∨
        windowedItems domain items ≠ [] ∧ ∃ q, last = [⟨windowedName, .windowed q⟩] ∧
          q.channels.map Channel.item = windowedItems domain items) := by
  obtain ⟨own, others, rfl, hown, hothers⟩ := List.map_eq_append_iff.1 hqs.symm
  obtain ⟨errors, last, rfl, herrors, hlast⟩ := List.map_eq_append_iff.1 hothers
  -- An error of a windowed item would be among the results.
  have hrefused : refusedOf buckets domain items = [] := by
    cases hr : refusedOf buckets domain items with
    | nil => rfl
    | cons e es =>
      rw [hr] at herrors
      obtain ⟨_, _, _, h, _⟩ := List.map_eq_cons_iff.1 herrors
      cases h
  have hnil : errors = [] := by
    rw [hrefused] at herrors
    exact List.map_eq_nil_iff.1 herrors
  refine ⟨own, last, by rw [hnil, List.nil_append], hown, ?_⟩
  obtain ⟨hne, _, q, hq, hchannels⟩ | ⟨hnone, hmerged⟩ := mergedOf_cases buckets domain items
  · rw [hq] at hlast
    obtain ⟨r, rest, rfl, hr, hrest⟩ := List.map_eq_cons_iff.1 hlast
    cases hr
    rw [List.map_eq_nil_iff.1 hrest]
    exact Or.inr ⟨hne, q, rfl, hchannels⟩
  · rw [hmerged] at hlast
    exact Or.inl ⟨hnone.resolve_right (not_not_intro hrefused), List.map_eq_nil_iff.1 hlast⟩

theorem Holds.nodup_names {p : Plan} (h : p.Holds items) (domain : String) :
    ((ownItems domain items ++ windowedItems domain items).map Item.exportName).Nodup := by
  rw [ownItems_append_windowedItems, ((inOrder_perm domain items).map _).nodup_iff]
  exact h.distinct.sublist (List.filter_sublist.map _)

end Plan

/-! ## What is filed -/

/-- Every query has an entry of its own, which holds its output. -/
structure DomainOutput.Files (outputs : DomainOutput) (qs : List NamedQuery)
    (rows : Nat → List Row) : Prop where
  size_eq : outputs.size = qs.length
  get?_eq : ∀ k (hk : k < qs.length), outputs.get? qs[k].name = some (qs[k].output (rows k))

/-- An item stands under its name with its strategy, or as a channel of the windowed query. -/
def Item.ShownIn (i : Item) (outputs : DomainOutput) : Prop :=
  if i.exporter.isWindowed then
    ∃ o names, outputs.get? windowedName = some o ∧ o.strategy = .channels names ∧
      names.get? i.exportName = some i.exporter ∧ i.exportName ∈ o.columns
  else ∃ o, outputs.get? i.exportName = some o ∧ o.strategy = .single i.exporter

theorem files_of_nodup {qs : List NamedQuery} (rows : Nat → List Row)
    (h : (qs.map NamedQuery.name).Nodup) :
    DomainOutput.Files (SortedMap.empty.insertAll (entriesFrom rows 0 qs)) qs rows := by
  rw [← names_entriesFrom rows 0] at h
  have hlength : (entriesFrom rows 0 qs).length = qs.length := by
    have hnames := congrArg List.length (names_entriesFrom rows 0 qs)
    rwa [List.length_map, List.length_map] at hnames
  constructor
  · rw [SortedMap.size_insertAll _ h fun _ _ => rfl, hlength]
    exact Nat.zero_add _
  · intro k hk
    have hmem := mem_entriesFrom rows 0 hk
    rw [Nat.zero_add] at hmem
    exact SortedMap.get?_insertAll _ h hmem

theorem DomainOutput.Files.get?_of_mem {outputs : DomainOutput} {qs : List NamedQuery}
    {rows : Nat → List Row} (h : outputs.Files qs rows) {q : NamedQuery} (hq : q ∈ qs) :
    ∃ data, outputs.get? q.name = some (q.output data) := by
  obtain ⟨k, hk, rfl⟩ := List.mem_iff_getElem.1 hq
  exact ⟨rows k, h.get?_eq k hk⟩

theorem get?_strategies {q : WindowedQuery} {items : List Item} {i : Item}
    (hchannels : q.channels.map Channel.item = items) (hnodup : (items.map Item.exportName).Nodup)
    (hi : i ∈ items) : q.strategies.get? i.exportName = some i.exporter := by
  subst hchannels
  obtain ⟨c, hc, rfl⟩ := List.mem_map.1 hi
  have hkeys : ((q.channels.map fun c => (c.item.exportName, c.item.exporter)).map Prod.fst).Nodup := by
    rw [List.map_map] at hnodup ⊢
    exact hnodup
  exact SortedMap.get?_insertAll SortedMap.empty hkeys (List.mem_map_of_mem hc)

namespace Plan

/-- An item with a query of its own has the name of the windowed query, and there is one. -/
def WindowedNameTaken (domain : String) (items : List Item) : Prop :=
  (∃ i ∈ ownItems domain items, i.exportName = windowedName) ∧ windowedItems domain items ≠ []

theorem not_files_of_taken {outputs : DomainOutput} {qs : List NamedQuery} {rows : Nat → List Row}
    (hqs : resultsOf buckets domain items = qs.map .ok) (htaken : WindowedNameTaken domain items) :
    ¬ outputs.Files qs rows := by
  intro hfiles
  obtain ⟨⟨i, hi, hname⟩, hne⟩ := htaken
  obtain ⟨own, last, rfl, hown, hlast⟩ := split_queries hqs
  obtain ⟨hnil, _⟩ | ⟨_, w, rfl, _⟩ := hlast
  · exact hne hnil
  obtain ⟨_, hqueries⟩ := names_own (fun i hi => (mem_ownItems.1 hi).2.2) hown
  obtain ⟨q, hq, hqname, hstrategy⟩ := hqueries i hi
  obtain ⟨_, hsingle⟩ := hfiles.get?_of_mem (List.mem_append_left _ hq)
  obtain ⟨_, hchannels⟩ := hfiles.get?_of_mem (List.mem_append_right own List.mem_cons_self)
  rw [hqname, hname, hchannels] at hsingle
  -- The same entry cannot report the strategy of one item and the channels of many.
  have hsame := congrArg Output.strategy (Option.some.inj hsingle)
  change QueryStrategy.channels _ = q.query.strategy at hsame
  rw [hstrategy] at hsame
  cases hsame

theorem nodup_queries {p : Plan} {qs : List NamedQuery} (hp : p.Holds items)
    (hqs : resultsOf buckets domain items = qs.map .ok)
    (hfree : ¬ WindowedNameTaken domain items) : (qs.map NamedQuery.name).Nodup := by
  obtain ⟨own, last, rfl, hown, hlast⟩ := split_queries hqs
  obtain ⟨hnames, _⟩ := names_own (fun i hi => (mem_ownItems.1 hi).2.2) hown
  have hnodup := hp.nodup_names domain
  rw [List.map_append, List.nodup_append] at hnodup
  rw [List.map_append, hnames]
  obtain ⟨_, rfl⟩ | ⟨hne, w, rfl, _⟩ := hlast
  · rw [List.map_nil, List.append_nil]
    exact hnodup.1
  · refine List.nodup_append.2 ⟨hnodup.1, List.nodup_singleton _, ?_⟩
    rintro a ha b hb rfl
    obtain ⟨i, hi, hia⟩ := List.mem_map.1 ha
    exact hfree ⟨⟨i, hi, hia.trans (List.mem_singleton.1 hb)⟩, hne⟩

theorem shownIn_of_files {p : Plan} {outputs : DomainOutput} {qs : List NamedQuery}
    {rows : Nat → List Row} (hp : p.Holds items) (hqs : resultsOf buckets domain items = qs.map .ok)
    (hfiles : outputs.Files qs rows) {i : Item} (hi : i ∈ items) (hd : i.domain = domain) :
    i.ShownIn outputs := by
  obtain ⟨own, last, rfl, hown, hlast⟩ := split_queries hqs
  unfold Item.ShownIn
  by_cases hw : i.exporter.isWindowed = true
  · have hwindowed : i ∈ windowedItems domain items := mem_windowedItems.2 ⟨hi, hd, hw⟩
    rw [if_pos hw]
    obtain ⟨hnil, _⟩ | ⟨_, w, rfl, hchannels⟩ := hlast
    · rw [hnil] at hwindowed
      exact absurd hwindowed List.not_mem_nil
    obtain ⟨data, hdata⟩ := hfiles.get?_of_mem (List.mem_append_right own List.mem_cons_self)
    have hnodup := hp.nodup_names domain
    rw [List.map_append, List.nodup_append] at hnodup
    refine ⟨_, w.strategies, hdata, rfl, get?_strategies hchannels hnodup.2.1 hwindowed, ?_⟩
    change i.exportName ∈ "_time" :: w.channels.map fun c => c.item.exportName
    rw [← hchannels] at hwindowed
    obtain ⟨c, hc, rfl⟩ := List.mem_map.1 hwindowed
    exact List.mem_cons_of_mem _ (List.mem_map.2 ⟨c, hc, rfl⟩)
  · obtain ⟨_, hqueries⟩ := names_own (fun i hi => (mem_ownItems.1 hi).2.2) hown
    obtain ⟨q, hq, hname, hstrategy⟩ :=
      hqueries i (mem_ownItems.2 ⟨hi, hd, Bool.eq_false_iff.2 hw⟩)
    obtain ⟨data, hdata⟩ := hfiles.get?_of_mem (List.mem_append_left last hq)
    rw [if_neg hw]
    rw [hname] at hdata
    exact ⟨_, hdata, hstrategy⟩

/-- Where all queries of a domain compile and are answered, every result and every item is in the
outputs exactly when no item takes the name of the windowed query. -/
theorem executeDomain_files_iff {offered : List Item} {qs : List NamedQuery} {rows : Nat → List Row}
    (hqs : (empty.offerAll offered).queries buckets domain = qs.map .ok)
    (hrows : ∀ k (hk : k < qs.length), Answers store domain k qs[k] (rows k)) :
    (∃ outputs : DomainOutput,
      ((empty.offerAll offered).executeDomain buckets store domain).result = .ok outputs ∧
        outputs.Files qs rows ∧
        ∀ i ∈ empty.accepted offered, i.domain = domain → i.ShownIn outputs) ↔
      ¬ WindowedNameTaken domain (empty.accepted offered) := by
  have hp := holds_offerAll offered
  have hresult := executeDomain_result hqs hrows
  rw [hp.queries_eq] at hqs
  constructor
  · rintro ⟨outputs, _, hfiles, _⟩ htaken
    exact not_files_of_taken hqs htaken hfiles
  · intro hfree
    have hfiles := files_of_nodup rows (nodup_queries hp hqs hfree)
    exact ⟨_, hresult, hfiles, fun i hi hd => shownIn_of_files hp hqs hfiles hi hd⟩

/-! ## A plant with two exports -/

/-- A minute and half a second from the epoch on. -/
def shortSpan : Span where
  start := .epoch
  stop := ⟨60, 500000000, by decide, by decide, by decide⟩
  width := ⟨60500000000⟩
  windowCount := 4
  windowWidth := ⟨15125000000⟩
  windowSource := .count

/-- The power of a plant, under a name. -/
def powerItem (exportName : String) (exporter : Strategy) : Item where
  domain := "plant"
  span := shortSpan
  exportName
  measurement := "power"
  exporter

/-- All points under one name, and windows under another. -/
def powerItems (exportName : String) : List Item :=
  [powerItem exportName .raw, powerItem "a" .windowedMean]

def powerQueries (exportName : String) : List NamedQuery :=
  [⟨exportName, (powerItem exportName .raw).ownQuery (.ofItem "b" (powerItem exportName .raw))⟩,
    ⟨windowedName, .windowed ⟨shortSpan, [.ofItem "b" (powerItem "a" .windowedMean)]⟩⟩]

def powerStore : Store :=
  fun _ _ => .ok (.records [⟨["_time", "power", "a"], [[.integer 1, .integer 5, .integer 7]]⟩])

def powerRows : Nat → List Row
  | 0 => [[.integer 1, .integer 5]]
  | _ => [[.integer 1, .integer 7]]

theorem answers_power (exportName : String) (k : Nat) (hk : k < (powerQueries exportName).length) :
    Answers powerStore "plant" k (powerQueries exportName)[k] (powerRows k) := by
  match k, hk with
  | 0, _ => exact ⟨_, rfl, rfl⟩
  | 1, _ => exact ⟨_, rfl, rfl⟩

theorem power_filed : ∃ outputs : DomainOutput,
    ((empty.offerAll (powerItems "p")).executeDomain (fun _ => some "b") powerStore
      "plant").result = .ok outputs ∧ outputs.Files (powerQueries "p") powerRows ∧
      ∀ i ∈ empty.accepted (powerItems "p"), i.domain = "plant" → i.ShownIn outputs := by
  refine (executeDomain_files_iff rfl (answers_power "p")).2 ?_
  rintro ⟨⟨i, hi, hname⟩, _⟩
  have hown : ownItems "plant" (empty.accepted (powerItems "p")) = [powerItem "p" .raw] := rfl
  rw [hown, List.mem_singleton] at hi
  subst hi
  exact absurd hname (by decide)

/-- Under the name of the windowed query, the points of the plant are lost. -/
theorem power_lost : ∃ outputs : DomainOutput,
    (empty.offerAll (powerItems "windowed")).queries (fun _ => some "b") "plant" =
      (powerQueries "windowed").map .ok ∧
    ((empty.offerAll (powerItems "windowed")).executeDomain (fun _ => some "b") powerStore
      "plant").result = .ok outputs ∧ ¬ outputs.Files (powerQueries "windowed") powerRows ∧
      outputs.size = 1 := by
  have hqs : (empty.offerAll (powerItems "windowed")).queries (fun _ => some "b") "plant" =
      (powerQueries "windowed").map .ok := rfl
  refine ⟨_, hqs, executeDomain_result hqs (answers_power "windowed"), ?_, rfl⟩
  intro hfiles
  have hsize := hfiles.size_eq
  exact absurd hsize (by decide)

end Plan
end SeriesExport

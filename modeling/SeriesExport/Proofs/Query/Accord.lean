import SeriesExport.Proofs.Query.Channels
import SeriesExport.Proofs.SortedMap
import SeriesExport.Proofs.Traversal

/-! Channels agree with the first of them, although only that one is looked up. Main statement:
`offers_accord`, with what the finished query then reports and reads. -/
namespace SeriesExport
open Flux
set_option autoImplicit false

theorem Strategy.channelAggregator?_eq_some {s : Strategy} {a : Aggregator}
    (h : s.channelAggregator? = some a) :
    (a = .mean ↔ s = .windowedMean) ∧ (a = .sum ↔ s = .windowedSum) := by
  unfold channelAggregator? at h
  split at h
  · cases h
    decide
  · cases h
    decide
  · cases h

namespace ChannelList

/-! ## Additions in place -/

/-- Appends a channel once nothing is left to refuse it. -/
def enter (shape : RecordShape) (i : Item) : EStateM QueryError ChannelList Unit := do
  MonadExcept.ofExcept shape.requireLoneValue
  match i.exporter.channelAggregator? with
  | none => throw (.unsupportedAggregator i.exporter)
  | some aggregator =>
    let table := identifier i.exportName
    let bucket ← MonadExcept.ofExcept ((← get).bucketFor i table)
    modify fun cs =>
      { cs with channels := cs.channels ++ [⟨i, table, .ofItem bucket i, aggregator⟩] }

/-- In place or not, the outcome is the same, and an error finds the channels as they were. -/
theorem enter_eq (shape : RecordShape) (i : Item) (cs : ChannelList) : enter shape i cs =
    match cs.add shape i with
    | .ok more => .ok () more
    | .error e => .error e cs := by
  unfold enter add
  cases shape with
  | fields names => rfl
  | loneValue =>
    cases i.exporter.channelAggregator? with
    | none => rfl
    | some aggregator =>
      show (do
        let bucket ← MonadExcept.ofExcept (cs.bucketFor i (identifier i.exportName))
        modify fun cs => { cs with channels := cs.channels ++
          [⟨i, identifier i.exportName, .ofItem bucket i, aggregator⟩] } :
          EStateM QueryError ChannelList Unit) cs = _
      cases hbucket : cs.bucketFor i (identifier i.exportName) with
      | error e =>
        simp only [RecordShape.requireLoneValue, bind, Except.bind, hbucket]
        rfl
      | ok bucket =>
        simp only [RecordShape.requireLoneValue, bind, Except.bind, hbucket]
        rfl

theorem attemptAll_enter (cs : ChannelList) (offered : List (RecordShape × Item)) :
    attemptAll (fun o => enter o.1 o.2) offered cs = cs.offerAll offered := by
  refine attemptAll_eq_foldl (fun o cs => ?_) offered cs
  rw [enter_eq, offer]
  cases cs.add o.1 o.2 with
  | ok more => exact Or.inl rfl
  | error e => exact Or.inr ⟨e, rfl⟩

/-! ## Channels of a run of offers -/

/-- The channels are those of the offers taken, in order. They have the domain and the span of the
first, and each selects its item in the bucket of its domain. -/
structure Accords (buckets : Buckets) (cs : ChannelList) (taken : List (RecordShape × Item)) : Prop
    extends Apart cs.channels where
  buckets_eq : cs.buckets = buckets
  items_eq : cs.channels.map Channel.item = taken.map Prod.snd
  domain_eq : ∀ first ∈ cs.channels.head?, ∀ c ∈ cs.channels, c.item.domain = first.item.domain
  alike : ∀ first ∈ cs.channels.head?, ∀ c ∈ cs.channels, c.item.span.Alike first.item.span
  mean_iff : ∀ c ∈ cs.channels, c.aggregator = .mean ↔ c.item.exporter = .windowedMean
  sum_iff : ∀ c ∈ cs.channels, c.aggregator = .sum ↔ c.item.exporter = .windowedSum
  selector_eq : ∀ c ∈ cs.channels, ∃ bucket, buckets c.item.domain = some bucket ∧
    c.selector = .ofItem bucket c.item

theorem accords_empty (buckets : Buckets) : Accords buckets { buckets } [] where
  toApart := apart_nil
  buckets_eq := rfl
  items_eq := rfl
  domain_eq _ _ _ hc := absurd hc List.not_mem_nil
  alike _ _ _ hc := absurd hc List.not_mem_nil
  mean_iff _ hc := absurd hc List.not_mem_nil
  sum_iff _ hc := absurd hc List.not_mem_nil
  selector_eq _ hc := absurd hc List.not_mem_nil

section
variable {buckets : Buckets} {cs : ChannelList} {taken : List (RecordShape × Item)}

/-- The bucket taken over from the first channel is that of the domain. -/
theorem Accords.bucket_eq (h : Accords buckets cs taken) {i : Item} {table bucket : String}
    (hbucket : cs.bucketFor i table = .ok bucket) : buckets i.domain = some bucket := by
  obtain ⟨_, hfound⟩ | ⟨first, hfirst, hdomain, _, _, rfl⟩ := bucketFor_cases hbucket
  · rw [← h.buckets_eq]
    exact hfound
  · obtain ⟨bucket, hfound, hselector⟩ := h.selector_eq first (List.mem_of_head? hfirst)
    rw [hdomain, hselector, hfound]
    rfl

theorem agrees_of_bucketFor {i : Item} {table bucket : String}
    (hbucket : cs.bucketFor i table = .ok bucket) : ∀ first ∈ cs.channels.head?,
      i.domain = first.item.domain ∧ i.span.Alike first.item.span := by
  intro first hfirst
  obtain ⟨hnil, _⟩ | ⟨_, hhead, hdomain, halike, _⟩ := bucketFor_cases hbucket
  · rw [hnil] at hfirst
    cases hfirst
  · rw [hhead] at hfirst
    cases hfirst
    exact ⟨hdomain, halike⟩

theorem Accords.add {more : ChannelList} {o : RecordShape × Item} (h : Accords buckets cs taken)
    (hadd : cs.add o.1 o.2 = .ok more) : Accords buckets more (taken ++ [o]) := by
  have hapart := h.toApart.add hadd
  obtain ⟨_, aggregator, bucket, haggregator, hbucket, rfl⟩ := add_eq_ok_iff.1 hadd
  obtain ⟨hmean, hsum⟩ := Strategy.channelAggregator?_eq_some haggregator
  have hagrees := agrees_of_bucketFor hbucket
  have hselector : ∃ found, buckets o.2.domain = some found ∧
      Selector.ofItem bucket o.2 = .ofItem found o.2 := ⟨bucket, h.bucket_eq hbucket, rfl⟩
  -- The first of the channels stays the first, unless the new one is alone.
  have hfirst : ∀ first ∈ (cs.channels ++ [(⟨o.2, identifier o.2.exportName, .ofItem bucket o.2,
      aggregator⟩ : Channel)]).head?, first ∈ cs.channels.head? ∨
        cs.channels = [] ∧ first.item = o.2 := by
    intro first hfirst
    cases hcs : cs.channels with
    | nil =>
      rw [hcs] at hfirst
      cases hfirst
      exact Or.inr ⟨rfl, rfl⟩
    | cons c rest =>
      rw [hcs] at hfirst
      exact Or.inl hfirst
  exact {
    toApart := hapart
    buckets_eq := h.buckets_eq
    items_eq := by
      rw [List.map_append, List.map_append, h.items_eq]
      rfl
    domain_eq := by
      intro first hmem
      refine List.forall_mem_append.2 ⟨fun c hc => ?_, List.forall_mem_singleton.2 ?_⟩
      · obtain hold | ⟨hnil, _⟩ := hfirst first hmem
        · exact h.domain_eq first hold c hc
        · rw [hnil] at hc
          cases hc
      · obtain hold | ⟨_, hitem⟩ := hfirst first hmem
        · exact (hagrees first hold).1
        · rw [hitem]
    alike := by
      intro first hmem
      refine List.forall_mem_append.2 ⟨fun c hc => ?_, List.forall_mem_singleton.2 ?_⟩
      · obtain hold | ⟨hnil, _⟩ := hfirst first hmem
        · exact h.alike first hold c hc
        · rw [hnil] at hc
          cases hc
      · obtain hold | ⟨_, hitem⟩ := hfirst first hmem
        · exact (hagrees first hold).2
        · rw [hitem]
          exact .refl o.2.span
    mean_iff := List.forall_mem_append.2 ⟨h.mean_iff, List.forall_mem_singleton.2 hmean⟩
    sum_iff := List.forall_mem_append.2 ⟨h.sum_iff, List.forall_mem_singleton.2 hsum⟩
    selector_eq :=
      List.forall_mem_append.2 ⟨h.selector_eq, List.forall_mem_singleton.2 hselector⟩ }

end

theorem accords_offerAll (buckets : Buckets) (offered : List (RecordShape × Item)) :
    Accords buckets (offerAll { buckets } offered) (accepted { buckets } offered) :=
  offerAll_induction Accords.add offered (accords_empty buckets)

/-- Names that became different variables were different. -/
theorem Accords.nodup_names {buckets : Buckets} {cs : ChannelList}
    {taken : List (RecordShape × Item)} (h : Accords buckets cs taken) :
    (cs.channels.map fun c => c.item.exportName).Nodup := by
  have hnodup := h.nodup
  rw [List.map_congr_left h.table_eq] at hnodup
  exact .of_map identifier (by rwa [List.map_map])

/-- A run of accepted offers alone gives the same channels. -/
theorem offerAll_accepted (cs : ChannelList) (offered : List (RecordShape × Item)) :
    cs.offerAll (cs.accepted offered) = cs.offerAll offered := by
  induction offered generalizing cs with
  | nil => rfl
  | cons o rest ih =>
    unfold accepted offerAll
    rw [List.foldl_cons]
    cases hmore : cs.add o.1 o.2 with
    | ok more =>
      rw [List.foldl_cons, offer, hmore]
      exact ih more
    | error e =>
      rw [offer, hmore]
      exact ih cs

end ChannelList

/-! ## The finished query -/

theorem Channel.statements_congr {a b : Span} (h : a.Alike b) (c : Channel) :
    c.statements a = c.statements b := by
  obtain ⟨hstart, hstop, _, _, hwindow⟩ := h
  simp only [statements, rangeBefore, rangeOf, aggregateOver, hstart, hstop, hwindow]

namespace WindowedQuery

/-- A query reports a column and a strategy for each of its items and for nothing else, and reads each
item as the span of the item says. -/
structure Reports (q : WindowedQuery) (items : List Item) : Prop where
  columns_eq : q.columns = "_time" :: items.map Item.exportName
  names_nodup : (items.map Item.exportName).Nodup
  size_eq : q.strategies.size = items.length
  strategy_iff : ∀ name s, q.strategies.get? name = some s ↔
    ∃ i ∈ items, i.exportName = name ∧ i.exporter = s
  program_eq : ∃ last, q.program =
    .statements ((q.channels.flatMap fun c => c.statements c.item.span) ++ [last])

theorem reports_of_accords {buckets : Buckets} {cs : ChannelList}
    {taken : List (RecordShape × Item)} {q : WindowedQuery} (h : cs.Accords buckets taken)
    (hq : ofChannels cs = .ok q) : q.Reports (taken.map Prod.snd) := by
  obtain ⟨first, hfirst, rfl⟩ := ofChannels_eq_ok_iff.1 hq
  have hnames := h.nodup_names
  have hentries : ((cs.channels.map fun c => (c.item.exportName, c.item.exporter)).map
      Prod.fst).Nodup := by
    rw [List.map_map]
    exact hnames
  rw [← h.items_eq]
  constructor
  · rw [List.map_map]
    rfl
  · rw [List.map_map]
    exact hnames
  · rw [strategies, SortedMap.size_ofList hentries, List.length_map, List.length_map]
  · intro name s
    rw [strategies, SortedMap.get?_ofList_eq_some_iff hentries]
    simp only [List.mem_map, Prod.mk.injEq, exists_exists_and_eq_and]
  · have hblocks : cs.channels.flatMap (Channel.statements first.item.span) =
        cs.channels.flatMap fun c => c.statements c.item.span :=
      List.flatMap_congr fun c hc => c.statements_congr (h.alike first hfirst c hc).symm
    rw [program, hblocks]
    exact ⟨_, rfl⟩

/-- A refused offer leaves the channels as they are. After any run of offers they are those of the
accepted ones and agree with the first, as if the others had never been offered. They finish to a
query that reports just them, and only where nothing was accepted there is none. -/
theorem offers_accord (buckets : Buckets) (offered : List (RecordShape × Item)) :
    (∀ shape i cs, ChannelList.enter shape i cs =
        match cs.add shape i with
        | .ok more => .ok () more
        | .error e => .error e cs) ∧
      attemptAll (fun o => ChannelList.enter o.1 o.2) offered { buckets } =
        ChannelList.offerAll { buckets } offered ∧
      (ChannelList.offerAll { buckets } offered).Accords buckets
        (ChannelList.accepted { buckets } offered) ∧
      ChannelList.offerAll { buckets } (ChannelList.accepted { buckets } offered) =
        ChannelList.offerAll { buckets } offered ∧
      match ofChannels (ChannelList.offerAll { buckets } offered) with
      | .ok q => q.Reports ((ChannelList.accepted { buckets } offered).map Prod.snd)
      | .error e => e = .noChannels ∧ ChannelList.accepted { buckets } offered = [] := by
  have h := ChannelList.accords_offerAll buckets offered
  refine ⟨ChannelList.enter_eq, ChannelList.attemptAll_enter { buckets } offered, h,
    ChannelList.offerAll_accepted { buckets } offered, ?_⟩
  split
  · rename_i q hq
    exact reports_of_accords h hq
  · rename_i e he
    unfold ofChannels at he
    split at he
    · rename_i hnil
      cases he
      have hitems := h.items_eq
      rw [hnil] at hitems
      exact ⟨rfl, List.map_eq_nil_iff.1 hitems.symm⟩
    · cases he

end WindowedQuery
end SeriesExport

import SeriesExport.Plan.Queries
import SeriesExport.Proofs.Plan.Runs

/-! Single items of a plan when they are compiled. Main statements: `Generator.compile_eq` for an item
with a query of its own, and `add_channel_eq` for a windowed item after those that are channels. -/
namespace SeriesExport
open Flux
set_option autoImplicit false

/-! ## Results of single items -/

/-- The item names no field but `value`. -/
def Item.HoldsLoneValue (i : Item) : Prop := i.fields = [] ∨ i.fields = ["value"]

instance (i : Item) : Decidable i.HoldsLoneValue := by unfold Item.HoldsLoneValue; infer_instance

theorem Item.shape_of_loneValue {i : Item} (h : i.HoldsLoneValue) : i.shape = .loneValue := by
  unfold shape
  obtain h | h := h
  · rw [h]
  · rw [h]
    rfl

theorem Item.shape_of_not_loneValue {i : Item} (h : ¬ i.HoldsLoneValue) :
    i.shape = .fields i.fields := by
  unfold shape
  split
  · rename_i hf
    exact absurd (Or.inl hf) h
  · rename_i hf
    exact absurd (Or.inr hf) h
  · rfl

def Strategy.pointFilter : Strategy → PointFilter
  | changesOnly => .changes
  | discontinuitiesOnly => .discontinuities .standard
  | _ => .all

def Item.ownQuery (i : Item) (selector : Selector) : Query :=
  match i.exporter.aggregation? with
  | some a => .aggregate ⟨i, selector, a⟩
  | none => .series { item := i, selector, keep := i.exporter.pointFilter }

/-- What is made of an item with a bucket, or the first reason to refuse it. -/
def Item.checked {α : Type} (buckets : Buckets) (i : Item) (f : String → α) : Except QueryError α :=
  if i.HoldsLoneValue then
    match buckets i.domain with
    | some bucket => .ok (f bucket)
    | none => .error (.unknownDomain i.domain)
  else .error (.unsupportedShape i.fields)

def Item.ownResult (buckets : Buckets) (i : Item) : Except QueryError NamedQuery :=
  i.checked buckets fun bucket => ⟨i.exportName, i.ownQuery (.ofItem bucket i)⟩

theorem Item.map_checked {α β : Type} (buckets : Buckets) (i : Item) (f : String → α) (g : α → β) :
    g <$> i.checked buckets f = i.checked buckets fun bucket => g (f bucket) := by
  unfold checked
  split
  · cases buckets i.domain <;> rfl
  · rfl

/-- The checks that all queries of one item begin with. -/
theorem Item.bind_checks {α : Type} (buckets : Buckets) (i : Item) (f : String → α) :
    (do
      i.shape.requireLoneValue
      return f (← buckets.find i.domain)) = i.checked buckets f := by
  unfold checked Buckets.find
  by_cases hl : i.HoldsLoneValue
  · rw [shape_of_loneValue hl, if_pos hl]
    cases buckets i.domain <;> rfl
  · rw [shape_of_not_loneValue hl, if_neg hl]
    rfl

theorem SeriesQuery.compile_eq (buckets : Buckets) (keep : PointFilter) (i : Item) :
    SeriesQuery.compile buckets i.shape keep i =
      i.checked buckets fun bucket => { item := i, selector := .ofItem bucket i, keep } := by
  unfold SeriesQuery.compile
  exact i.bind_checks buckets _

theorem AggregateQuery.compile_eq {i : Item} {a : Aggregation} (buckets : Buckets)
    (ha : i.exporter.aggregation? = some a) : AggregateQuery.compile buckets i.shape i =
      i.checked buckets fun bucket => ⟨i, .ofItem bucket i, a⟩ := by
  unfold AggregateQuery.compile
  rw [ha]
  exact i.bind_checks buckets _

theorem Generator.compile_eq (buckets : Buckets) {i : Item} (hw : i.exporter.isWindowed = false) :
    Generator.compile buckets i =
      i.checked buckets fun bucket => i.ownQuery (.ofItem bucket i) := by
  unfold Generator.compile Item.ownQuery
  cases ha : i.exporter.aggregation? with
  | some a =>
    rw [AggregateQuery.compile_eq buckets ha, Item.map_checked]
    cases hs : i.exporter with
    | raw | changesOnly | discontinuitiesOnly =>
      rw [hs] at ha
      cases ha
    | aggregateMean | aggregateSum | aggregateBand | aggregateCount | windowedMean | windowedSum
    | windowedBand | windowedCount => rfl
  | none =>
    cases hs : i.exporter with
    | raw | changesOnly | discontinuitiesOnly =>
      dsimp only
      rw [SeriesQuery.compile_eq, Item.map_checked]
      rfl
    | aggregateMean | aggregateSum | aggregateBand | aggregateCount =>
      rw [hs] at ha
      cases ha
    | windowedMean | windowedSum | windowedBand | windowedCount =>
      rw [hs] at hw
      cases hw

theorem strategy_ownQuery {i : Item} (hw : i.exporter.isWindowed = false) (selector : Selector) :
    (i.ownQuery selector).strategy = .single i.exporter := by
  obtain ⟨domain, span, exportName, measurement, tags, fields, exporter⟩ := i
  cases exporter <;> first | rfl | cases hw

/-- An item yields its query, or its shape is at fault, or else its domain. -/
theorem Item.ownResult_cases {i : Item} (buckets : Buckets) (hw : i.exporter.isWindowed = false) :
    (¬ i.HoldsLoneValue ∧ i.ownResult buckets = .error (.unsupportedShape i.fields)) ∨
    (i.HoldsLoneValue ∧ buckets i.domain = none ∧
      i.ownResult buckets = .error (.unknownDomain i.domain)) ∨
    (i.HoldsLoneValue ∧ ∃ bucket q, buckets i.domain = some bucket ∧ i.ownResult buckets = .ok q ∧
      q.name = i.exportName ∧ q.query.strategy = .single i.exporter) := by
  unfold ownResult checked
  by_cases hl : i.HoldsLoneValue
  case neg =>
    rw [if_neg hl]
    exact Or.inl ⟨hl, rfl⟩
  rw [if_pos hl]
  cases buckets i.domain with
  | none => exact Or.inr (Or.inl ⟨hl, rfl, rfl⟩)
  | some bucket =>
    exact Or.inr (Or.inr ⟨hl, bucket, _, rfl, rfl, rfl, strategy_ownQuery hw _⟩)

/-! ## Windowed items -/

def Channel.ofItem (bucket : String) (i : Item) : Channel where
  item := i
  table := identifier i.exportName
  selector := .ofItem bucket i
  aggregator := if i.exporter = .windowedSum then .sum else .mean

/-- Why a windowed item is refused by the items that are channels already, if it is. -/
def Item.refusal? (buckets : Buckets) (channels : List Item) (i : Item) : Option QueryError :=
  if ¬ i.HoldsLoneValue then some (.unsupportedShape i.fields)
  else if i.exporter = .windowedBand ∨ i.exporter = .windowedCount then
    some (.unsupportedAggregator i.exporter)
  else if buckets i.domain = none then some (.unknownDomain i.domain)
  else
    (channels.find? fun c => identifier c.exportName == identifier i.exportName).map fun c =>
      .channelMismatch (.table i.exportName c.exportName)

/-- The errors of the windowed items that are refused, one after another. -/
def refusals (buckets : Buckets) (channels : List Item) : List Item → List QueryError
  | [] => []
  | i :: rest =>
    match i.refusal? buckets channels with
    | some e => e :: refusals buckets channels rest
    | none => refusals buckets (channels ++ [i]) rest

theorem Item.refusal?_ne_none_iff {buckets : Buckets} {channels : List Item} {i : Item} :
    i.refusal? buckets channels ≠ none ↔ ¬ i.HoldsLoneValue ∨ i.exporter = .windowedBand ∨
      i.exporter = .windowedCount ∨ buckets i.domain = none ∨
        ∃ c ∈ channels, identifier c.exportName = identifier i.exportName := by
  unfold refusal?
  by_cases hl : i.HoldsLoneValue
  case neg =>
    rw [if_pos hl]
    exact ⟨fun _ => Or.inl hl, fun _ => nofun⟩
  rw [if_neg (not_not_intro hl)]
  by_cases ha : i.exporter = .windowedBand ∨ i.exporter = .windowedCount
  case pos =>
    rw [if_pos ha]
    exact ⟨fun _ => Or.inr (or_assoc.1 (Or.inl ha)), fun _ => nofun⟩
  obtain ⟨hband, hcount⟩ := not_or.1 ha
  rw [if_neg ha]
  by_cases hb : buckets i.domain = none
  case pos =>
    rw [if_pos hb]
    exact ⟨fun _ => Or.inr (Or.inr (Or.inr (Or.inl hb))), fun _ => nofun⟩
  rw [if_neg hb, ne_eq, Option.map_eq_none_iff, ← ne_eq, Option.ne_none_iff_isSome,
    List.find?_isSome]
  simp only [hl, hband, hcount, hb, beq_iff_eq, not_true_eq_false, false_or]

theorem Item.refusal?_cases {buckets : Buckets} {channels : List Item} {i : Item} {e : QueryError}
    (h : i.refusal? buckets channels = some e) : e = .unsupportedShape i.fields ∨
      e = .unsupportedAggregator i.exporter ∨ e = .unknownDomain i.domain ∨
        ∃ c ∈ channels, e = .channelMismatch (.table i.exportName c.exportName) := by
  unfold refusal? at h
  split at h
  · exact Or.inl (Option.some.inj h).symm
  split at h
  · exact Or.inr (Or.inl (Option.some.inj h).symm)
  split at h
  · exact Or.inr (Or.inr (Or.inl (Option.some.inj h).symm))
  · obtain ⟨c, hc, rfl⟩ := Option.map_eq_some_iff.1 h
    exact Or.inr (Or.inr (Or.inr ⟨c, List.mem_of_find?_eq_some hc, rfl⟩))

theorem mem_refusals {buckets : Buckets} {channels items : List Item} {e : QueryError}
    (h : e ∈ refusals buckets channels items) : ∃ i ∈ items, ∃ taken,
      (∀ c ∈ taken, c ∈ channels ++ items) ∧ i.refusal? buckets taken = some e := by
  induction items generalizing channels with
  | nil => exact absurd h List.not_mem_nil
  | cons i rest ih =>
    rw [refusals] at h
    cases hr : i.refusal? buckets channels with
    | some e' =>
      rw [hr] at h
      rcases List.mem_cons.1 h with rfl | h
      · exact ⟨i, List.mem_cons_self, channels, fun c hc => List.mem_append_left _ hc, hr⟩
      · obtain ⟨j, hj, taken, htaken, hje⟩ := ih h
        refine ⟨j, List.mem_cons_of_mem i hj, taken, fun c hc => ?_, hje⟩
        rcases List.mem_append.1 (htaken c hc) with hc | hc
        · exact List.mem_append_left _ hc
        · exact List.mem_append_right _ (List.mem_cons_of_mem i hc)
    | none =>
      rw [hr] at h
      obtain ⟨j, hj, taken, htaken, hje⟩ := ih h
      refine ⟨j, List.mem_cons_of_mem i hj, taken, fun c hc => ?_, hje⟩
      have hin := htaken c hc
      rwa [List.append_assoc, List.singleton_append] at hin

theorem length_refusals (buckets : Buckets) (channels items : List Item) :
    (refusals buckets channels items).length ≤ items.length := by
  induction items generalizing channels with
  | nil => exact Nat.le_refl 0
  | cons i rest ih =>
    rw [refusals]
    cases i.refusal? buckets channels with
    | some e => exact Nat.succ_le_succ (ih channels)
    | none => exact Nat.le_succ_of_le (ih (channels ++ [i]))

/-- Where no windowed item is refused, their domain has a bucket. -/
theorem exists_bucket {buckets : Buckets} {items : List Item} {domain : String}
    (hne : items ≠ []) (hd : ∀ i ∈ items, i.domain = domain)
    (hr : refusals buckets [] items = []) : ∃ bucket, buckets domain = some bucket := by
  cases items with
  | nil => exact absurd rfl hne
  | cons first rest =>
    rw [refusals] at hr
    cases hf : first.refusal? buckets [] with
    | some e =>
      rw [hf] at hr
      cases hr
    | none =>
      have hb : buckets first.domain ≠ none := fun hb =>
        Item.refusal?_ne_none_iff.2 (Or.inr (Or.inr (Or.inr (Or.inl hb)))) hf
      rw [hd first List.mem_cons_self] at hb
      exact Option.ne_none_iff_exists'.1 hb

/-- The channels gathered so far are those of the given items of a domain with a bucket. -/
def ChannelList.Gathers (cs : ChannelList) (buckets : Buckets) (domain : String)
    (items : List Item) : Prop :=
  cs.buckets = buckets ∧ (items = [] ∧ cs.channels = [] ∨
    ∃ bucket, buckets domain = some bucket ∧ cs.channels = items.map (.ofItem bucket))

namespace ChannelList.Gathers

variable {cs : ChannelList} {buckets : Buckets} {domain : String} {items : List Item}

theorem exists_bucket (h : cs.Gathers buckets domain items) (hne : items ≠ []) :
    ∃ bucket, buckets domain = some bucket ∧ cs.channels = items.map (.ofItem bucket) := by
  obtain ⟨_, ⟨hnil, _⟩ | hbucket⟩ := h
  · exact absurd hnil hne
  · exact hbucket

theorem channels_eq_nil_iff (h : cs.Gathers buckets domain items) :
    cs.channels = [] ↔ items = [] := by
  obtain ⟨_, ⟨hnil, hchannels⟩ | ⟨_, _, hchannels⟩⟩ := h
  · exact ⟨fun _ => hnil, fun _ => hchannels⟩
  · rw [hchannels, List.map_eq_nil_iff]

end ChannelList.Gathers

theorem channelAggregator?_eq {i : Item} (hw : i.exporter.isWindowed = true)
    (hs : ¬ (i.exporter = .windowedBand ∨ i.exporter = .windowedCount)) :
    i.exporter.channelAggregator? =
      some (if i.exporter = .windowedSum then .sum else .mean) := by
  cases he : i.exporter with
  | windowedMean | windowedSum => rfl
  | windowedBand => exact absurd (Or.inl he) hs
  | windowedCount => exact absurd (Or.inr he) hs
  | raw | changesOnly | discontinuitiesOnly | aggregateMean | aggregateSum | aggregateBand
  | aggregateCount =>
    rw [he] at hw
    cases hw

theorem find?_channels (bucket : String) (items : List Item) (table : String) :
    (items.map (Channel.ofItem bucket)).find? (fun c => c.table == table) =
      (items.find? fun c => identifier c.exportName == table).map (Channel.ofItem bucket) := by
  rw [List.find?_map]
  rfl

/-- The first channel fixes the bucket, and only a taken variable refuses another item of its domain
and span. -/
theorem bucketFor_eq {cs : ChannelList} {buckets : Buckets} {items : List Item} {i : Item}
    (hcs : cs.Gathers buckets i.domain items) (hd : ∀ c ∈ items, c.domain = i.domain)
    (hs : ∀ c ∈ items, i.span.Alike c.span) : cs.bucketFor i (identifier i.exportName) =
      match buckets i.domain with
      | none => .error (.unknownDomain i.domain)
      | some bucket =>
        match items.find? fun c => identifier c.exportName == identifier i.exportName with
        | some c => .error (.channelMismatch (.table i.exportName c.exportName))
        | none => .ok bucket := by
  -- Without a channel the bucket is looked up; with one it is that of the first channel.
  cases items with
  | nil =>
    unfold ChannelList.bucketFor Buckets.find
    rw [hcs.channels_eq_nil_iff.2 rfl, hcs.1]
    cases buckets i.domain <;> rfl
  | cons first rest =>
    obtain ⟨bucket, hbucket, hchannels⟩ := hcs.exists_bucket (List.cons_ne_nil first rest)
    have hdomain : ¬ i.domain ≠ (Channel.ofItem bucket first).item.domain :=
      not_not_intro (hd first List.mem_cons_self).symm
    have hspan : ¬ ¬ i.span.Alike (Channel.ofItem bucket first).item.span :=
      not_not_intro (hs first List.mem_cons_self)
    unfold ChannelList.bucketFor
    rw [hbucket, hchannels, find?_channels, List.map_cons]
    dsimp only
    rw [if_neg hdomain, if_neg hspan]
    cases (first :: rest).find? fun c => identifier c.exportName == identifier i.exportName <;> rfl

/-- A channel is added exactly where an item is not refused, and then it is the channel of the item. -/
theorem add_channel_eq {cs : ChannelList} {buckets : Buckets} {items : List Item} {i : Item}
    (hw : i.exporter.isWindowed = true) (hcs : cs.Gathers buckets i.domain items)
    (hd : ∀ c ∈ items, c.domain = i.domain) (hs : ∀ c ∈ items, i.span.Alike c.span) :
    match i.refusal? buckets items with
    | some e => cs.add i.shape i = .error e
    | none => ∃ more, cs.add i.shape i = .ok more ∧ more.Gathers buckets i.domain (items ++ [i]) := by
  unfold Item.refusal? ChannelList.add
  by_cases hl : i.HoldsLoneValue
  case neg =>
    rw [if_pos hl, Item.shape_of_not_loneValue hl]
    rfl
  rw [if_neg (not_not_intro hl), Item.shape_of_loneValue hl]
  by_cases ha : i.exporter = .windowedBand ∨ i.exporter = .windowedCount
  · rw [if_pos ha]
    obtain ha | ha := ha
    · rw [ha]
      rfl
    · rw [ha]
      rfl
  rw [if_neg ha, channelAggregator?_eq hw ha]
  dsimp only
  rw [bucketFor_eq hcs hd hs]
  cases hb : buckets i.domain with
  | none =>
    rw [if_pos rfl]
    rfl
  | some bucket =>
    rw [if_neg nofun]
    dsimp only
    cases hf : items.find? fun c => identifier c.exportName == identifier i.exportName with
    | some c => rfl
    | none =>
      refine ⟨_, rfl, hcs.1, Or.inr ⟨bucket, hb, ?_⟩⟩
      obtain ⟨_, ⟨hi, hc⟩ | ⟨bucket', hb', hc⟩⟩ := hcs
      · dsimp only
        rw [hc, hi]
        rfl
      · rw [hb] at hb'
        cases hb'
        dsimp only
        rw [hc, List.map_append]
        rfl

end SeriesExport

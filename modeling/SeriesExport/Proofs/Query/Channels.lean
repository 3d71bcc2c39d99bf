import Mathlib.Data.List.Nodup
import SeriesExport.Query.Windowed

/-! Channels as runs of additions gather them, refused additions among them. Every channel is bound to
the identifier of its export, and no two channels to the same. -/
namespace SeriesExport
open Flux
set_option autoImplicit false

namespace ChannelList

/-! ## One addition -/

theorem add_eq_ok_iff {cs more : ChannelList} {shape : RecordShape} {i : Item} :
    cs.add shape i = .ok more ↔ shape = .loneValue ∧ ∃ aggregator bucket,
      i.exporter.channelAggregator? = some aggregator ∧
      cs.bucketFor i (identifier i.exportName) = .ok bucket ∧
      more = { cs with channels := cs.channels ++
        [⟨i, identifier i.exportName, .ofItem bucket i, aggregator⟩] } := by
  unfold add
  cases shape with
  | fields names =>
    constructor
    · intro h
      cases h
    · rintro ⟨h, _⟩
      cases h
  | loneValue =>
    simp only [RecordShape.requireLoneValue, bind, Except.bind, true_and]
    cases i.exporter.channelAggregator? with
    | none => simp [throw, throwThe, MonadExceptOf.throw]
    | some aggregator =>
      cases cs.bucketFor i (identifier i.exportName) with
      | error e => simp
      | ok bucket => simp [pure, Except.pure, eq_comm]

/-- The bucket of a first channel is looked up; a further channel has that of the first, and gets it
only where it has the same domain and span and its variable is free. -/
theorem bucketFor_cases {cs : ChannelList} {i : Item} {table bucket : String}
    (h : cs.bucketFor i table = .ok bucket) :
    (cs.channels = [] ∧ cs.buckets i.domain = some bucket) ∨
      ∃ first, cs.channels.head? = some first ∧ i.domain = first.item.domain ∧
        i.span.Alike first.item.span ∧ (∀ c ∈ cs.channels, c.table ≠ table) ∧
        bucket = first.selector.bucket := by
  unfold bucketFor at h
  cases hcs : cs.channels with
  | nil =>
    rw [hcs] at h
    exact Or.inl ⟨rfl, Buckets.find_eq_ok_iff.1 h⟩
  | cons first rest =>
    rw [hcs] at h
    dsimp only at h
    split at h
    · cases h
    rename_i hdomain
    split at h
    · cases h
    rename_i hspan
    split at h
    · cases h
    rename_i hfree
    cases h
    refine Or.inr ⟨first, rfl, not_not.1 hdomain, not_not.1 hspan, ?_, rfl⟩
    intro c hc heq
    exact List.find?_eq_none.1 hfree c hc (beq_iff_eq.2 heq)

theorem table_ne_of_bucketFor {cs : ChannelList} {i : Item} {table bucket : String}
    (h : cs.bucketFor i table = .ok bucket) : ∀ c ∈ cs.channels, c.table ≠ table := by
  obtain ⟨hnil, _⟩ | ⟨_, _, _, _, hfree, _⟩ := bucketFor_cases h
  · rw [hnil]
    exact fun _ hc => absurd hc List.not_mem_nil
  · exact hfree

/-! ## Runs -/

/-- The channels after an attempt to add an item; a refused one leaves them as they are. -/
def offer (cs : ChannelList) (shape : RecordShape) (i : Item) : ChannelList :=
  match cs.add shape i with
  | .ok more => more
  | .error _ => cs

def offerAll (cs : ChannelList) (offered : List (RecordShape × Item)) : ChannelList :=
  offered.foldl (fun cs o => cs.offer o.1 o.2) cs

/-- The offers that are accepted. -/
def accepted (cs : ChannelList) : List (RecordShape × Item) → List (RecordShape × Item)
  | [] => []
  | o :: rest =>
    match cs.add o.1 o.2 with
    | .ok more => o :: more.accepted rest
    | .error _ => cs.accepted rest

/-- What every accepted offer keeps up holds after any run of offers. -/
theorem offerAll_induction {motive : ChannelList → List (RecordShape × Item) → Prop}
    (hadd : ∀ {cs more : ChannelList} {taken : List (RecordShape × Item)} {o : RecordShape × Item},
      motive cs taken → cs.add o.1 o.2 = .ok more → motive more (taken ++ [o]))
    {cs : ChannelList} {taken : List (RecordShape × Item)} (offered : List (RecordShape × Item))
    (h : motive cs taken) : motive (cs.offerAll offered) (taken ++ cs.accepted offered) := by
  induction offered generalizing cs taken with
  | nil => simpa [offerAll, accepted] using h
  | cons o rest ih =>
    unfold offerAll accepted
    rw [List.foldl_cons]
    cases hmore : cs.add o.1 o.2 with
    | ok more =>
      have hrest := ih (hadd h hmore)
      rw [List.append_assoc, List.singleton_append] at hrest
      rw [offer, hmore]
      exact hrest
    | error e =>
      rw [offer, hmore]
      exact ih h

/-- Each channel has the variable and the aggregate of its item, and no two have the same variable. -/
structure Apart (channels : List Channel) : Prop where
  table_eq : ∀ c ∈ channels, c.table = identifier c.item.exportName
  aggregator_eq : ∀ c ∈ channels, c.item.exporter.channelAggregator? = some c.aggregator
  nodup : (channels.map Channel.table).Nodup

theorem apart_nil : Apart [] where
  table_eq _ hc := absurd hc List.not_mem_nil
  aggregator_eq _ hc := absurd hc List.not_mem_nil
  nodup := List.nodup_nil

theorem Apart.add {cs more : ChannelList} {shape : RecordShape} {i : Item} (h : Apart cs.channels)
    (hadd : cs.add shape i = .ok more) : Apart more.channels := by
  obtain ⟨_, aggregator, bucket, haggregator, hbucket, rfl⟩ := add_eq_ok_iff.1 hadd
  constructor
  · intro c hc
    rcases List.mem_append.1 hc with hc | hc
    · exact h.table_eq c hc
    · rw [List.mem_singleton.1 hc]
  · intro c hc
    rcases List.mem_append.1 hc with hc | hc
    · exact h.aggregator_eq c hc
    · rw [List.mem_singleton.1 hc]
      exact haggregator
  · have hfree := table_ne_of_bucketFor hbucket
    rw [List.map_append, List.map_singleton]
    refine List.nodup_append.2 ⟨h.nodup, List.nodup_singleton _, ?_⟩
    intro a ha b hb
    obtain ⟨c, hc, rfl⟩ := List.mem_map.1 ha
    rw [List.mem_singleton.1 hb]
    exact hfree c hc

theorem Apart.offerAll (cs : ChannelList) (h : Apart cs.channels)
    (offered : List (RecordShape × Item)) : Apart (cs.offerAll offered).channels :=
  @offerAll_induction (fun cs _ => Apart cs.channels) Apart.add cs [] offered h

end ChannelList

namespace WindowedQuery

/-- A query has the span of the first channel, and there is one. -/
theorem ofChannels_eq_ok_iff {cs : ChannelList} {q : WindowedQuery} :
    ofChannels cs = .ok q ↔
      ∃ first, cs.channels.head? = some first ∧ q = ⟨first.item.span, cs.channels⟩ := by
  unfold ofChannels
  cases hcs : cs.channels with
  | nil => simp
  | cons first rest => simp [eq_comm]

theorem channels_ofChannels {cs : ChannelList} {q : WindowedQuery} (h : ofChannels cs = .ok q) :
    q.channels = cs.channels := by
  obtain ⟨_, _, rfl⟩ := ofChannels_eq_ok_iff.1 h
  rfl

theorem channels_ne_nil {cs : ChannelList} {q : WindowedQuery} (h : ofChannels cs = .ok q) :
    q.channels ≠ [] := by
  obtain ⟨first, hfirst, rfl⟩ := ofChannels_eq_ok_iff.1 h
  exact List.ne_nil_of_mem (List.mem_of_head? hfirst)

/-- Channels of a query, whatever was offered before. -/
theorem apart_channels {buckets : Buckets} {offered : List (RecordShape × Item)} {q : WindowedQuery}
    (h : ofChannels (ChannelList.offerAll { buckets } offered) = .ok q) :
    ChannelList.Apart q.channels := by
  rw [channels_ofChannels h]
  exact ChannelList.Apart.offerAll { buckets } ChannelList.apart_nil offered

end WindowedQuery
end SeriesExport

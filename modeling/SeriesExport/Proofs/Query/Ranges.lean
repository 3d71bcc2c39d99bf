import SeriesExport.Query.Basic
import SeriesExport.Proofs.Flux.Selection
import SeriesExport.Proofs.Query.WindowSeconds

/-! The ranges of programs, whose bounds are written in whole seconds, each rounded down on its own.
Main statement: a span's ranges are not empty exactly when its start is in an earlier second than its
stop, which outside leap seconds means that a second begins within it. -/
namespace SeriesExport
open Flux
set_option autoImplicit false

/-- The bounds of a span in whole seconds. -/
def Span.secondBounds (s : Span) : Int × Int := (s.start.second, s.stop.second)

/-! ## Ranges of programs -/

namespace Flux

def Stage.bounds? : Stage → Option (Int × Int)
  | range r => r.bounds?
  | _ => none

theorem boundedRanges_statements (ss : List Statement) : (Program.statements ss).boundedRanges =
    ss.flatMap fun s => s.pipeline.stages.filterMap Stage.bounds? := by
  have hbounds : Stage.bounds? = fun
      | .range r => r.bounds?
      | _ => none := by
    funext stage
    cases stage <;> rfl
  rw [hbounds]
  rfl

theorem bounds_pipeline (s : Selector) (r : Range) (rest : List Stage) :
    (s.pipeline r rest).stages.filterMap Stage.bounds? =
      r.bounds?.toList ++ rest.filterMap Stage.bounds? := by
  rw [filterMap_pipeline fun _ _ => rfl]
  rfl

end Flux

theorem SeriesQuery.bounds_shaping (q : SeriesQuery) : q.shaping.filterMap Stage.bounds? = [] := by
  unfold shaping
  cases q.keep <;> rfl

theorem SeriesQuery.boundedRanges_program (q : SeriesQuery) :
    q.program.boundedRanges = [q.item.span.secondBounds] := by
  unfold program
  dsimp only
  split
  · rw [boundedRanges_statements]
    simp only [List.flatMap_cons, List.flatMap_nil, bounds_pipeline, bounds_shaping]
    rfl
  · rw [boundedRanges_statements, List.flatMap_singleton, bounds_pipeline, bounds_shaping]
    rfl

theorem AggregateQuery.boundedRanges_program (q : AggregateQuery) : q.program.boundedRanges =
    List.replicate q.aggregation.tables q.item.span.secondBounds := by
  unfold program
  cases q.aggregation with
  | one a =>
    dsimp only
    rw [boundedRanges_statements, List.flatMap_singleton, bounds_pipeline]
    rfl
  | band =>
    dsimp only
    rw [boundedRanges_statements]
    simp only [bandTables, List.map_cons, List.map_nil, List.cons_append, List.nil_append,
      List.flatMap_cons, List.flatMap_nil, bounds_pipeline]
    rfl

theorem WindowedQuery.boundedRanges_program (q : WindowedQuery) : q.program.boundedRanges =
    List.replicate q.channels.length q.span.secondBounds := by
  have hchannel (c : Channel) : ((c.statements q.span).flatMap fun s =>
      s.pipeline.stages.filterMap Stage.bounds?) = [q.span.secondBounds] := by
    simp only [Channel.statements, List.flatMap_cons, List.flatMap_nil, bounds_pipeline]
    rfl
  unfold program
  rw [boundedRanges_statements, List.flatMap_append, List.flatMap_assoc]
  simp only [hchannel]
  rw [← List.map_eq_flatMap, List.map_const']
  exact List.append_nil _

/-- The span that a listing is bounded by, if it is. -/
def Listing.span? : Listing → Option Span
  | byStore span? => span?
  | filtered span => some span

theorem TagValuesQuery.boundedRanges_program (q : TagValuesQuery) :
    q.program.boundedRanges = (q.listing.span?.map Span.secondBounds).toList := by
  unfold program
  cases q.listing with
  | byStore span? => rfl
  | filtered span =>
    dsimp only
    rw [boundedRanges_statements, List.flatMap_singleton, bounds_pipeline]
    rfl

/-! ## Queries over a span -/

/-- The query reads what lies in the span. -/
def Query.IsOver : Query → Span → Prop
  | .series q, span => q.item.span = span
  | .aggregate q, span => q.item.span = span
  | .windowed q, span => q.channels ≠ [] ∧ q.span = span
  | .tagValues q, span => q.listing.span? = some span

theorem SeriesQuery.isOver_of_compile {buckets : Buckets} {shape : RecordShape} {keep : PointFilter}
    {i : Item} {q : SeriesQuery} (h : compile buckets shape keep i = .ok q) :
    (Query.series q).IsOver i.span := by
  obtain ⟨bucket, _, rfl⟩ := of_compile h
  rfl

theorem AggregateQuery.isOver_of_compile {buckets : Buckets} {shape : RecordShape} {i : Item}
    {q : AggregateQuery} (h : compile buckets shape i = .ok q) :
    (Query.aggregate q).IsOver i.span := by
  unfold compile at h
  obtain ⟨_, _, hrest⟩ := bind_eq_ok_iff.1 h
  split at hrest
  · cases hrest
  · obtain ⟨bucket, _, hq⟩ := bind_eq_ok_iff.1 hrest
    cases hq
    rfl

/-- Channels are read over the span of the first, which those added later have to share. -/
theorem WindowedQuery.isOver_of_ofChannels {cs : ChannelList} {q : WindowedQuery} {first : Channel}
    (hfirst : cs.channels.head? = some first) (h : ofChannels cs = .ok q) :
    (Query.windowed q).IsOver first.item.span := by
  refine ⟨channels_ne_nil h, ?_⟩
  obtain ⟨other, hother, rfl⟩ := ofChannels_eq_ok_iff.1 h
  cases hfirst.symm.trans hother
  rfl

theorem TagValuesDraft.isOver_of_finish {d : TagValuesDraft} {span : Span} {q : TagValuesQuery}
    (hspan : d.span? = some span) (h : d.finish = .ok q) : (Query.tagValues q).IsOver span := by
  unfold finish at h
  rw [hspan] at h
  split at h
  · cases h
    rfl
  · cases h
    rfl

theorem Query.mem_boundedRanges {q : Query} {span : Span} (h : q.IsOver span) (r : Int × Int) :
    r ∈ q.program.boundedRanges ↔ r = span.secondBounds := by
  cases q with
  | series q =>
    cases h
    show r ∈ q.program.boundedRanges ↔ _
    rw [q.boundedRanges_program, List.mem_singleton]
  | aggregate q =>
    cases h
    show r ∈ q.program.boundedRanges ↔ _
    rw [q.boundedRanges_program, List.mem_replicate, and_iff_right q.aggregation.tables_ne_zero]
  | windowed q =>
    obtain ⟨hchannels, rfl⟩ := h
    show r ∈ q.program.boundedRanges ↔ _
    rw [q.boundedRanges_program, List.mem_replicate,
      and_iff_right (mt List.length_eq_zero_iff.1 hchannels)]
  | tagValues q =>
    have hspan : q.listing.span? = some span := h
    show r ∈ q.program.boundedRanges ↔ _
    rw [q.boundedRanges_program, hspan]
    exact List.mem_singleton

theorem Query.IsOver.forward_iff {q : Query} {span : Span} (h : q.IsOver span) :
    (∀ r ∈ q.program.boundedRanges, r.1 < r.2) ↔ span.start.second < span.stop.second := by
  simp only [Query.mem_boundedRanges h, forall_eq]
  rfl

/-! ## Compiled queries -/

/-- A query that is compiled for a span, whichever way its kind is put together. -/
inductive Query.CompiledOver : Query → Span → Prop
  | series {buckets : Buckets} {shape : RecordShape} {keep : PointFilter} {i : Item} {q : SeriesQuery}
      (withOpenValue : Bool) (h : SeriesQuery.compile buckets shape keep i = .ok q) :
      CompiledOver (.series { q with withOpenValue }) i.span
  | aggregate {buckets : Buckets} {shape : RecordShape} {i : Item} {q : AggregateQuery}
      (h : AggregateQuery.compile buckets shape i = .ok q) : CompiledOver (.aggregate q) i.span
  | windowed {cs : ChannelList} {first : Channel} {q : WindowedQuery}
      (hfirst : cs.channels.head? = some first) (h : WindowedQuery.ofChannels cs = .ok q) :
      CompiledOver (.windowed q) first.item.span
  | tagValues {d : TagValuesDraft} {span : Span} {q : TagValuesQuery} (hspan : d.span? = some span)
      (h : d.finish = .ok q) : CompiledOver (.tagValues q) span

theorem Query.CompiledOver.isOver {q : Query} {span : Span} (h : q.CompiledOver span) :
    q.IsOver span := by
  cases h with
  | series _ h =>
    have hover := SeriesQuery.isOver_of_compile h
    exact hover
  | aggregate h => exact AggregateQuery.isOver_of_compile h
  | windowed hfirst h => exact WindowedQuery.isOver_of_ofChannels hfirst h
  | tagValues hspan h => exact TagValuesDraft.isOver_of_finish hspan h

/-! ## Seconds of bounds -/

namespace Instant

theorem second_lt_of_since {a b : Instant} (h : 2000000000 ≤ (b.since a).nanos) :
    a.second < b.second := by
  have ha := a.nano_lt
  have hb := b.nano_lt
  rw [since_nanos] at h
  unfold total leapBetween IsLeap at h
  split at h
  · omega
  · split at h <;> omega

theorem second_lt_of_add? {a b : Instant} {d : Duration} (hd : 2000000000 ≤ d.nanos)
    (h : a.add? d = some b) : a.second < b.second := by
  have hb := b.nano_lt
  have hcases := add?_eq_some (by omega) h
  unfold total IsLeap at hcases
  omega

theorem second_lt_of_sub? {a b : Instant} {d : Duration} (hd : 2000000000 ≤ d.nanos)
    (h : b.sub? d = some a) : a.second < b.second := by
  have hb := b.nano_lt
  have htotal := (sub?_eq_some (by omega) h).1
  unfold total at htotal
  omega

/-- A moment outside leap seconds lies in a later second where one begins on the way to it. -/
theorem second_lt_iff {a b : Instant} {length : Int} (hb : ¬ b.IsLeap)
    (h : b.total - a.total = length) : a.second < b.second ↔ 1000000000 ≤ a.nano + length := by
  unfold total IsLeap at *
  omega

end Instant

namespace SpanSpec

theorem second_lt_of_long {now : Instant} {s : SpanSpec} {span : Span}
    (h : s.resolve now = .ok span) (hlong : 2000000000 ≤ span.width.nanos) :
    span.start.second < span.stop.second := by
  obtain ⟨_, _, _, hlength, _, hbounds, _⟩ := resolve_eq_ok_iff.1 h
  obtain ⟨hs, ht⟩ | ⟨_, _, hadd⟩ | ⟨_, _, hsub⟩ := boundsOutright_cases hbounds
  · rw [lengthOutright, hs, ht] at hlength
    rw [← Except.ok.inj hlength] at hlong
    exact Instant.second_lt_of_since hlong
  · exact Instant.second_lt_of_add? hlong hadd
  · exact Instant.second_lt_of_sub? hlong hsub

/-! ## Main statement -/

/-- The ranges of a program over the span of a request are none of them empty, whatever it asks for,
exactly when the start lies in an earlier second than the stop. Two seconds are always enough; outside
leap seconds a second has to begin after the start, up to the stop. -/
theorem ranges_nonempty_iff {now : Instant} {s : SpanSpec} {span : Span}
    (h : s.resolve now = .ok span) :
    (∀ q : Query, q.IsOver span → ((∀ r ∈ q.program.boundedRanges, r.1 < r.2) ↔
      span.start.second < span.stop.second)) ∧
    (2000000000 ≤ span.width.nanos → span.start.second < span.stop.second) ∧
    (s.Ordinary now → (span.start.second < span.stop.second ↔
      1000000000 ≤ span.start.nano + span.width.nanos)) := by
  refine ⟨fun q hq => hq.forward_iff, second_lt_of_long h, ?_⟩
  intro ho
  exact Instant.second_lt_iff (ho.bounds_of_resolve h).2 (ho.total_sub_total h)

/-- The sites with a value for the power of a plant. -/
def powerSites : TagValuesDraft where
  measurement := "power"
  tag := "site"
  selector := ⟨"plant", [("_measurement", "power"), ("_field", "value")]⟩

/-- Nothing asked for is a day, whose ranges are not empty. -/
theorem day_ranges_nonempty : Ordinary .epoch {} ∧ ∃ span q, resolve .epoch {} = .ok span ∧
    (powerSites.withSpan span).finish = .ok q ∧ (Query.tagValues q).IsOver span ∧
    2000000000 ≤ span.width.nanos ∧ 1000000000 ≤ span.start.nano + span.width.nanos ∧
    ∀ r ∈ (Query.tagValues q).program.boundedRanges, r.1 < r.2 := by
  have ho : Ordinary .epoch {} := by
    refine ⟨by decide, ?_, ?_⟩
    · rintro start ⟨⟩
    · rintro stop ⟨⟩
  obtain ⟨span, h, hwidth⟩ : ∃ span, resolve .epoch {} = .ok span ∧ span.width = .day := by
    rw [resolve_eq]
    exact ⟨_, rfl, rfl⟩
  have hlong : 2000000000 ≤ span.width.nanos := by
    rw [hwidth]
    decide
  obtain ⟨q, hq⟩ : ∃ q, (powerSites.withSpan span).finish = .ok q := ⟨_, rfl⟩
  have hover := TagValuesDraft.isOver_of_finish rfl hq
  obtain ⟨hranges, hforward, hordinary⟩ := ranges_nonempty_iff h
  exact ⟨ho, span, q, h, hq, hover, hlong, (hordinary ho).1 (hforward hlong),
    (hranges _ hover).2 (hforward hlong)⟩

def quarterSecond : SpanSpec where
  start := some .epoch
  stop := some { Instant.epoch with nano := 250000000, nano_lt := by decide, leap_last := by decide }

/-- A quarter of a second that is over before the next one begins has an empty range. -/
theorem quarterSecond_range_empty : ¬ ∀ (now : Instant) (s : SpanSpec) (span : Span) (buckets : Buckets)
    (i : Item) (q : SeriesQuery), s.resolve now = .ok span → i.span = span →
    SeriesQuery.compile buckets .loneValue .all i = .ok q →
    ∀ r ∈ q.program.boundedRanges, r.1 < r.2 := by
  intro hall
  obtain ⟨span, h, hbounds⟩ : ∃ span, quarterSecond.resolve .epoch = .ok span ∧
      span.secondBounds = (0, 0) := by
    rw [resolve_eq]
    exact ⟨_, rfl, rfl⟩
  obtain ⟨q, hq⟩ : ∃ q, SeriesQuery.compile (fun _ => some "b") .loneValue .all (meanPower span) =
      .ok q := ⟨_, rfl⟩
  have hforward : span.start.second < span.stop.second :=
    (Query.CompiledOver.series q.withOpenValue hq).isOver.forward_iff.1
      (hall .epoch quarterSecond span _ _ q h rfl hq)
  obtain ⟨hstart, hstop⟩ := Prod.mk.inj hbounds
  rw [hstart, hstop] at hforward
  exact Int.lt_irrefl _ hforward

/-- From a midnight back into the leap second before it. -/
def backIntoLeap : SpanSpec where
  start := some { Instant.epoch with second := 1435708800, inRange := by decide, leap_last := by decide }
  stop := some ⟨1435708799, 1500000000, by decide, by decide, by decide⟩

/-- The length passes for half a second, and the range goes back. -/
example : (backIntoLeap.outright .epoch).map (fun span => (span.width.nanos, span.secondBounds)) =
    .ok (500000000, 1435708800, 1435708799) := by rfl

end SpanSpec
end SeriesExport

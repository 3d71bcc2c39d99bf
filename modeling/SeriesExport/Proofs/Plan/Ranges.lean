import SeriesExport.Proofs.Plan.Draining
import SeriesExport.Proofs.Query.Ranges

/-! The ranges that the queries of a plan read. Main statement: all of them have the bounds of the
plan's span, so that they are empty for all queries of a plan or for none. -/
namespace SeriesExport
open Flux
set_option autoImplicit false

variable {buckets : Buckets} {domain : String} {items : List Item} {q : NamedQuery}

/-! ## Queries of items -/

theorem Generator.compiledOver_of_compile {i : Item} {q : Query} (h : compile buckets i = .ok q) :
    q.CompiledOver i.span := by
  unfold compile at h
  split at h
  · obtain ⟨series, hseries, rfl⟩ := map_eq_ok_iff.1 h
    exact .series series.withOpenValue hseries
  · obtain ⟨series, hseries, rfl⟩ := map_eq_ok_iff.1 h
    exact .series series.withOpenValue hseries
  · obtain ⟨series, hseries, rfl⟩ := map_eq_ok_iff.1 h
    exact .series series.withOpenValue hseries
  · obtain ⟨aggregate, haggregate, rfl⟩ := map_eq_ok_iff.1 h
    exact .aggregate haggregate

theorem Item.compiledOver_of_ownResult {i : Item} (hw : i.exporter.isWindowed = false)
    (h : i.ownResult buckets = .ok q) : q.query.CompiledOver i.span := by
  have hnamed : i.ownResult buckets =
      (fun query => ⟨i.exportName, query⟩) <$> Generator.compile buckets i := by
    rw [Generator.compile_eq buckets hw, map_checked]
    rfl
  rw [hnamed] at h
  obtain ⟨query, hquery, rfl⟩ := map_eq_ok_iff.1 h
  exact Generator.compiledOver_of_compile hquery

theorem compiledOver_of_mem_merged {refused : Bool} (h : .ok q ∈ merged buckets refused items) :
    ∃ i ∈ items, q.query.CompiledOver i.span := by
  cases items with
  | nil => exact absurd h List.not_mem_nil
  | cons first rest =>
    rw [merged] at h
    by_cases hr : refused = true
    · rw [if_pos hr] at h
      exact absurd h List.not_mem_nil
    rw [if_neg hr] at h
    cases hb : buckets first.domain with
    | none =>
      rw [hb] at h
      exact absurd h List.not_mem_nil
    | some bucket =>
      rw [hb] at h
      cases List.mem_singleton.1 h
      let cs : ChannelList := ⟨buckets, (first :: rest).map (.ofItem bucket)⟩
      have hquery : WindowedQuery.ofChannels cs =
          .ok ⟨first.span, (first :: rest).map (.ofItem bucket)⟩ := rfl
      have hfirst : cs.channels.head? = some (.ofItem bucket first) := rfl
      exact ⟨first, List.mem_cons_self, .windowed hfirst hquery⟩

/-! ## Queries of a plan -/

namespace Plan

theorem Holds.compiledOver {p : Plan} (hp : p.Holds items) (h : .ok q ∈ p.queries buckets domain) :
    ∃ i ∈ items, q.query.CompiledOver i.span := by
  rw [hp.queries_eq] at h
  rcases List.mem_append.1 h with hown | hwindowed
  · obtain ⟨i, hi, hresult⟩ := List.mem_map.1 hown
    obtain ⟨hin, _, hw⟩ := mem_ownItems.1 hi
    exact ⟨i, hin, i.compiledOver_of_ownResult hw hresult⟩
  rcases List.mem_append.1 hwindowed with herror | hmerged
  · obtain ⟨e, _, he⟩ := List.mem_map.1 herror
    cases he
  · obtain ⟨i, hi, hover⟩ := compiledOver_of_mem_merged hmerged
    exact ⟨i, (mem_windowedItems.1 hi).1, hover⟩

/-- Every query of a plan reads the span of the plan, in seconds, and no other range with a start. -/
theorem mem_boundedRanges_of_query (offered : List Item)
    (h : .ok q ∈ (empty.offerAll offered).queries buckets domain) :
    ∃ span, (empty.offerAll offered).span = some span ∧
      ∀ r, r ∈ q.query.program.boundedRanges ↔ r = span.secondBounds := by
  have hp := holds_offerAll offered
  obtain ⟨i, hi, hover⟩ := hp.compiledOver h
  obtain ⟨span, hspan, halike⟩ := hp.alike i hi
  refine ⟨span, hspan, fun r => ?_⟩
  have hbounds : span.secondBounds = i.span.secondBounds := by
    unfold Span.secondBounds
    rw [halike.1, halike.2.1]
  rw [hbounds]
  exact Query.mem_boundedRanges hover.isOver r

/-- Over a requested span of two seconds or more, no query of a plan reads an empty range. -/
theorem ranges_forward_of_long {now : Instant} {s : SpanSpec} {span : Span} (offered : List Item)
    (hspan : s.resolve now = .ok span) (hlong : 2000000000 ≤ span.width.nanos)
    (hplan : (empty.offerAll offered).span = some span)
    (h : .ok q ∈ (empty.offerAll offered).queries buckets domain) :
    ∀ r ∈ q.query.program.boundedRanges, r.1 < r.2 := by
  obtain ⟨other, hother, hranges⟩ := mem_boundedRanges_of_query offered h
  cases hplan.symm.trans hother
  intro r hr
  rw [(hranges r).1 hr]
  exact SpanSpec.second_lt_of_long hspan hlong

end Plan
end SeriesExport

import SeriesExport.Query.Aggregate
import SeriesExport.Proofs.Query.Channels
import SeriesExport.Proofs.Span.Consistency

/-! The windows of aggregating programs, which are written in whole seconds. Main statement: none of
them is empty exactly when a given window lasts a second or more, or the length has a second for each
window where their number is what counts. -/
namespace SeriesExport
open Flux
set_option autoImplicit false

/-! ## Windows of programs -/

namespace Flux

def Stage.seconds? : Stage → Option Int
  | aggregateWindow seconds _ => some seconds
  | _ => none

theorem windowSeconds_statements (ss : List Statement) : (Program.statements ss).windowSeconds =
    ss.flatMap fun s => s.pipeline.stages.filterMap Stage.seconds? := by
  have hseconds : Stage.seconds? = fun
      | .aggregateWindow seconds _ => some seconds
      | _ => none := by
    funext stage
    cases stage <;> rfl
  rw [hseconds]
  rfl

/-- Filters between the range and the rest are nothing to what does not read filters. -/
theorem filterMap_pipeline {β : Type} {f : Stage → Option β}
    (hf : ∀ key value, f (.filter key value) = none) (s : Selector) (r : Range) (rest : List Stage) :
    (s.pipeline r rest).stages.filterMap f = (f (.range r)).toList ++ rest.filterMap f := by
  have hfilters : s.filterStages.filterMap f = [] := by
    refine List.filterMap_eq_nil_iff.2 fun stage hstage => ?_
    obtain ⟨filter, _, rfl⟩ := List.mem_map.1 hstage
    exact hf filter.1 filter.2
  rw [Selector.pipeline, List.filterMap_cons, List.filterMap_append, hfilters]
  cases f (.range r) <;> rfl

theorem seconds_pipeline (s : Selector) (r : Range) (rest : List Stage) :
    (s.pipeline r rest).stages.filterMap Stage.seconds? = rest.filterMap Stage.seconds? :=
  filterMap_pipeline (fun _ _ => rfl) s r rest

end Flux

/-- A single aggregate has one table of windows, a band three. -/
def Aggregation.tables : Aggregation → Nat
  | one _ => 1
  | band => 3

theorem Aggregation.tables_ne_zero (a : Aggregation) : a.tables ≠ 0 := by
  cases a with
  | one _ => exact Nat.one_ne_zero
  | band => decide

theorem AggregateQuery.windowSeconds_program (q : AggregateQuery) : q.program.windowSeconds =
    List.replicate q.aggregation.tables q.item.span.windowWidth.wholeSeconds := by
  unfold program
  cases q.aggregation with
  | one a =>
    dsimp only
    rw [windowSeconds_statements, List.flatMap_singleton, seconds_pipeline]
    rfl
  | band =>
    dsimp only
    rw [windowSeconds_statements]
    simp only [bandTables, List.map_cons, List.map_nil, List.cons_append, List.nil_append,
      List.flatMap_cons, List.flatMap_nil, seconds_pipeline]
    rfl

theorem WindowedQuery.windowSeconds_program (q : WindowedQuery) : q.program.windowSeconds =
    List.replicate q.channels.length q.span.windowWidth.wholeSeconds := by
  have hchannel (c : Channel) : ((c.statements q.span).flatMap fun s =>
      s.pipeline.stages.filterMap Stage.seconds?) = [q.span.windowWidth.wholeSeconds] := by
    simp only [Channel.statements, List.flatMap_cons, List.flatMap_nil, seconds_pipeline]
    rfl
  unfold program
  rw [windowSeconds_statements, List.flatMap_append, List.flatMap_assoc]
  simp only [hchannel]
  rw [← List.map_eq_flatMap, List.map_const']
  exact List.append_nil _

namespace Duration

theorem wholeSeconds_pos_iff {d : Duration} : 0 < d.wholeSeconds ↔ nanosPerSecond ≤ d.nanos := by
  have hsign : Int.sign nanosPerSecond = 1 := rfl
  rw [wholeSeconds, Int.tdiv_eq_ediv, hsign]
  unfold nanosPerSecond
  split
  · omega
  · omega

/-- A share has a whole second where there are as many seconds as shares. -/
theorem second_le_share_iff {d : Duration} {count : Nat} (hc : 0 < count) :
    nanosPerSecond ≤ (d.share count).nanos ↔ count * nanosPerSecond ≤ d.nanos := by
  have hpos : (0 : Int) < count := by omega
  constructor
  · intro h
    have hle := Int.le_trans h (d.share_bounds hc).2
    rw [Int.le_ediv_iff_mul_le hpos] at hle
    rw [Int.mul_comm]
    exact hle
  · intro h
    have hseconds : 1 ≤ d.floorSeconds / count := by
      rw [Int.le_ediv_iff_mul_le hpos, floorSeconds, Int.le_ediv_iff_mul_le (by decide), Int.one_mul]
      exact h
    have hcarried : 0 ≤ d.floorSeconds % count * nanosPerSecond / count :=
      Int.ediv_nonneg (Int.mul_nonneg (Int.emod_nonneg _ (by omega)) (by decide)) (by omega)
    have hnanos : 0 ≤ d.subsecond / count := Int.ediv_nonneg d.subsecond_bounds.1 (by omega)
    unfold share nanosPerSecond at *
    dsimp only
    omega

end Duration

namespace SpanSpec

/-- A given window lasts at least a second, or a length has at least a second for each window. -/
def HasSeconds (s : SpanSpec) (length : Duration) : Prop :=
  match s.windowWidth with
  | some window => Duration.nanosPerSecond ≤ window.nanos
  | none => (s.windowCount.getD 240).toNat * Duration.nanosPerSecond ≤ length.nanos

instance (s : SpanSpec) (length : Duration) : Decidable (s.HasSeconds length) := by
  unfold HasSeconds; split <;> infer_instance

theorem hasSeconds_iff {now : Instant} {s : SpanSpec} {span : Span} (h : s.resolve now = .ok span) :
    s.HasSeconds span.width ↔ 0 < span.windowWidth.wholeSeconds := by
  rw [Duration.wholeSeconds_pos_iff]
  unfold HasSeconds
  cases hw : s.windowWidth with
  | none =>
    obtain ⟨hcount, hpos, hwindow⟩ := windows_of_count h hw
    rw [hwindow, Duration.second_le_share_iff hpos, hcount]
  | some window =>
    rw [(keeps_of_resolve h).windowWidth window hw]

/-! ## Main statement -/

/-- The windows of a program over the span of a request are none of them empty, whatever it
aggregates, exactly when the request has seconds for them. -/
theorem windowSeconds_pos_iff {now : Instant} {s : SpanSpec} {span : Span}
    (h : s.resolve now = .ok span) :
    (∀ q : AggregateQuery, q.item.span = span →
      ((∀ seconds ∈ q.program.windowSeconds, 0 < seconds) ↔ s.HasSeconds span.width)) ∧
    ∀ (cs : ChannelList) (q : WindowedQuery), WindowedQuery.ofChannels cs = .ok q → q.span = span →
      ((∀ seconds ∈ q.program.windowSeconds, 0 < seconds) ↔ s.HasSeconds span.width) := by
  rw [hasSeconds_iff h]
  constructor
  · rintro q rfl
    rw [q.windowSeconds_program, List.forall_mem_replicate,
      or_iff_right q.aggregation.tables_ne_zero]
  · rintro cs q hq rfl
    have hchannels : q.channels.length ≠ 0 := by
      rw [WindowedQuery.channels_ofChannels hq]
      intro hnil
      rw [WindowedQuery.ofChannels, List.length_eq_zero_iff.1 hnil] at hq
      cases hq
    rw [q.windowSeconds_program, List.forall_mem_replicate, or_iff_right hchannels]

/-- Nothing asked for is a day in windows of six minutes. -/
theorem day_windowSeconds_pos : ∃ span, resolve .epoch {} = .ok span ∧
    HasSeconds {} span.width ∧
    ∀ q : AggregateQuery, q.item.span = span → ∀ seconds ∈ q.program.windowSeconds, 0 < seconds := by
  obtain ⟨span, h, hwidth⟩ : ∃ span, resolve .epoch {} = .ok span ∧ span.width = .day := by
    rw [resolve_eq]
    exact ⟨_, rfl, rfl⟩
  have hseconds : HasSeconds {} span.width := by
    rw [hwidth]
    decide
  exact ⟨span, h, hseconds, fun q hq => ((windowSeconds_pos_iff h).1 q hq).2 hseconds⟩

def oneSecond : SpanSpec where
  start := some .epoch
  width := some (.ofSeconds 1)

def meanPower (span : Span) : Item where
  domain := "plant"
  span := span
  exportName := "a"
  measurement := "power"
  exporter := .aggregateMean

/-- A second is cut into 240 windows, which are written as windows of no seconds. -/
theorem oneSecond_window_empty : ¬ ∀ (now : Instant) (s : SpanSpec) (span : Span) (buckets : Buckets)
    (i : Item) (q : AggregateQuery), s.resolve now = .ok span → i.span = span →
    AggregateQuery.compile buckets .loneValue i = .ok q →
    ∀ seconds ∈ q.program.windowSeconds, 0 < seconds := by
  intro hall
  obtain ⟨span, h, hwindow⟩ : ∃ span, oneSecond.resolve .epoch = .ok span ∧
      span.windowWidth.wholeSeconds = 0 := by
    rw [resolve_eq]
    exact ⟨_, rfl, by decide⟩
  have hzero := hall .epoch oneSecond span (fun _ => some "b") (meanPower span) _ h rfl rfl 0
  rw [AggregateQuery.windowSeconds_program] at hzero
  exact Int.lt_irrefl 0 (hzero (List.mem_replicate.2 ⟨Nat.one_ne_zero, hwindow.symm⟩))

end SpanSpec
end SeriesExport

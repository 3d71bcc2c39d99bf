import Mathlib.Data.List.Pairwise
import SeriesExport.Proofs.Query.Channels

/-! The variables of windowed programs. A union reads only variables that are bound before it, whatever
the channels are. Main statement: `wellScoped_iff`, that nothing else is wrong with the variables
exactly when no channel has the variable of a part of another channel or the name of a function. -/
namespace SeriesExport
open Flux
set_option autoImplicit false

/-! ## Scopes of programs -/

namespace Flux

def Source.tables : Source → List String
  | bucket _ => []
  | union tables => tables

def Source.function : Source → String
  | bucket _ => "from"
  | union _ => "union"

/-- The functions that a stage names: the one it calls, and the one it passes on. -/
def Stage.functions : Stage → List String
  | range _ => ["range"]
  | filter _ _ => ["filter"]
  | last => ["last"]
  | toFloat => ["toFloat"]
  | aggregateWindow _ aggregator => ["aggregateWindow", aggregator.name]
  | group | groupByTime | groupBy _ => ["group"]
  | distinct _ => ["distinct"]
  | keep _ => ["keep"]
  | pivotMeasurements _ | pivotBy _ => ["pivot"]
  | sortByTime => ["sort"]
  | duplicateValue _ => ["duplicate"]
  | stepInto _ => ["difference"]
  | fillZero _ => ["fill"]
  | labelBand _ | labelName _ => ["set"]

def Statement.functions (s : Statement) : List String :=
  s.pipeline.source.function :: s.pipeline.stages.flatMap Stage.functions

def Program.functions : Program → List String
  | .statements ss => ss.flatMap Statement.functions
  | .tagListing _ => ["measurementTagValues", "distinct"]

/-- Every table of a union is bound before it. -/
def UnionsBound (bound : List String) : List Statement → Prop
  | [] => True
  | s :: rest =>
    (∀ table ∈ s.pipeline.source.tables, table ∈ bound) ∧
      UnionsBound (bound ++ s.binding.toList) rest

end Flux

/-- The functions of windowed programs. -/
def windowedFunctions : List String :=
  ["from", "range", "filter", "last", "toFloat", "aggregateWindow", "mean", "sum", "union", "group",
    "set", "keep", "pivot", "sort"]

namespace WindowedQuery

/-- What a union reads is bound by statements of its channel before it or, in the last statement, by
exactly one channel. -/
structure UnionsScoped (q : WindowedQuery) : Prop where
  within : ∀ c ∈ q.channels, UnionsBound [] (c.statements q.span)
  last : ∃ s, q.program = .statements (q.channels.flatMap (Channel.statements q.span) ++ [s]) ∧
    s.binding = none ∧
    ∀ table ∈ s.pipeline.source.tables, (q.channels.map Channel.table).count table = 1

/-- Besides, no variable is bound twice and none has the name of a function. -/
structure WellScoped (q : WindowedQuery) : Prop extends q.UnionsScoped where
  once : q.program.assigned.Nodup
  apart : ∀ name ∈ q.program.assigned, name ∉ windowedFunctions

end WindowedQuery

/-! ## The variables of channels -/

namespace Channel

def bindings (c : Channel) : List String := [c.openVariable, c.rangeVariable, c.table]

/-- A channel has the variable that another one has for its values before or within the span. -/
def TakesPartOf (d c : Channel) : Prop := d.table = c.openVariable ∨ d.table = c.rangeVariable

theorem openVariable_ne_rangeVariable (c d : Channel) : c.openVariable ≠ d.rangeVariable := by
  intro h
  have hlast := congrArg (fun s => s.toList.getLast?) h
  simp [openVariable, rangeVariable, List.getLast?_append] at hlast

theorem openVariable_ne_table (c : Channel) : c.openVariable ≠ c.table := by
  intro h
  have hlength := congrArg String.length h
  rw [openVariable, String.length_append] at hlength
  have hending : "_openValue".length = 10 := rfl
  omega

theorem rangeVariable_ne_table (c : Channel) : c.rangeVariable ≠ c.table := by
  intro h
  have hlength := congrArg String.length h
  rw [rangeVariable, String.length_append] at hlength
  have hending : "_rangeValues".length = 12 := rfl
  omega

theorem openVariable_inj {c d : Channel} : c.openVariable = d.openVariable ↔ c.table = d.table :=
  String.append_left_inj "_openValue"

theorem rangeVariable_inj {c d : Channel} : c.rangeVariable = d.rangeVariable ↔ c.table = d.table :=
  String.append_left_inj "_rangeValues"

theorem nodup_bindings (c : Channel) : c.bindings.Nodup := by
  have hparts := openVariable_ne_rangeVariable c c
  have hopen := c.openVariable_ne_table
  have hrange := c.rangeVariable_ne_table
  simp [bindings, hparts, hopen, hrange]

theorem disjoint_bindings_iff {c d : Channel} (h : c.table ≠ d.table) :
    c.bindings.Disjoint d.bindings ↔ ¬ d.TakesPartOf c ∧ ¬ c.TakesPartOf d := by
  have hopen : c.openVariable ≠ d.openVariable := fun heq => h (openVariable_inj.1 heq)
  have hrange : c.rangeVariable ≠ d.rangeVariable := fun heq => h (rangeVariable_inj.1 heq)
  have hcd := openVariable_ne_rangeVariable c d
  have hdc := (openVariable_ne_rangeVariable d c).symm
  constructor
  · intro hdisjoint
    constructor
    · rintro (heq | heq)
      · exact hdisjoint (a := d.table) (by simp [bindings, heq]) (by simp [bindings])
      · exact hdisjoint (a := d.table) (by simp [bindings, heq]) (by simp [bindings])
    · rintro (heq | heq)
      · exact hdisjoint (a := c.table) (by simp [bindings]) (by simp [bindings, heq])
      · exact hdisjoint (a := c.table) (by simp [bindings]) (by simp [bindings, heq])
  · rintro ⟨hdc', hcd'⟩ name hc hd
    simp only [TakesPartOf, not_or] at hdc' hcd'
    simp only [bindings, List.mem_cons, List.not_mem_nil, or_false] at hc hd
    grind

theorem TakesPartOf.table_ne {c d : Channel} (h : d.TakesPartOf c) : c.table ≠ d.table := by
  intro heq
  rcases h with h | h
  · exact c.openVariable_ne_table (h.symm.trans heq.symm)
  · exact c.rangeVariable_ne_table (h.symm.trans heq.symm)

/-- No function has an underscore in its name. -/
theorem not_mem_windowedFunctions {name : String} (h : '_' ∈ name.toList) :
    name ∉ windowedFunctions := by
  intro hmem
  have hplain : ∀ f ∈ windowedFunctions, '_' ∉ f.toList := by decide
  exact hplain name hmem h

theorem openVariable_not_function (c : Channel) : c.openVariable ∉ windowedFunctions :=
  not_mem_windowedFunctions (by simp [openVariable])

theorem rangeVariable_not_function (c : Channel) : c.rangeVariable ∉ windowedFunctions :=
  not_mem_windowedFunctions (by simp [rangeVariable])

theorem unionsBound_statements (span : Span) (c : Channel) : UnionsBound [] (c.statements span) := by
  simp [statements, UnionsBound, Source.tables, Selector.pipeline]

theorem functions_filterStages (s : Selector) :
    s.filterStages.flatMap Stage.functions ⊆ windowedFunctions := by
  intro f hf
  obtain ⟨stage, hstage, hf⟩ := List.mem_flatMap.1 hf
  obtain ⟨pair, _, rfl⟩ := List.mem_map.1 hstage
  rw [List.mem_singleton.1 hf]
  decide

theorem functions_statements {c : Channel} (span : Span)
    (h : c.item.exporter.channelAggregator? = some c.aggregator) :
    (c.statements span).flatMap Statement.functions ⊆ windowedFunctions := by
  have haggregator : c.aggregator.name ∈ windowedFunctions := by
    have hcases : c.aggregator = .mean ∨ c.aggregator = .sum := by
      unfold Strategy.channelAggregator? at h
      split at h
      · exact Or.inl (Option.some.inj h).symm
      · exact Or.inr (Option.some.inj h).symm
      · cases h
    rcases hcases with h | h
    · rw [h]
      decide
    · rw [h]
      decide
  have hfilters := functions_filterStages c.selector
  simp only [statements, Statement.functions, Selector.pipeline, rangeBefore, rangeOf, aggregateOver,
    Source.function, List.flatMap_cons, List.flatMap_nil, List.flatMap_append, Stage.functions,
    List.append_subset, List.cons_append, List.nil_append, List.append_nil, List.cons_subset,
    List.nil_subset, and_true]
  exact ⟨by decide, by decide, ⟨hfilters, by decide, by decide⟩, by decide, by decide,
    ⟨hfilters, by decide, haggregator, by decide⟩, by decide, by decide, by decide, by decide⟩

end Channel

namespace WindowedQuery

theorem assigned_program (q : WindowedQuery) :
    q.program.assigned = q.channels.flatMap Channel.bindings := by
  simp [program, Program.assigned, List.filterMap_append, List.filterMap_flatMap, Channel.statements]
  rfl

theorem nodup_assigned_iff {q : WindowedQuery} (h : (q.channels.map Channel.table).Nodup) :
    q.program.assigned.Nodup ↔ ∀ c ∈ q.channels, ∀ d ∈ q.channels, ¬ d.TakesPartOf c := by
  have hchannels : q.channels.Nodup := .of_map _ h
  have hsymm : Std.Symm (Function.onFun List.Disjoint Channel.bindings) :=
    ⟨fun _ _ hd => List.disjoint_symm hd⟩
  rw [assigned_program, List.nodup_flatMap]
  constructor
  · rintro ⟨_, hpairs⟩ c hc d hd htakes
    have hne := htakes.table_ne
    have hcd : c ≠ d := fun heq => hne (congrArg Channel.table heq)
    have hdisjoint := hpairs.forall hc hd hcd
    exact ((Channel.disjoint_bindings_iff hne).1 hdisjoint).1 htakes
  · intro hfree
    refine ⟨fun c _ => c.nodup_bindings, hchannels.pairwise_of_forall_ne ?_⟩
    intro c hc d hd hcd
    have hne : c.table ≠ d.table := fun heq => hcd (List.inj_on_of_nodup_map h hc hd heq)
    exact (Channel.disjoint_bindings_iff hne).2 ⟨hfree c hc d hd, hfree d hd c hc⟩

theorem functions_apart_iff (q : WindowedQuery) :
    (∀ name ∈ q.program.assigned, name ∉ windowedFunctions) ↔
      ∀ c ∈ q.channels, c.table ∉ windowedFunctions := by
  rw [assigned_program]
  constructor
  · intro h c hc
    exact h c.table (List.mem_flatMap.2 ⟨c, hc, by simp [Channel.bindings]⟩)
  · intro h name hname
    obtain ⟨c, hc, hname⟩ := List.mem_flatMap.1 hname
    simp only [Channel.bindings, List.mem_cons, List.not_mem_nil, or_false] at hname
    rcases hname with rfl | rfl | rfl
    · exact c.openVariable_not_function
    · exact c.rangeVariable_not_function
    · exact h c hc

theorem unionsScoped {q : WindowedQuery} (h : (q.channels.map Channel.table).Nodup) :
    q.UnionsScoped where
  within c _ := c.unionsBound_statements q.span
  last := ⟨_, rfl, rfl, fun _ htable => List.count_eq_one_of_mem h htable⟩

theorem functions_program {q : WindowedQuery}
    (h : ∀ c ∈ q.channels, c.item.exporter.channelAggregator? = some c.aggregator) :
    q.program.functions ⊆ windowedFunctions := by
  intro f hf
  rw [program, Program.functions, List.flatMap_append, List.flatMap_assoc, List.mem_append] at hf
  rcases hf with hf | hf
  · obtain ⟨c, hc, hf⟩ := List.mem_flatMap.1 hf
    exact Channel.functions_statements q.span (h c hc) hf
  · have hlast : ∀ g ∈ ["union", "group", "pivot", "group", "sort"], g ∈ windowedFunctions := by
      decide
    exact hlast f hf

/-- Of the channels of any run of additions, the unions are in order, and the program is well scoped
exactly when no export has the variable of a part of another one or the name of a function. -/
theorem wellScoped_iff {buckets : Buckets} {offered : List (RecordShape × Item)} {q : WindowedQuery}
    (h : ofChannels (ChannelList.offerAll { buckets } offered) = .ok q) :
    q.UnionsScoped ∧ q.program.functions ⊆ windowedFunctions ∧
      (q.WellScoped ↔
        (∀ c ∈ q.channels, ∀ d ∈ q.channels,
          identifier d.item.exportName ≠ identifier c.item.exportName ++ "_openValue" ∧
          identifier d.item.exportName ≠ identifier c.item.exportName ++ "_rangeValues") ∧
        ∀ c ∈ q.channels, identifier c.item.exportName ∉ windowedFunctions) := by
  have hchannels := apart_channels h
  have hunions := unionsScoped hchannels.nodup
  refine ⟨hunions, functions_program hchannels.aggregator_eq, ?_⟩
  have htable := hchannels.table_eq
  constructor
  · intro hscoped
    constructor
    · intro c hc d hd
      rw [← htable c hc, ← htable d hd]
      exact not_or.1 ((nodup_assigned_iff hchannels.nodup).1 hscoped.once c hc d hd)
    · intro c hc
      rw [← htable c hc]
      exact (functions_apart_iff q).1 hscoped.apart c hc
  · rintro ⟨hfree, hfunctions⟩
    have honce : q.program.assigned.Nodup := by
      refine (nodup_assigned_iff hchannels.nodup).2 fun c hc d hd => ?_
      have hne := hfree c hc d hd
      rw [← htable c hc, ← htable d hd] at hne
      exact not_or.2 hne
    have hapart : ∀ name ∈ q.program.assigned, name ∉ windowedFunctions := by
      refine (functions_apart_iff q).2 fun c hc => ?_
      rw [htable c hc]
      exact hfunctions c hc
    exact ⟨hunions, honce, hapart⟩

/-! ## A plant with a few exports -/

def plantHour : Span where
  start := .epoch
  stop := { Instant.epoch with second := 3600, inRange := by decide, leap_last := by decide }
  width := .ofSeconds 3600
  windowCount := 4
  windowWidth := .ofSeconds 900
  windowSource := .count

/-- The mean power of a plant, under a name. -/
def plantMean (exportName : String) : RecordShape × Item :=
  (.loneValue, { domain := "plant", span := plantHour, exportName, measurement := "power",
                 exporter := .windowedMean })

def ofPlant (exportNames : List String) : Except QueryError WindowedQuery :=
  ofChannels (ChannelList.offerAll { buckets := fun _ => some "b" } (exportNames.map plantMean))

def plantQuery (exportNames : List String) : WindowedQuery where
  span := plantHour
  channels := exportNames.map fun name =>
    ⟨(plantMean name).2, identifier name, .ofItem "b" (plantMean name).2, .mean⟩

/-- The third name has the variable of the first and is refused. -/
theorem lines_wellScoped : ofPlant ["line.a", "line.b", "line_a"] = .ok (plantQuery ["line.a", "line.b"]) ∧
    (plantQuery ["line.a", "line.b"]).WellScoped := by
  have h : ofPlant ["line.a", "line.b", "line_a"] = .ok (plantQuery ["line.a", "line.b"]) := rfl
  refine ⟨h, (wellScoped_iff h).2.2.2 ?_⟩
  decide

/-- An export can have the variable of a part of another one, or the name of a function. -/
theorem openValue_bound_twice :
    (ofPlant ["a", "a_openValue"] = .ok (plantQuery ["a", "a_openValue"]) ∧
      (plantQuery ["a", "a_openValue"]).program.assigned.count "a_openValue" = 2 ∧
      ¬ (plantQuery ["a", "a_openValue"]).WellScoped) ∧
    ofPlant ["from"] = .ok (plantQuery ["from"]) ∧
      "from" ∈ (plantQuery ["from"]).program.assigned ∧ ¬ (plantQuery ["from"]).WellScoped := by
  have htwice : ¬ (plantQuery ["a", "a_openValue"]).program.assigned.Nodup := by decide
  have hfrom : "from" ∈ (plantQuery ["from"]).program.assigned := by decide
  refine ⟨⟨rfl, by decide, fun h => htwice h.once⟩, rfl, hfrom, fun h => ?_⟩
  exact h.apart "from" hfrom (by decide)

end WindowedQuery
end SeriesExport

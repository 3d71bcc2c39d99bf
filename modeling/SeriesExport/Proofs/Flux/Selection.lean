import SeriesExport.Proofs.Text.Delimited
import SeriesExport.Proofs.Traversal
import SeriesExport.Query.Series

/-! What the text of a selector says. Where no name breaks out of its quotes, bucket, range and filters
are read back from it one after another. Main statement: `selection_unambiguous`. -/
namespace SeriesExport
open Flux
set_option autoImplicit false

namespace Flux

/-! ## Names between quotes -/

/-- Of the characters that must not stand in a name, only the double quote ends it. -/
def Quotable (s : String) : Prop := '"' ∉ s.toList

instance (s : String) : Decidable (Quotable s) := inferInstanceAs (Decidable ('"' ∉ s.toList))

theorem quote_append_inj {a b x y : String} (ha : Quotable a) (hb : Quotable b)
    (h : quote a ++ x = quote b ++ y) : a = b ∧ x = y := by
  unfold quote at h
  simp only [String.append_assoc] at h
  exact Text.append_mark_inj rfl ha hb ((String.append_right_inj _).1 h)

structure Selector.Quotable (s : Selector) : Prop where
  bucket : Flux.Quotable s.bucket
  keys : ∀ f ∈ s.filters, Flux.Quotable f.1
  values : ∀ f ∈ s.filters, Flux.Quotable f.2

instance (s : Selector) : Decidable s.Quotable :=
  decidable_of_iff (Flux.Quotable s.bucket ∧ (∀ f ∈ s.filters, Flux.Quotable f.1) ∧
      ∀ f ∈ s.filters, Flux.Quotable f.2)
    ⟨fun h => ⟨h.1, h.2.1, h.2.2⟩, fun h => ⟨h.bucket, h.keys, h.values⟩⟩

theorem Source.bucket_append_inj {a b x y : String} (ha : Quotable a) (hb : Quotable b)
    (h : (Source.bucket a).text ++ x = (Source.bucket b).text ++ y) : a = b ∧ x = y := by
  unfold Source.text at h
  simp only [String.append_assoc, String.append_right_inj] at h
  obtain ⟨hname, hrest⟩ := quote_append_inj ha hb h
  exact ⟨hname, (String.append_right_inj _).1 hrest⟩

/-! ## Ranges -/

def Range.startText : Range → String
  | before _ => "-inf"
  | within start _ => toString start

def Range.stop : Range → Int
  | before stop => stop
  | within _ stop => stop

theorem Range.text_before (stop : Int) :
    (before stop).text = "range(start: -inf, stop: " ++ toString stop ++ ")" := rfl

theorem Range.text_within (start stop : Int) : (within start stop).text =
    "range(start: " ++ toString start ++ ", stop: " ++ toString stop ++ ")" := rfl

theorem Range.text_eq (r : Range) :
    r.text = "range(start: " ++ (r.startText ++ (", stop: " ++ (toString r.stop ++ ")"))) := by
  cases r with
  | before stop =>
    have hhead : "range(start: -inf, stop: " = "range(start: " ++ ("-inf" ++ ", stop: ") := by
      decide
    rw [text_before, hhead]
    simp only [startText, Range.stop, String.append_assoc]
  | within start stop =>
    rw [text_within]
    simp only [startText, Range.stop, String.append_assoc]

theorem Range.comma_not_mem_startText (r : Range) : ',' ∉ r.startText.toList := by
  cases r with
  | before _ => exact (by decide : ',' ∉ "-inf".toList)
  | within start _ => exact Text.not_mem_numeral (by decide) (by decide) start

/-- No number is written like the beginning of time. -/
theorem Range.eq_of_parts {r t : Range} (hstart : r.startText = t.startText) (hstop : r.stop = t.stop) :
    r = t := by
  have hletter : ∀ n : Int, "-inf" ≠ toString n := by
    intro n h
    have hmem : 'i' ∈ (toString n).toList := by
      rw [← h]
      decide
    exact Text.not_mem_numeral (by decide) (by decide) n hmem
  cases r with
  | before a =>
    cases t with
    | before b => exact congrArg before hstop
    | within start b => exact absurd hstart (hletter start)
  | within start a =>
    cases t with
    | before b => exact absurd hstart.symm (hletter start)
    | within start' b =>
      obtain rfl := Text.numeral_inj hstart
      exact congrArg (within start) hstop

theorem Stage.text_range (r : Range) : (Stage.range r).text = " |> " ++ r.text ++ "\n" := rfl

theorem Stage.text_filter (key value : String) : (Stage.filter key value).text =
    " |> " ++ ("filter(fn: (r) => r[" ++ quote key ++ "] == " ++ quote value ++ ")") ++ "\n" := rfl

theorem Stage.range_append_inj {r t : Range} {x y : String}
    (h : (Stage.range r).text ++ x = (Stage.range t).text ++ y) : r = t ∧ x = y := by
  rw [text_range, text_range, Range.text_eq, Range.text_eq] at h
  simp only [String.append_assoc, String.append_right_inj] at h
  obtain ⟨hstart, h⟩ :=
    Text.append_mark_inj rfl r.comma_not_mem_startText t.comma_not_mem_startText h
  have hclosing : ∀ n : Int, ')' ∉ (toString n).toList :=
    Text.not_mem_numeral (by decide) (by decide)
  obtain ⟨hstop, h⟩ := Text.append_mark_inj rfl (hclosing _) (hclosing _) h
  exact ⟨Range.eq_of_parts hstart (Text.numeral_inj hstop), (String.append_right_inj _).1 h⟩

/-! ## Filters -/

def stagesText (stages : List Stage) : String := String.join (stages.map Stage.text)

theorem stagesText_cons (s : Stage) (rest : List Stage) (x : String) :
    stagesText (s :: rest) ++ x = s.text ++ (stagesText rest ++ x) := by
  rw [stagesText, List.map_cons, String.join_cons, String.append_assoc]
  rfl

theorem stagesText_append (l m : List Stage) (x : String) :
    stagesText (l ++ m) ++ x = stagesText l ++ (stagesText m ++ x) := by
  rw [stagesText, List.map_append, String.join_append, String.append_assoc]
  rfl

/-- No filter stands first in a text. -/
def NoFilter (x : String) : Prop := ∀ key value y, x ≠ (Stage.filter key value).text ++ y

theorem noFilter_empty : NoFilter "" := by
  intro key value y h
  have hlength := congrArg String.length h
  have hhead : " |> ".length = 4 := rfl
  simp only [Stage.text_filter, String.length_append, String.length_empty] at hlength
  omega

theorem noFilter_stage {s : Stage} {c : Char} (hs : s.call.toList.head? = some c) (hc : c ≠ 'f')
    (x : String) : NoFilter (s.text ++ x) := by
  intro key value y h
  have hf : "filter(fn: (r) => r[".toList.head? = some 'f' := by decide
  rw [Stage.text, Stage.text_filter] at h
  simp only [String.append_assoc, String.append_right_inj] at h
  have hfirst := congrArg (fun t => t.toList.head?) h
  simp only [String.toList_append, List.head?_append, hs, hf] at hfirst
  exact hc (Option.some.inj hfirst)

theorem Stage.filter_append_inj {k l v w x y : String} (hk : Quotable k) (hl : Quotable l)
    (hv : Quotable v) (hw : Quotable w)
    (h : (Stage.filter k v).text ++ x = (Stage.filter l w).text ++ y) : k = l ∧ v = w ∧ x = y := by
  rw [text_filter, text_filter] at h
  simp only [String.append_assoc, String.append_right_inj] at h
  obtain ⟨hkey, h⟩ := quote_append_inj hk hl h
  rw [String.append_right_inj] at h
  obtain ⟨hvalue, h⟩ := quote_append_inj hv hw h
  simp only [String.append_right_inj] at h
  exact ⟨hkey, hvalue, h⟩

namespace Selector

theorem filters_append_inj {s t : Selector} (hs : s.Quotable) (ht : t.Quotable) {x y : String}
    (hx : NoFilter x) (hy : NoFilter y)
    (h : stagesText s.filterStages ++ x = stagesText t.filterStages ++ y) :
    s.filters = t.filters ∧ x = y := by
  obtain ⟨a, fs⟩ := s
  obtain ⟨b, gs⟩ := t
  have hskeys := hs.keys
  have hsvalues := hs.values
  have htkeys := ht.keys
  have htvalues := ht.values
  clear hs ht
  dsimp only [filterStages] at *
  induction fs generalizing gs with
  | nil =>
    cases gs with
    | nil => exact ⟨rfl, (String.append_right_inj _).1 h⟩
    | cons g gs =>
      rw [List.map_cons, stagesText_cons] at h
      exact absurd (by simpa [stagesText] using h) (hx g.1 g.2 _)
  | cons f fs ih =>
    cases gs with
    | nil =>
      rw [List.map_cons, stagesText_cons] at h
      exact absurd (by simpa [stagesText] using h.symm) (hy f.1 f.2 _)
    | cons g gs =>
      rw [List.map_cons, List.map_cons, stagesText_cons, stagesText_cons] at h
      rw [List.forall_mem_cons] at hskeys hsvalues htkeys htvalues
      obtain ⟨hkey, hvalue, h⟩ :=
        Stage.filter_append_inj hskeys.1 htkeys.1 hsvalues.1 htvalues.1 h
      obtain ⟨hrest, hxy⟩ := ih gs h hskeys.2 hsvalues.2 htkeys.2 htvalues.2
      exact ⟨congrArg₂ List.cons (Prod.ext hkey hvalue) hrest, hxy⟩

/-! ## Selectors -/

theorem pipeline_text (s : Selector) (r : Range) (rest : List Stage) (x : String) :
    (s.pipeline r rest).text ++ x = (Source.bucket s.bucket).text ++ ((Stage.range r).text ++
      (stagesText s.filterStages ++ (stagesText rest ++ x))) := by
  have hstages : (s.pipeline r rest).text = (Source.bucket s.bucket).text ++
      stagesText (.range r :: (s.filterStages ++ rest)) := rfl
  rw [hstages, String.append_assoc, stagesText_cons, stagesText_append]

/-- A text that begins with a pipeline over a selector gives back selector and range. -/
theorem pipeline_append_inj {s t : Selector} (hs : s.Quotable) (ht : t.Quotable) {q r : Range}
    {l m : List Stage} {x y : String} (hl : NoFilter (stagesText l ++ x))
    (hm : NoFilter (stagesText m ++ y))
    (h : (s.pipeline q l).text ++ x = (t.pipeline r m).text ++ y) : s = t ∧ q = r := by
  rw [pipeline_text, pipeline_text] at h
  obtain ⟨hbucket, h⟩ := Source.bucket_append_inj hs.bucket ht.bucket h
  obtain ⟨hrange, h⟩ := Stage.range_append_inj h
  obtain ⟨hfilters, _⟩ := filters_append_inj hs ht hl hm h
  cases s
  cases t
  cases hbucket
  cases hfilters
  exact ⟨rfl, hrange⟩

end Selector

/-- Which part of time a selector reads for a span: the span itself, or all before it. -/
inductive RangeKind where
  | span | before
  deriving DecidableEq

def RangeKind.range : RangeKind → Span → Range
  | span => rangeOf
  | before => rangeBefore

theorem RangeKind.range_eq_iff {j k : RangeKind} {a b : Span} : j.range a = k.range b ↔
    j = k ∧ a.start.second = b.start.second ∧ (j = .span → a.stop.second = b.stop.second) := by
  cases j <;> cases k <;> simp [range, rangeOf, rangeBefore]

/-- The text of the pipeline that does nothing but select. -/
def Selector.text (s : Selector) (span : Span) (kind : RangeKind) : String :=
  (s.pipeline (kind.range span) []).text

theorem Selector.text_inj {s t : Selector} (hs : s.Quotable) (ht : t.Quotable) {a b : Span}
    {j k : RangeKind} (h : s.text a j = t.text b k) : s = t ∧ j.range a = k.range b := by
  have hnone : NoFilter (stagesText [] ++ "") := noFilter_empty
  refine pipeline_append_inj hs ht hnone hnone ?_
  rw [String.append_empty, String.append_empty]
  exact h

end Flux

/-! ## Programs of series -/

namespace SeriesQuery

theorem of_compile {buckets : Buckets} {shape : RecordShape} {keep : PointFilter} {i : Item}
    {q : SeriesQuery} (h : compile buckets shape keep i = .ok q) :
    ∃ bucket, buckets i.domain = some bucket ∧ q = { item := i, selector := .ofItem bucket i, keep } := by
  unfold compile at h
  obtain ⟨_, _, hrest⟩ := bind_eq_ok_iff.1 h
  obtain ⟨bucket, hbucket, hq⟩ := bind_eq_ok_iff.1 hrest
  exact ⟨bucket, Buckets.find_eq_ok_iff.1 hbucket, (Except.ok.inj hq).symm⟩

theorem noFilter_shaping (q : SeriesQuery) (x : String) : NoFilter (stagesText q.shaping ++ x) := by
  unfold shaping
  cases q.keep with
  | all | changes =>
    dsimp only [reshapeSeries]
    rw [stagesText_cons]
    exact noFilter_stage (c := 'k') (by decide) (by decide) _
  | discontinuities band =>
    dsimp only [addSteps, List.cons_append]
    rw [stagesText_cons]
    exact noFilter_stage (c := 'g') (by decide) (by decide) _

theorem text_statements_cons (s : Statement) (ss : List Statement) :
    (Program.statements (s :: ss)).text = s.text ++ String.join (ss.map Statement.text) :=
  String.join_cons

/-- The statement for the last value before the span. -/
def opening (q : SeriesQuery) : Statement where
  binding := some "openValue"
  pipeline := q.selector.pipeline (rangeBefore q.item.span) [.last]
  spaced := true

/-- A program that asks for the open value begins with the selector over all before the span. -/
theorem exists_text_of_open {q : SeriesQuery} (h : q.withOpenValue = true) :
    ∃ x, q.program.text = "openValue" ++ (" = " ++
      ((q.selector.pipeline (rangeBefore q.item.span) [.last]).text ++ ("\n" ++ x))) := by
  obtain ⟨others, hothers⟩ : ∃ others, q.program = .statements (q.opening :: others) :=
    ⟨_, if_pos h⟩
  refine ⟨String.join (others.map Statement.text), ?_⟩
  rw [hothers, text_statements_cons, Statement.text]
  simp only [opening, String.append_assoc, if_true]

/-- One that does not begins with the selector over the span. -/
theorem text_of_not_open {q : SeriesQuery} (h : q.withOpenValue = false) :
    q.program.text = (q.selector.pipeline (rangeOf q.item.span) q.shaping).text ++ "" := by
  have hprogram : q.program =
      .statements [{ pipeline := q.selector.pipeline (rangeOf q.item.span) q.shaping }] :=
    if_neg (Bool.eq_false_iff.1 h)
  rw [hprogram, text_statements_cons, Statement.text]
  simp

theorem selector_eq_of_text {q r : SeriesQuery} (hopen : q.withOpenValue = r.withOpenValue)
    (hq : q.selector.Quotable) (hr : r.selector.Quotable) (h : q.program.text = r.program.text) :
    q.selector = r.selector := by
  by_cases hq' : q.withOpenValue = true
  · obtain ⟨x, hx⟩ := exists_text_of_open hq'
    obtain ⟨y, hy⟩ := exists_text_of_open (hopen ▸ hq')
    have hlast : ∀ z, NoFilter (stagesText [.last] ++ z) := by
      intro z
      rw [stagesText_cons]
      exact noFilter_stage (c := 'l') (by decide) (by decide) _
    rw [hx, hy, String.append_right_inj, String.append_right_inj] at h
    exact (Selector.pipeline_append_inj hq hr (hlast _) (hlast _) h).1
  · rw [Bool.not_eq_true] at hq'
    rw [text_of_not_open hq', text_of_not_open (hopen ▸ hq')] at h
    exact (Selector.pipeline_append_inj hq hr (q.noFilter_shaping _) (r.noFilter_shaping _) h).1

/-- Nothing but selector, span and filter of points is in a program. -/
theorem program_congr {q r : SeriesQuery} (hopen : q.withOpenValue = r.withOpenValue)
    (hkeep : q.keep = r.keep) (hselector : q.selector = r.selector)
    (hspan : q.item.span.Alike r.item.span) : q.program = r.program := by
  have hshaping : q.shaping = r.shaping := by
    unfold shaping
    rw [hkeep]
  have hbefore : rangeBefore q.item.span = rangeBefore r.item.span := by
    rw [rangeBefore, rangeBefore, hspan.1]
  have hof : rangeOf q.item.span = rangeOf r.item.span := by
    rw [rangeOf, rangeOf, hspan.1, hspan.2.1]
  unfold program
  dsimp only
  rw [hopen, hselector, hshaping, hbefore, hof]

end SeriesQuery

theorem Flux.Selector.ofItem_inj {bucket : String} {i j : Item} :
    ofItem bucket i = ofItem bucket j ↔ i.measurement = j.measurement ∧ i.tags = j.tags := by
  simp only [ofItem, Selector.mk.injEq, List.cons.injEq, Prod.mk.injEq, true_and]
  exact and_congr_right fun _ => ⟨SortedMap.ext, congrArg _⟩

/-- Selectors that give one text are the same, over the same seconds. So two items with one domain and
one span have one program exactly when their measurements and tags are the same. -/
theorem selection_unambiguous :
    (∀ {s t : Selector} {a b : Span} {j k : RangeKind}, s.Quotable → t.Quotable →
      s.text a j = t.text b k →
        j = k ∧ s.bucket = t.bucket ∧ s.filters = t.filters ∧ a.start.second = b.start.second ∧
          (j = .span → a.stop.second = b.stop.second)) ∧
    ∀ {buckets : Buckets} {shape shape' : RecordShape} {keep : PointFilter} {i i' : Item}
      {q q' : SeriesQuery} (withOpenValue : Bool),
      SeriesQuery.compile buckets shape keep i = .ok q →
      SeriesQuery.compile buckets shape' keep i' = .ok q' →
      q.selector.Quotable → q'.selector.Quotable → i.domain = i'.domain → i.span.Alike i'.span →
        ({ q with withOpenValue }.program.text = { q' with withOpenValue }.program.text ↔
          i.measurement = i'.measurement ∧ i.tags = i'.tags) := by
  constructor
  · intro s t a b j k hs ht h
    obtain ⟨rfl, hrange⟩ := Selector.text_inj hs ht h
    obtain ⟨hkind, hseconds⟩ := RangeKind.range_eq_iff.1 hrange
    exact ⟨hkind, rfl, rfl, hseconds⟩
  · intro buckets shape shape' keep i i' q q' withOpenValue hq hq' hs hs' hdomain hspan
    obtain ⟨bucket, hbucket, rfl⟩ := SeriesQuery.of_compile hq
    obtain ⟨bucket', hbucket', rfl⟩ := SeriesQuery.of_compile hq'
    rw [hdomain, hbucket'] at hbucket
    cases hbucket
    have hselectors : Selector.ofItem bucket i = Selector.ofItem bucket i' ↔
        i.measurement = i'.measurement ∧ i.tags = i'.tags := Selector.ofItem_inj
    rw [← hselectors]
    constructor
    · exact SeriesQuery.selector_eq_of_text rfl hs hs'
    · intro hselector
      exact congrArg Program.text (SeriesQuery.program_congr rfl rfl hselector hspan)

/-! ## A plant with two sites -/

def halfHour (windowCount : UInt32) (windowWidth : Duration) : Span where
  start := .epoch
  stop := { Instant.epoch with second := 1800, inRange := by decide, leap_last := by decide }
  width := .ofSeconds 1800
  windowCount
  windowWidth
  windowSource := .count

/-- The power at a site, whose name may hold anything but a double quote. -/
def sitePower (site : String) : Item where
  domain := "plant"
  span := halfHour 6 (.ofSeconds 300)
  exportName := "p"
  measurement := "power"
  tags := .ofList [("site", site)]
  exporter := .raw

def siteQuery (site : String) : SeriesQuery where
  item := sitePower site
  selector := .ofItem "b" (sitePower site)

theorem sites_told_apart :
    ((siteQuery "a ]").selector.Quotable ∧
      (siteQuery "a ]").selector.text (halfHour 6 (.ofSeconds 300)) .span =
        (siteQuery "a ]").selector.text (halfHour 3 (.ofSeconds 600)) .span ∧
      (halfHour 6 (.ofSeconds 300)).stop.second = (halfHour 3 (.ofSeconds 600)).stop.second) ∧
    SeriesQuery.compile (fun _ => some "b") .loneValue .all (sitePower "a") = .ok (siteQuery "a") ∧
      SeriesQuery.compile (fun _ => some "b") .loneValue .all (sitePower "b") = .ok (siteQuery "b") ∧
      { siteQuery "a" with withOpenValue := false }.program.text ≠
        { siteQuery "b" with withOpenValue := false }.program.text := by
  have hquotable : (siteQuery "a ]").selector.Quotable := by decide
  have htext : (siteQuery "a ]").selector.text (halfHour 6 (.ofSeconds 300)) .span =
      (siteQuery "a ]").selector.text (halfHour 3 (.ofSeconds 600)) .span := by
    have hrange : RangeKind.span.range (halfHour 6 (.ofSeconds 300)) =
        RangeKind.span.range (halfHour 3 (.ofSeconds 600)) := rfl
    rw [Selector.text, Selector.text, hrange]
  have hread := selection_unambiguous.1 hquotable hquotable htext
  have ha : SeriesQuery.compile (fun _ => some "b") .loneValue .all (sitePower "a") =
      .ok (siteQuery "a") := rfl
  have hb : SeriesQuery.compile (fun _ => some "b") .loneValue .all (sitePower "b") =
      .ok (siteQuery "b") := rfl
  refine ⟨⟨hquotable, htext, hread.2.2.2.2 rfl⟩, ha, hb, fun h => ?_⟩
  have hitems := (selection_unambiguous.2 false ha hb (by decide) (by decide) rfl (by decide)).1 h
  exact absurd hitems.2 (by decide)

end SeriesExport

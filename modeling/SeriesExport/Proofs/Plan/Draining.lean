import SeriesExport.Proofs.Plan.Compiling

/-! What a domain yields when all its queries are taken: the results of the items with a query of
their own, then the errors of the refused windowed items, and last the one query of all windowed
items when there are any and none was refused. -/
namespace SeriesExport
open Flux
set_option autoImplicit false

variable {buckets : Buckets} {domain : String}

/-- The one query of all windowed items, unless there are none or one was refused. -/
def merged (buckets : Buckets) (refused : Bool) : List Item → List (Except QueryError NamedQuery)
  | [] => []
  | first :: rest =>
    if refused then []
    else
      match buckets first.domain with
      | none => []
      | some bucket =>
        [.ok ⟨windowedName, .windowed ⟨first.span, (first :: rest).map (.ofItem bucket)⟩⟩]

theorem merged_refused (items : List Item) : merged buckets true items = [] := by
  cases items <;> rfl

theorem merged_accepted {items : List Item} {bucket : String} (hne : items ≠ [])
    (hd : ∀ i ∈ items, i.domain = domain) (hb : buckets domain = some bucket) :
    ∃ q, merged buckets false items = [.ok ⟨windowedName, .windowed q⟩] ∧
      q.channels = items.map (.ofItem bucket) ∧
      ∀ cs : ChannelList, cs.channels = items.map (.ofItem bucket) →
        WindowedQuery.ofChannels cs = .ok q := by
  cases items with
  | nil => exact absurd rfl hne
  | cons first rest =>
    rw [merged, hd first List.mem_cons_self, hb]
    refine ⟨_, rfl, rfl, fun cs hcs => ?_⟩
    rw [WindowedQuery.ofChannels, hcs]
    rfl

namespace Generator

/-- Taking one query after another gives these results and then nothing. -/
inductive Drains : Generator → List (Except QueryError NamedQuery) → Prop
  | done {g : Generator} (h : g.next = none) : Drains g []
  | step {g rest : Generator} {r : Except QueryError NamedQuery}
      {rs : List (Except QueryError NamedQuery)} (h : g.next = some (r, rest))
      (hrest : Drains rest rs) : Drains g (r :: rs)

theorem Drains.take_eq {g : Generator} {rs : List (Except QueryError NamedQuery)} (h : g.Drains rs)
    (limit : Nat) : g.take limit = rs.take limit := by
  induction h generalizing limit with
  | done h =>
    cases limit with
    | zero => rfl
    | succ limit =>
      rw [take, h, List.take_nil]
  | step h _ ih =>
    cases limit with
    | zero => rfl
    | succ limit =>
      rw [take, h, List.take_succ_cons]
      dsimp only
      rw [ih]

theorem Drains.of_next_eq {g g' : Generator} {rs : List (Except QueryError NamedQuery)}
    (h : g'.Drains rs) (hnext : g.next = g'.next) : g.Drains rs := by
  cases h with
  | done h => exact .done (hnext.trans h)
  | step h hrest => exact .step (hnext.trans h) hrest

/-! ## One query -/

variable {g g' : Generator} {i : Item} {rest : List Item}

theorem go_items (walked items : List Item) (g : Generator) :
    next.go walked { g with items } = next.go walked g := by
  induction walked generalizing g with
  | nil => rfl
  | cons i rest ih =>
    unfold next.go gather
    dsimp only
    by_cases hw : i.exporter.isWindowed = true
    · rw [if_pos hw, if_pos hw]
      cases (g.channels.getD { buckets := g.buckets }).add i.shape i with
      | ok more => exact ih { g with channels := some more }
      | error e => rfl
    · rw [if_neg hw, if_neg hw]

theorem next_end (hitems : g.items = []) : g.next = g.close := by
  rw [next, hitems]
  rfl

theorem next_own (hitems : g.items = i :: rest) (hw : i.exporter.isWindowed = false) :
    g.next = some (i.ownResult g.buckets, { g with items := rest }) := by
  have hown : ¬ i.exporter.isWindowed = true := by
    rw [hw]
    decide
  rw [next, hitems, next.go, if_neg hown, compile_eq g.buckets hw, Item.map_checked]
  rfl

theorem next_refused {e : QueryError} (hitems : g.items = i :: rest)
    (hw : i.exporter.isWindowed = true) (hg : g.gather i = (some e, g')) :
    g.next = some (.error e, { g' with items := rest }) := by
  rw [next, hitems, next.go, if_pos hw, hg]

theorem next_gathered (hitems : g.items = i :: rest) (hw : i.exporter.isWindowed = true)
    (hg : g.gather i = (none, g')) : g.next = next { g' with items := rest } := by
  rw [next, hitems, next.go, if_pos hw, hg]
  exact (go_items rest rest g').symm

/-! ## Items with a query of their own -/

theorem drains_own {own : List Item} {rs : List (Except QueryError NamedQuery)}
    (hown : ∀ i ∈ own, i.exporter.isWindowed = false)
    (hrest : Drains { g with items := rest } rs) :
    Drains { g with items := own ++ rest } (own.map (Item.ownResult g.buckets) ++ rs) := by
  induction own with
  | nil => exact hrest
  | cons i own ih =>
    have hnext := next_own (g := { g with items := i :: own ++ rest }) rfl
      (hown i List.mem_cons_self)
    exact .step hnext (ih fun j hj => hown j (List.mem_cons_of_mem i hj))

/-! ## Windowed items -/

def gathered (g : Generator) : ChannelList := g.channels.getD { buckets := g.buckets }

theorem drains_end {taken : List Item} (hitems : g.items = [])
    (hg : g.gathered.Gathers g.buckets domain taken) (hd : ∀ i ∈ taken, i.domain = domain) :
    g.Drains (merged g.buckets g.refused taken) := by
  have hstop : next { buckets := g.buckets, items := [] } = none := rfl
  have hclose := next_end hitems
  unfold close at hclose
  cases hc : g.channels with
  | none =>
    have hchannels : g.gathered.channels = [] := by
      rw [gathered, hc]
      rfl
    rw [hc] at hclose
    rw [hg.channels_eq_nil_iff.1 hchannels]
    exact .done hclose
  | some cs =>
    have hcs : g.gathered = cs := by rw [gathered, hc, Option.getD_some]
    rw [hcs] at hg
    rw [hc] at hclose
    dsimp only at hclose
    by_cases hnil : taken = []
    · rw [hg.channels_eq_nil_iff.2 hnil] at hclose
      rw [hnil]
      exact .done hclose
    obtain ⟨bucket, hbucket, hchannels⟩ := hg.exists_bucket hnil
    have hne : cs.channels.isEmpty = false :=
      List.isEmpty_eq_false_iff.2 fun h => hnil (hg.channels_eq_nil_iff.1 h)
    rw [hne, Bool.false_or] at hclose
    cases hr : g.refused with
    | true =>
      rw [hr, if_pos rfl] at hclose
      rw [merged_refused]
      exact .done hclose
    | false =>
      obtain ⟨q, hmerged, _, hq⟩ := merged_accepted hnil hd hbucket
      rw [hr, if_neg (by decide), hq cs hchannels] at hclose
      rw [hmerged]
      exact .step hclose (.done hstop)

theorem gather_cases {taken : List Item} (hw : i.exporter.isWindowed = true)
    (hg : g.gathered.Gathers g.buckets i.domain taken) (hd : ∀ c ∈ taken, c.domain = i.domain)
    (hs : ∀ c ∈ taken, i.span.Alike c.span) :
    match i.refusal? g.buckets taken with
    | some e => g.gather i = (some e, { g with channels := some g.gathered, refused := true })
    | none => ∃ more, g.gather i = (none, { g with channels := some more }) ∧
        more.Gathers g.buckets i.domain (taken ++ [i]) := by
  have hadd := add_channel_eq hw hg hd hs
  unfold gathered at hadd
  unfold gather
  dsimp only
  cases hr : i.refusal? g.buckets taken with
  | some e =>
    rw [hr] at hadd
    dsimp only at hadd ⊢
    rw [hadd]
    rfl
  | none =>
    rw [hr] at hadd
    obtain ⟨more, hmore, hgathers⟩ := hadd
    refine ⟨more, ?_, hgathers⟩
    rw [hmore]

theorem drains_windowed {taken : List Item} (hitems : g.items = rest)
    (hg : g.gathered.Gathers g.buckets domain taken)
    (hw : ∀ i ∈ rest, i.exporter.isWindowed = true)
    (hd : ∀ i ∈ taken ++ rest, i.domain = domain)
    (hs : ∀ i ∈ taken ++ rest, ∀ j ∈ taken ++ rest, i.span.Alike j.span) :
    g.Drains ((refusals g.buckets taken rest).map .error ++
      merged g.buckets (g.refused || !(refusals g.buckets taken rest).isEmpty) (taken ++ rest)) := by
  induction rest generalizing g taken with
  | nil =>
    rw [refusals, List.append_nil]
    rw [List.append_nil] at hd
    have h := drains_end hitems hg hd
    simpa using h
  | cons i rest ih =>
    have hi : i.domain = domain := hd i (by simp)
    have hcases := gather_cases (hw i List.mem_cons_self) (hi.symm ▸ hg)
      (fun c hc => (hd c (List.mem_append_left _ hc)).trans hi.symm)
      (fun c hc => hs i (by simp) c (List.mem_append_left _ hc))
    have hwrest : ∀ j ∈ rest, j.exporter.isWindowed = true :=
      fun j hj => hw j (List.mem_cons_of_mem i hj)
    rw [refusals]
    cases hr : i.refusal? g.buckets taken with
    | some e =>
      rw [hr] at hcases
      have hsub : ∀ j ∈ taken ++ rest, j ∈ taken ++ i :: rest := by
        intro j hj
        rcases List.mem_append.1 hj with h | h
        · exact List.mem_append_left _ h
        · exact List.mem_append_right _ (List.mem_cons_of_mem i h)
      have hrest := ih (g := { g with items := rest, channels := some g.gathered, refused := true })
        rfl hg hwrest (fun j hj => hd j (hsub j hj))
        (fun j hj k hk => hs j (hsub j hj) k (hsub k hk))
      -- A refused item leaves no query to merge, so it does not matter that `i` is no channel.
      rw [Bool.true_or, merged_refused] at hrest
      have hmerged : ∀ es : List QueryError,
          merged g.buckets (g.refused || !(e :: es).isEmpty) (taken ++ i :: rest) = [] := by
        intro es
        rw [List.isEmpty_cons, Bool.not_false, Bool.or_true, merged_refused]
      dsimp only
      rw [hmerged]
      exact .step (next_refused hitems (hw i List.mem_cons_self) hcases) hrest
    | none =>
      rw [hr] at hcases
      obtain ⟨more, hgather, hmore⟩ := hcases
      have hsplit : taken ++ i :: rest = taken ++ [i] ++ rest := by simp
      rw [hsplit] at hd hs ⊢
      have hrest := ih (g := { g with items := rest, channels := some more }) rfl
        (hi ▸ hmore) hwrest hd hs
      exact hrest.of_next_eq (next_gathered hitems (hw i List.mem_cons_self) hgather)

/-! ## Any items -/

/-- Whatever the items are, each makes for one result at most, and all windowed ones for one more. -/
theorem exists_drains (g : Generator) : ∃ rs, g.Drains rs ∧ rs.length ≤ g.items.length + 1 := by
  induction hitems : g.items generalizing g with
  | nil =>
    cases hclose : g.close with
    | none => exact ⟨[], .done ((next_end hitems).trans hclose), Nat.zero_le _⟩
    | some last =>
      have hstop : last.2.next = none := by
        unfold close at hclose
        cases hc : g.channels with
        | none =>
          rw [hc] at hclose
          cases hclose
        | some channels =>
          rw [hc] at hclose
          dsimp only at hclose
          split at hclose
          · cases hclose
          · cases hclose
            rfl
      exact ⟨[last.1], .step ((next_end hitems).trans hclose) (.done hstop), Nat.le_refl _⟩
  | cons i items ih =>
    by_cases hw : i.exporter.isWindowed = true
    · cases hgather : g.gather i with
      | mk refusal more =>
        obtain ⟨rs, hrs, hlength⟩ := ih { more with items } rfl
        cases refusal with
        | some e =>
          exact ⟨_, .step (next_refused hitems hw hgather) hrs, Nat.succ_le_succ hlength⟩
        | none =>
          exact ⟨rs, hrs.of_next_eq (next_gathered hitems hw hgather), Nat.le_succ_of_le hlength⟩
    · obtain ⟨rs, hrs, hlength⟩ := ih { g with items } rfl
      exact ⟨_, .step (next_own hitems (Bool.eq_false_iff.2 hw)) hrs, Nat.succ_le_succ hlength⟩

end Generator

/-! ## All queries of a domain -/

namespace Plan

def refusedOf (buckets : Buckets) (domain : String) (items : List Item) : List QueryError :=
  refusals buckets [] (windowedItems domain items)

/-- The query of all windowed items of a domain, unless there are none or one is refused. -/
def mergedOf (buckets : Buckets) (domain : String) (items : List Item) :
    List (Except QueryError NamedQuery) :=
  merged buckets (!(refusedOf buckets domain items).isEmpty) (windowedItems domain items)

/-- The results of a domain that has some of the given items. -/
def resultsOf (buckets : Buckets) (domain : String) (items : List Item) :
    List (Except QueryError NamedQuery) :=
  (ownItems domain items).map (Item.ownResult buckets) ++
    ((refusedOf buckets domain items).map .error ++ mergedOf buckets domain items)

theorem Holds.drains {p : Plan} {items : List Item} (h : p.Holds items) (buckets : Buckets)
    (domain : String) : (p.generator buckets domain).Drains (resultsOf buckets domain items) := by
  have hitems : p.generator buckets domain =
      { buckets, items := ownItems domain items ++ windowedItems domain items } := by
    rw [generator, h.itemsOf_eq, ownItems_append_windowedItems]
  rw [hitems]
  have hnone : ChannelList.Gathers { buckets } buckets domain [] := ⟨rfl, Or.inl ⟨rfl, rfl⟩⟩
  have hwindowed := Generator.drains_windowed (g := { buckets, items := windowedItems domain items })
    rfl hnone (fun i hi => (mem_windowedItems.1 hi).2.2) (fun i hi => (mem_windowedItems.1 hi).2.1)
    (fun i hi j hj => h.alike_each (mem_windowedItems.1 hi).1 (mem_windowedItems.1 hj).1)
  rw [Bool.false_or] at hwindowed
  exact Generator.drains_own (g := { buckets, items := windowedItems domain items })
    (fun i hi => (mem_ownItems.1 hi).2.2) hwindowed

/-- The queries of a domain are all that its generator yields. -/
theorem drains_queries (p : Plan) (buckets : Buckets) (domain : String) :
    (p.generator buckets domain).Drains (p.queries buckets domain) := by
  obtain ⟨rs, hrs, hlength⟩ := (p.generator buckets domain).exists_drains
  have hqueries : p.queries buckets domain = rs := by
    rw [queries, hrs.take_eq]
    exact List.take_of_length_le hlength
  rw [hqueries]
  exact hrs

theorem length_mergedOf (buckets : Buckets) (domain : String) (items : List Item) :
    (mergedOf buckets domain items).length ≤ 1 := by
  unfold mergedOf
  cases windowedItems domain items with
  | nil => exact Nat.zero_le 1
  | cons first rest =>
    rw [merged]
    split
    · exact Nat.zero_le 1
    split
    · exact Nat.zero_le 1
    · exact Nat.le_refl 1

theorem Holds.queries_eq {p : Plan} {items : List Item} (h : p.Holds items) (buckets : Buckets)
    (domain : String) : p.queries buckets domain = resultsOf buckets domain items := by
  rw [queries, (h.drains buckets domain).take_eq]
  -- There is one query for each item at most, and one more for the windowed items together.
  apply List.take_of_length_le
  have hown : (ownItems domain items).length + (windowedItems domain items).length =
      (p.itemsOf domain).length := by
    rw [h.itemsOf_eq, ← ownItems_append_windowedItems, List.length_append]
  have hrefused : (refusedOf buckets domain items).length ≤ (windowedItems domain items).length :=
    length_refusals buckets [] _
  have hmerged := length_mergedOf buckets domain items
  rw [resultsOf, List.length_append, List.length_append, List.length_map, List.length_map]
  omega

/-- There is a query of all windowed items exactly where there are some and none is refused. -/
theorem mergedOf_cases (buckets : Buckets) (domain : String) (items : List Item) :
    (windowedItems domain items ≠ [] ∧ refusedOf buckets domain items = [] ∧
      ∃ q, mergedOf buckets domain items = [.ok ⟨windowedName, .windowed q⟩] ∧
        q.channels.map Channel.item = windowedItems domain items) ∨
    ((windowedItems domain items = [] ∨ refusedOf buckets domain items ≠ []) ∧
      mergedOf buckets domain items = []) := by
  have hd : ∀ i ∈ windowedItems domain items, i.domain = domain :=
    fun i hi => (mem_windowedItems.1 hi).2.1
  unfold mergedOf
  by_cases hne : windowedItems domain items = []
  · rw [hne]
    exact Or.inr ⟨Or.inl rfl, rfl⟩
  cases hr : refusedOf buckets domain items with
  | cons e es => exact Or.inr ⟨Or.inr nofun, merged_refused _⟩
  | nil =>
    obtain ⟨bucket, hb⟩ := exists_bucket hne hd hr
    obtain ⟨q, hq, hchannels, _⟩ := merged_accepted hne hd hb
    refine Or.inl ⟨hne, rfl, q, hq, ?_⟩
    rw [hchannels, List.map_map]
    exact List.map_id _

theorem error_mem_resultsOf {items : List Item} {e : QueryError}
    (h : .error e ∈ resultsOf buckets domain items) : e = .unknownDomain domain ∨
      ∃ i ∈ items, e = .unsupportedShape i.fields ∨ i ∈ windowedItems domain items ∧
        (e = .unsupportedAggregator i.exporter ∨ ∃ c ∈ windowedItems domain items,
          e = .channelMismatch (.table i.exportName c.exportName)) := by
  rcases List.mem_append.1 h with h | h
  · obtain ⟨i, hi, he⟩ := List.mem_map.1 h
    obtain ⟨hin, hd, hw⟩ := mem_ownItems.1 hi
    obtain ⟨_, h⟩ | ⟨_, _, h⟩ | ⟨_, _, _, _, h, _⟩ := i.ownResult_cases buckets hw
    · cases he.symm.trans h
      exact Or.inr ⟨i, hin, Or.inl rfl⟩
    · cases he.symm.trans h
      exact Or.inl (by rw [hd])
    · cases he.symm.trans h
  rcases List.mem_append.1 h with h | h
  · obtain ⟨e', he', hee⟩ := List.mem_map.1 h
    cases hee
    obtain ⟨i, hi, taken, htaken, hrefusal⟩ := mem_refusals he'
    obtain ⟨hin, hd, _⟩ := mem_windowedItems.1 hi
    obtain rfl | rfl | rfl | ⟨c, hc, rfl⟩ := Item.refusal?_cases hrefusal
    · exact Or.inr ⟨i, hin, Or.inl rfl⟩
    · exact Or.inr ⟨i, hin, Or.inr ⟨hi, Or.inl rfl⟩⟩
    · exact Or.inl (by rw [hd])
    · exact Or.inr ⟨i, hin, Or.inr ⟨hi, Or.inr ⟨c, htaken c hc, rfl⟩⟩⟩
  · obtain ⟨_, _, q, hq, _⟩ | ⟨_, hnil⟩ := mergedOf_cases buckets domain items
    · rw [hq] at h
      cases List.mem_singleton.1 h
    · rw [hnil] at h
      exact absurd h List.not_mem_nil

theorem resultsOf_of_unpopulated {items : List Item} (h : ∀ i ∈ items, i.domain ≠ domain) :
    resultsOf buckets domain items = [] := by
  have hown : ownItems domain items = [] :=
    List.eq_nil_iff_forall_not_mem.2 fun i hi =>
      h i (mem_ownItems.1 hi).1 (mem_ownItems.1 hi).2.1
  have hwindowed : windowedItems domain items = [] :=
    List.eq_nil_iff_forall_not_mem.2 fun i hi =>
      h i (mem_windowedItems.1 hi).1 (mem_windowedItems.1 hi).2.1
  rw [resultsOf, mergedOf, refusedOf, hown, hwindowed]
  rfl

/-- Draining the queries of a domain, after any run of offers on the empty plan. -/
theorem generator_drains (offered : List Item) (buckets : Buckets) (domain : String) :
    let p := empty.offerAll offered
    let items := empty.accepted offered
    let own := ownItems domain items
    let windowed := windowedItems domain items
    let refused := refusals buckets [] windowed
    let last := mergedOf buckets domain items
    let results := own.map (Item.ownResult buckets) ++ (refused.map .error ++ last)
    (p.generator buckets domain).Drains results ∧ p.queries buckets domain = results ∧
      (own ++ windowed = p.itemsOf domain ∧
        (own ++ windowed).Perm (items.filter fun i => i.domain = domain)) ∧
      (∀ i ∈ own,
        (¬ i.HoldsLoneValue ∧ i.ownResult buckets = .error (.unsupportedShape i.fields)) ∨
        (i.HoldsLoneValue ∧ buckets domain = none ∧
          i.ownResult buckets = .error (.unknownDomain domain)) ∨
        (i.HoldsLoneValue ∧ ∃ bucket q, buckets domain = some bucket ∧
          i.ownResult buckets = .ok q ∧ q.name = i.exportName ∧
          q.query.strategy = .single i.exporter)) ∧
      (∀ i ∈ windowed, ∀ taken, i.refusal? buckets taken ≠ none ↔ ¬ i.HoldsLoneValue ∨
        i.exporter = .windowedBand ∨ i.exporter = .windowedCount ∨ buckets domain = none ∨
          ∃ c ∈ taken, identifier c.exportName = identifier i.exportName) ∧
      ((windowed ≠ [] ∧ refused = [] ∧ ∃ q, last = [.ok ⟨windowedName, .windowed q⟩] ∧
          q.channels.map Channel.item = windowed) ∨
        ((windowed = [] ∨ refused ≠ []) ∧ last = [])) ∧
      ((∃ i ∈ items, i.domain = domain) ∨ results = []) ∧
      ∀ e, .error e ∈ results → e = .unknownDomain domain ∨
        ∃ i ∈ items, e = .unsupportedShape i.fields ∨ i ∈ windowed ∧
          (e = .unsupportedAggregator i.exporter ∨
            ∃ c ∈ windowed, e = .channelMismatch (.table i.exportName c.exportName)) := by
  have hp := holds_offerAll offered
  refine ⟨hp.drains buckets domain, hp.queries_eq buckets domain, ⟨?_, ?_⟩, ?_, ?_,
    mergedOf_cases buckets domain _, ?_, fun e => error_mem_resultsOf⟩
  · rw [hp.itemsOf_eq]
    exact ownItems_append_windowedItems domain _
  · rw [ownItems_append_windowedItems]
    exact inOrder_perm domain _
  · intro i hi
    obtain ⟨_, hd, hw⟩ := mem_ownItems.1 hi
    have hcases := i.ownResult_cases buckets hw
    rwa [hd] at hcases
  · intro i hi taken
    rw [← (mem_windowedItems.1 hi).2.1]
    exact Item.refusal?_ne_none_iff
  · by_cases hmine : ∃ i ∈ empty.accepted offered, i.domain = domain
    · exact Or.inl hmine
    · exact Or.inr (resultsOf_of_unpopulated fun i hi hd => hmine ⟨i, hi, hd⟩)

end Plan
end SeriesExport

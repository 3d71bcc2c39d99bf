import SeriesExport.Proofs.Plan.Runs
import SeriesExport.Proofs.Text.ByteOrder

/-! The books of a plan. Whatever is offered, groups, span, names and common tags agree on the items
that were accepted. Main statement: `books_offerAll`. -/
namespace SeriesExport
set_option autoImplicit false

namespace Plan

/-- What every addition keeps up: the plan holds the items, no group is empty, a span is fixed by the
first item, and the tags are those on which all items agree. -/
structure Keeps (p : Plan) (items : List Item) : Prop extends p.Holds items where
  populated : ∀ domain g, p.groupsOf domain = some g →
    g.entries ≠ [] ∧ ∀ s stored, g.get? s = some stored → stored ≠ []
  span_eq_none_iff : p.span = none ↔ items = []
  common : ∀ key value, p.commonTags.get? key = some value ↔
    items ≠ [] ∧ ∀ i ∈ items, i.tags.get? key = some value

theorem keeps_empty : empty.Keeps [] where
  toHolds := holds_empty
  populated _ _ h := nomatch h
  span_eq_none_iff := ⟨fun _ => rfl, fun _ => rfl⟩
  common _ _ := by
    constructor
    · intro h
      cases h
    · rintro ⟨h, _⟩
      exact absurd rfl h

/-! ## One addition -/

theorem groupsOf_joined (p : Plan) (i : Item) (domain : String) :
    (p.joined i).groupsOf domain =
      if domain = i.domain then
        some (((p.groupsOf i.domain).getD .empty).upsert i.exporter fun stored =>
          stored.getD [] ++ [i])
      else p.groupsOf domain := by
  unfold groupsOf joined file
  rw [SortedMap.get?_upsert]
  by_cases hd : domain = i.domain
  · rw [if_pos hd, if_pos (Std.LawfulEqCmp.compare_eq_iff_eq.2 hd)]
  · rw [if_neg hd, if_neg (compare_ne_eq_of_ne hd)]

theorem Keeps.populated_joined {p : Plan} {items : List Item} (h : p.Keeps items) (i : Item)
    {domain : String} {g : StrategyGroups} (hg : (p.joined i).groupsOf domain = some g) :
    g.entries ≠ [] ∧ ∀ s stored, g.get? s = some stored → stored ≠ [] := by
  rw [groupsOf_joined] at hg
  by_cases hd : domain = i.domain
  case neg =>
    rw [if_neg hd] at hg
    exact h.populated domain g hg
  rw [if_pos hd] at hg
  cases hg
  constructor
  · intro hnil
    have hself : (((p.groupsOf i.domain).getD .empty).upsert i.exporter fun stored =>
        stored.getD [] ++ [i]).get? i.exporter ≠ none := by
      rw [SortedMap.get?_upsert, if_pos Std.ReflCmp.compare_self]
      exact Option.some_ne_none _
    exact hself (by rw [SortedMap.get?, hnil]; rfl)
  · intro s stored hs
    rw [SortedMap.get?_upsert] at hs
    by_cases hse : s = i.exporter
    · rw [if_pos (Std.LawfulEqCmp.compare_eq_iff_eq.2 hse)] at hs
      cases hs
      simp
    · rw [if_neg (compare_ne_eq_of_ne hse)] at hs
      cases hgroup : p.groupsOf i.domain with
      | none =>
        rw [hgroup] at hs
        cases hs
      | some g =>
        rw [hgroup] at hs
        exact (h.populated i.domain g hgroup).2 s stored hs

theorem Keeps.common_joined {p : Plan} {items : List Item} (h : p.Keeps items) (i : Item)
    (key value : String) : (p.joined i).commonTags.get? key = some value ↔
      items ++ [i] ≠ [] ∧ ∀ j ∈ items ++ [i], j.tags.get? key = some value := by
  have hne : items ++ [i] ≠ [] := List.append_ne_nil_of_right_ne_nil _ (List.cons_ne_nil i [])
  rw [joined, narrowTags]
  cases hspan : p.span with
  | none =>
    have hnil := h.span_eq_none_iff.1 hspan
    rw [hnil]
    simp
  | some span =>
    have hitems : items ≠ [] := by
      intro hnil
      rw [h.span_eq_none_iff.2 hnil] at hspan
      cases hspan
    dsimp only
    rw [SortedMap.get?_filter_eq_some_iff, h.common]
    simp only [hitems, hne, ne_eq, not_false_eq_true, true_and, List.forall_mem_append,
      List.forall_mem_singleton, beq_iff_eq]

theorem Keeps.add {p q : Plan} {items : List Item} {i : Item} (h : p.Keeps items)
    (hq : p.add i = .ok q) : q.Keeps (items ++ [i]) := by
  have hholds := h.toHolds.add hq
  obtain ⟨_, _, rfl⟩ := add_eq_ok_iff.1 hq
  exact {
    toHolds := hholds
    populated := fun _ _ hg => h.populated_joined i hg
    span_eq_none_iff := by simp [joined]
    common := h.common_joined i }

/-! ## What the books say -/

/-- All items of a plan, one group after another. -/
def stored (p : Plan) : List Item := p.groups.values.flatMap fun g => g.values.flatten

/-- The items of a plan are the given ones, each in the one group of its domain and strategy; no group
is empty; all have the span of the plan and names of their own; the domains are those of the items, in
the order of their bytes; and the common tags are those that every item has. -/
structure Books (p : Plan) (items : List Item) : Prop where
  stored_perm : p.stored.Perm items
  filed_eq : ∀ domain s, p.filed domain s =
    items.filter fun i => i.domain = domain ∧ i.exporter = s
  populated : ∀ domain g, p.groupsOf domain = some g →
    g.entries ≠ [] ∧ ∀ s group, g.get? s = some group → group ≠ []
  span_eq_none_iff : p.span = none ↔ items = []
  alike : ∀ i ∈ p.stored, ∃ span, p.span = some span ∧ span.Alike i.span
  names_eq : p.exportNames = items.map Item.exportName
  names_nodup : p.exportNames.Nodup
  size_eq : p.size = items.length
  mem_domains_iff : ∀ domain, domain ∈ p.domains ↔ ∃ i ∈ items, i.domain = domain
  domains_increasing : p.domains.Pairwise fun a b => Text.bytes a < Text.bytes b
  common : ∀ key value, p.commonTags.get? key = some value ↔
    items ≠ [] ∧ ∀ i ∈ items, i.tags.get? key = some value

theorem Keeps.mem_domains_iff {p : Plan} {items : List Item} (h : p.Keeps items) (domain : String) :
    domain ∈ p.domains ↔ ∃ i ∈ items, i.domain = domain := by
  unfold domains
  rw [SortedMap.mem_keys_iff]
  constructor
  · rintro ⟨g, hg⟩
    obtain ⟨hne, hgroups⟩ := h.populated domain g hg
    obtain ⟨⟨s, group⟩, rest, hentries⟩ := List.exists_cons_of_ne_nil hne
    have hs : g.get? s = some group :=
      SortedMap.get?_eq_some_iff.2 (by rw [hentries]; exact List.mem_cons_self)
    obtain ⟨i, hi⟩ := List.exists_mem_of_ne_nil group (hgroups s group hs)
    have hfiled : p.filed domain s = group := by
      unfold filed groupsOf
      rw [hg, Option.bind_some, hs, Option.getD_some]
    rw [← hfiled, h.filed_eq] at hi
    obtain ⟨hi, hown⟩ := List.mem_filter.1 hi
    exact ⟨i, hi, (of_decide_eq_true hown).1⟩
  · rintro ⟨i, hi, rfl⟩
    have hown : i ∈ p.filed i.domain i.exporter := by
      rw [h.filed_eq]
      exact List.mem_filter.2 ⟨hi, decide_eq_true ⟨rfl, rfl⟩⟩
    cases hg : p.groups.get? i.domain with
    | some g => exact ⟨g, rfl⟩
    | none =>
      unfold filed groupsOf at hown
      rw [hg] at hown
      exact absurd hown List.not_mem_nil

theorem domains_increasing (p : Plan) :
    p.domains.Pairwise fun a b => Text.bytes a < Text.bytes b :=
  p.groups.nodup_keys.imp Text.bytes_lt_of_compare

theorem stored_eq_itemsOf (p : Plan) : p.stored = p.domains.flatMap p.itemsOf := by
  have hvalues := congrArg
    (List.flatMap fun g : Option StrategyGroups => (g.getD .empty).values.flatten) p.groups.values_eq
  rw [List.flatMap_map, List.flatMap_map] at hvalues
  exact hvalues

theorem Keeps.stored_perm {p : Plan} {items : List Item} (h : p.Keeps items) :
    p.stored.Perm items := by
  have hnodup : p.domains.Nodup := p.groups.nodup_keys.imp ne_of_compare_lt
  have hdomains : ∀ i ∈ items, i.domain ∈ p.domains := fun i hi =>
    (h.mem_domains_iff i.domain).2 ⟨i, hi, rfl⟩
  have hgroups : ∀ domain ∈ p.domains,
      (p.itemsOf domain).Perm (items.filter fun i => i.domain = domain) := by
    intro domain _
    rw [h.itemsOf_eq]
    exact inOrder_perm domain items
  rw [stored_eq_itemsOf]
  exact (List.Perm.flatMap_left _ hgroups).trans (groups_perm Item.domain hnodup hdomains)

theorem Keeps.books {p : Plan} {items : List Item} (h : p.Keeps items) : p.Books items where
  stored_perm := h.stored_perm
  filed_eq := h.filed_eq
  populated := h.populated
  span_eq_none_iff := h.span_eq_none_iff
  alike i hi := h.alike i (h.stored_perm.mem_iff.1 hi)
  names_eq := h.names_eq
  names_nodup := by
    rw [h.names_eq]
    exact h.distinct
  size_eq := by rw [size, h.names_eq, List.length_map]
  mem_domains_iff := h.mem_domains_iff
  domains_increasing := p.domains_increasing
  common := h.common

/-- The books are in order after any run of offers on the empty plan. -/
theorem books_offerAll (offered : List Item) :
    (empty.offerAll offered).Books (empty.accepted offered) :=
  (offerAll_induction Keeps.add offered keeps_empty).books

end Plan
end SeriesExport

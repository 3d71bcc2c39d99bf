import Mathlib.Data.List.Nodup
import Mathlib.Data.List.Perm.Basic
import SeriesExport.Plan.Basic
import SeriesExport.Proofs.SortedMap

/-! Plans as runs of offers make them. A plan holds exactly the items that were accepted: each under
its domain and strategy, in order of addition, with the span of the plan and a name of its own. -/
namespace SeriesExport
set_option autoImplicit false

theorem Strategy.mem_all (s : Strategy) : s ∈ Strategy.all := by
  cases s <;> decide

theorem Strategy.all_increasing : Strategy.all.Pairwise fun s t => compare s t = .lt := by
  decide

namespace Plan

/-! ## Runs -/

/-- The plan after all offers, refused ones among them. -/
def offerAll (p : Plan) (offered : List Item) : Plan := offered.foldl (fun q i => (q.offer i).1) p

def accepted (p : Plan) : List Item → List Item
  | [] => []
  | i :: rest =>
    match p.add i with
    | .ok q => i :: q.accepted rest
    | .error _ => p.accepted rest

def filed (p : Plan) (domain : String) (s : Strategy) : List Item :=
  ((p.groupsOf domain).bind fun g => g.get? s).getD []

/-- A plan holds the given items and no others. -/
structure Holds (p : Plan) (items : List Item) : Prop where
  filed_eq : ∀ domain s, p.filed domain s =
    items.filter fun i => i.domain = domain ∧ i.exporter = s
  alike : ∀ i ∈ items, ∃ span, p.span = some span ∧ span.Alike i.span
  names_eq : p.exportNames = items.map Item.exportName
  distinct : (items.map Item.exportName).Nodup

/-! ## One addition -/

def joined (p : Plan) (i : Item) : Plan where
  groups := file p.groups i
  span := some (p.span.getD i.span)
  commonTags := p.narrowTags i
  exportNames := p.exportNames ++ [i.exportName]

theorem add_eq_ok_iff {p q : Plan} {i : Item} : p.add i = .ok q ↔
    (∀ span, p.span = some span → span.Alike i.span) ∧ i.exportName ∉ p.exportNames ∧
      q = p.joined i := by
  unfold add joined
  simp only [bind, Except.bind, throw, throwThe, MonadExceptOf.throw, pure, Except.pure]
  by_cases hn : i.exportName ∈ p.exportNames
  · have hc : p.exportNames.contains i.exportName = true := List.contains_iff_mem.2 hn
    simp only [hc, hn, if_true, not_true_eq_false, false_and, and_false, iff_false]
    cases p.span with
    | none => nofun
    | some span =>
      dsimp only
      split <;> nofun
  · have hc : ¬ p.exportNames.contains i.exportName = true := fun h => hn (List.contains_iff_mem.1 h)
    simp only [hc, hn, not_false_eq_true, true_and]
    cases p.span with
    | none => simp [eq_comm]
    | some span =>
      by_cases ha : span.Alike i.span
      · simp [ha, eq_comm]
      · simp [ha]

theorem filed_joined (p : Plan) (i : Item) (domain : String) (s : Strategy) :
    (p.joined i).filed domain s =
      p.filed domain s ++ if i.domain = domain ∧ i.exporter = s then [i] else [] := by
  unfold filed groupsOf joined file
  rw [SortedMap.get?_upsert]
  by_cases hd : i.domain = domain
  · subst hd
    rw [if_pos (Std.LawfulEqCmp.compare_eq_iff_eq.2 rfl), Option.bind_some, SortedMap.get?_upsert]
    by_cases hs : i.exporter = s
    · subst hs
      rw [if_pos (Std.LawfulEqCmp.compare_eq_iff_eq.2 rfl), if_pos ⟨rfl, rfl⟩]
      cases p.groups.get? i.domain <;> rfl
    · rw [if_neg (compare_ne_eq_of_ne (Ne.symm hs)), if_neg (fun h => hs h.2), List.append_nil]
      cases p.groups.get? i.domain <;> rfl
  · rw [if_neg (compare_ne_eq_of_ne (Ne.symm hd)), if_neg (fun h => hd h.1), List.append_nil]

theorem holds_empty : empty.Holds [] where
  filed_eq _ _ := by rw [List.filter_nil]; rfl
  alike _ hi := absurd hi List.not_mem_nil
  names_eq := rfl
  distinct := List.nodup_nil

theorem Holds.add {p q : Plan} {items : List Item} {i : Item} (h : p.Holds items)
    (hq : p.add i = .ok q) : q.Holds (items ++ [i]) := by
  obtain ⟨halike, hname, rfl⟩ := add_eq_ok_iff.1 hq
  constructor
  · intro domain s
    rw [filed_joined, h.filed_eq, List.filter_append, List.filter_cons, List.filter_nil]
    simp only [decide_eq_true_eq]
  · intro j hj
    rcases List.mem_append.1 hj with hj | hj
    · obtain ⟨span, hspan, ha⟩ := h.alike j hj
      exact ⟨span, by rw [joined, hspan, Option.getD_some], ha⟩
    · rw [List.mem_singleton.1 hj]
      refine ⟨p.span.getD i.span, rfl, ?_⟩
      cases hs : p.span with
      | none => exact .refl i.span
      | some span => exact halike span hs
  · rw [joined, h.names_eq, List.map_append, List.map_singleton]
  · rw [List.map_append, List.map_singleton]
    rw [h.names_eq] at hname
    exact List.nodup_append.2 ⟨h.distinct, List.nodup_singleton _, by
      rintro a ha b hb rfl
      exact hname (List.mem_singleton.1 hb ▸ ha)⟩

/-! ## Whole runs -/

/-- What every accepted item keeps up holds after any run of offers. -/
theorem offerAll_induction {motive : Plan → List Item → Prop}
    (hadd : ∀ {p q : Plan} {items : List Item} {i : Item}, motive p items → p.add i = .ok q →
      motive q (items ++ [i]))
    {p : Plan} {items : List Item} (offered : List Item) (h : motive p items) :
    motive (p.offerAll offered) (items ++ p.accepted offered) := by
  induction offered generalizing p items with
  | nil => simpa [Plan.offerAll, accepted] using h
  | cons i rest ih =>
    unfold Plan.offerAll accepted
    rw [List.foldl_cons]
    cases hq : p.add i with
    | ok q =>
      have hrest := ih (hadd h hq)
      rw [List.append_assoc, List.singleton_append] at hrest
      rw [offer, hq]
      exact hrest
    | error e =>
      rw [offer, hq]
      exact ih h

theorem holds_offerAll (offered : List Item) :
    (empty.offerAll offered).Holds (empty.accepted offered) :=
  offerAll_induction Holds.add offered holds_empty

/-! ## The items of a domain -/

def inOrder (domain : String) (items : List Item) : List Item :=
  Strategy.all.flatMap fun s => items.filter fun i => i.domain = domain ∧ i.exporter = s

theorem itemsOf_eq_filed (p : Plan) (domain : String) :
    p.itemsOf domain = Strategy.all.flatMap (p.filed domain) := by
  unfold itemsOf filed
  rw [SortedMap.flatten_values _ Strategy.all_increasing Strategy.mem_all]
  cases p.groupsOf domain <;> rfl

theorem Holds.itemsOf_eq {p : Plan} {items : List Item} (h : p.Holds items) (domain : String) :
    p.itemsOf domain = inOrder domain items := by
  rw [itemsOf_eq_filed, funext (h.filed_eq domain)]
  rfl

theorem mem_inOrder {domain : String} {items : List Item} {i : Item} :
    i ∈ inOrder domain items ↔ i ∈ items ∧ i.domain = domain := by
  simp only [inOrder, List.mem_flatMap, List.mem_filter, decide_eq_true_eq]
  constructor
  · rintro ⟨_, _, hi, hd, _⟩
    exact ⟨hi, hd⟩
  · rintro ⟨hi, hd⟩
    exact ⟨i.exporter, i.exporter.mem_all, hi, hd, rfl⟩

/-- Groups under different keys hold each element once when every element has one of the keys. -/
theorem groups_perm {α κ : Type} [DecidableEq κ] (key : α → κ) {ks : List κ} {xs : List α}
    (hks : ks.Nodup) (hxs : ∀ x ∈ xs, key x ∈ ks) :
    (ks.flatMap fun k => xs.filter fun x => key x = k).Perm xs := by
  induction ks generalizing xs with
  | nil =>
    have hnil : xs = [] := List.eq_nil_iff_forall_not_mem.2 fun x hx => nomatch hxs x hx
    rw [hnil]
    rfl
  | cons k ks ih =>
    obtain ⟨hk, hks⟩ := List.nodup_cons.1 hks
    have hothers : (ks.flatMap fun j => xs.filter fun x => key x = j) =
        ks.flatMap fun j => (xs.filter fun x => !decide (key x = k)).filter fun x => key x = j := by
      refine List.flatMap_congr fun j hj => ?_
      rw [List.filter_filter]
      refine List.filter_congr fun x _ => ?_
      by_cases hx : key x = j
      · have hne : key x ≠ k := fun h => hk (h ▸ hx ▸ hj)
        simp [hx, hx ▸ hne]
      · simp [hx]
    have hkeys : ∀ x ∈ xs.filter fun x => !decide (key x = k), key x ∈ ks := by
      intro x hx
      obtain ⟨hx, hne⟩ := List.mem_filter.1 hx
      have hne : key x ≠ k := by simpa using hne
      exact (List.mem_cons.1 (hxs x hx)).resolve_left hne
    rw [List.flatMap_cons, hothers]
    exact ((ih hks hkeys).append_left _).trans (List.filter_append_perm (fun x => decide (key x = k)) xs)

theorem inOrder_perm (domain : String) (items : List Item) :
    (inOrder domain items).Perm (items.filter fun i => i.domain = domain) := by
  have hsplit : inOrder domain items = Strategy.all.flatMap fun s =>
      (items.filter fun i => i.domain = domain).filter fun i => i.exporter = s := by
    refine List.flatMap_congr fun s _ => ?_
    rw [List.filter_filter]
    refine List.filter_congr fun i _ => ?_
    rw [Bool.decide_and, Bool.and_comm]
  rw [hsplit]
  exact groups_perm Item.exporter (by decide) fun i _ => i.exporter.mem_all

/-- The items of a domain that have a query of their own. -/
def ownItems (domain : String) (items : List Item) : List Item :=
  (inOrder domain items).filter fun i => !i.exporter.isWindowed

/-- The items of a domain that share one query. -/
def windowedItems (domain : String) (items : List Item) : List Item :=
  (inOrder domain items).filter fun i => i.exporter.isWindowed

theorem filter_inOrder (domain : String) (items : List Item) (p : Strategy → Bool) :
    ((inOrder domain items).filter fun i => p i.exporter) =
      (Strategy.all.filter p).flatMap fun s =>
        items.filter fun i => i.domain = domain ∧ i.exporter = s := by
  unfold inOrder
  induction Strategy.all with
  | nil => rfl
  | cons s rest ih =>
    rw [List.flatMap_cons, List.filter_append, ih, List.filter_cons, List.filter_filter]
    by_cases hp : p s = true
    · rw [if_pos hp, List.flatMap_cons]
      congr 1
      refine List.filter_congr fun i _ => ?_
      by_cases hs : i.exporter = s
      · rw [hs, hp, Bool.true_and]
      · simp [hs]
    · have hnone : (items.filter fun i =>
          p i.exporter && decide (i.domain = domain ∧ i.exporter = s)) = [] := by
        refine List.filter_eq_nil_iff.2 fun i _ => ?_
        by_cases hs : i.exporter = s
        · simp [hs, hp]
        · simp [hs]
      rw [if_neg hp, hnone, List.nil_append]

theorem ownItems_append_windowedItems (domain : String) (items : List Item) :
    ownItems domain items ++ windowedItems domain items = inOrder domain items := by
  unfold ownItems windowedItems
  rw [filter_inOrder domain items fun s => !s.isWindowed,
    filter_inOrder domain items Strategy.isWindowed, ← List.flatMap_append]
  -- The windowed strategies come after all others.
  rfl

theorem mem_ownItems {domain : String} {items : List Item} {i : Item} : i ∈ ownItems domain items ↔
    i ∈ items ∧ i.domain = domain ∧ i.exporter.isWindowed = false := by
  rw [ownItems, List.mem_filter, mem_inOrder, Bool.not_eq_true', and_assoc]

theorem mem_windowedItems {domain : String} {items : List Item} {i : Item} :
    i ∈ windowedItems domain items ↔
      i ∈ items ∧ i.domain = domain ∧ i.exporter.isWindowed = true := by
  rw [windowedItems, List.mem_filter, mem_inOrder, and_assoc]

theorem Holds.alike_each {p : Plan} {items : List Item} (h : p.Holds items) {i j : Item}
    (hi : i ∈ items) (hj : j ∈ items) : i.span.Alike j.span := by
  obtain ⟨a, ha, hai⟩ := h.alike i hi
  obtain ⟨b, hb, hbj⟩ := h.alike j hj
  rw [ha] at hb
  cases hb
  exact hai.symm.trans hbj

end Plan
end SeriesExport

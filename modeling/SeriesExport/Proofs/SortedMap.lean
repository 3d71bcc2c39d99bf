import Mathlib.Data.List.Basic
import SeriesExport.SortedMap

/-! Maps read key by key: the values under all keys of an increasing list, the map that a list of
entries fills, and the entries that it has then. -/
namespace SeriesExport
set_option autoImplicit false

variable {κ β : Type} [Ord κ]

theorem Entries.length_upsert {k : κ} {f : Option β → β} {es : List (κ × β)}
    (h : find? k es = none) : (upsert k f es).length = es.length + 1 := by
  induction es with
  | nil => rfl
  | cons e rest ih =>
    obtain ⟨j, v⟩ := e
    rw [find?] at h
    rw [upsert]
    cases hk : compare k j with
    | lt => rfl
    | eq =>
      rw [if_pos hk] at h
      cases h
    | gt =>
      rw [if_neg (by rw [hk]; decide)] at h
      exact congrArg (· + 1) (ih h)

theorem Entries.upsert_of_last {k : κ} {f : Option β → β} [Std.OrientedOrd κ] {es : List (κ × β)}
    (h : ∀ e ∈ es, compare e.1 k = .lt) : upsert k f es = es ++ [(k, f none)] := by
  induction es with
  | nil => rfl
  | cons e rest ih =>
    obtain ⟨j, v⟩ := e
    have hkj : compare k j = .gt := Std.OrientedCmp.gt_iff_lt.2 (h (j, v) List.mem_cons_self)
    rw [upsert, hkj]
    exact congrArg ((j, v) :: ·) (ih fun e he => h e (List.mem_cons_of_mem _ he))

/-- Inserts entries one after another. -/
def SortedMap.insertAll [Std.TransOrd κ] (m : SortedMap κ β) (es : List (κ × β)) : SortedMap κ β :=
  es.foldl (fun m e => m.insert e.1 e.2) m

theorem SortedMap.insertAll_cons [Std.TransOrd κ] (m : SortedMap κ β) (e : κ × β)
    (es : List (κ × β)) : m.insertAll (e :: es) = (m.insert e.1 e.2).insertAll es := rfl

/-- Entries that come in order of their keys stay as they are. -/
theorem SortedMap.entries_insertAll [Std.TransOrd κ] (m : SortedMap κ β) {es : List (κ × β)}
    (h : KeysIncrease (m.entries ++ es)) : (m.insertAll es).entries = m.entries ++ es := by
  induction es generalizing m with
  | nil => exact (List.append_nil _).symm
  | cons e rest ih =>
    have hlast : ∀ d ∈ m.entries, compare d.1 e.1 = .lt := fun d hd =>
      (List.pairwise_append.1 h).2.2 d hd e List.mem_cons_self
    have hinsert : (m.insert e.1 e.2).entries = m.entries ++ [e] :=
      Entries.upsert_of_last hlast
    have hrest : KeysIncrease ((m.insert e.1 e.2).entries ++ rest) := by
      rw [hinsert, List.append_assoc]
      exact h
    rw [insertAll_cons, ih _ hrest, hinsert, List.append_assoc]
    rfl

variable [Std.LawfulEqOrd κ]

theorem compare_ne_eq_of_ne {j k : κ} (h : j ≠ k) : compare j k ≠ .eq :=
  fun hc => h (Std.LawfulEqCmp.compare_eq_iff_eq.1 hc)

theorem ne_of_compare_lt {j k : κ} (h : compare j k = .lt) : j ≠ k := by
  rintro rfl
  simp [Std.ReflCmp.compare_self] at h

theorem Entries.find?_cons_of_ne {j k : κ} (h : j ≠ k) (v : β) (es : List (κ × β)) :
    find? j ((k, v) :: es) = find? j es := by
  rw [find?, if_neg (compare_ne_eq_of_ne h)]

theorem Entries.find?_map {γ : Type} (f : κ → β → γ) (k : κ) (es : List (κ × β)) :
    find? k (es.map fun e => (e.1, f e.1 e.2)) = (find? k es).map (f k) := by
  induction es with
  | nil => rfl
  | cons e rest ih =>
    rw [List.map_cons, find?, find?, ih]
    by_cases hk : compare k e.1 = .eq
    · rw [if_pos hk, if_pos hk, Std.LawfulEqCmp.compare_eq_iff_eq.1 hk]
      rfl
    · rw [if_neg hk, if_neg hk]

theorem SortedMap.get?_mapEntries {γ : Type} (m : SortedMap κ β) (f : κ → β → γ) (k : κ) :
    (m.mapEntries f).get? k = (m.get? k).map (f k) :=
  Entries.find?_map f k m.entries

theorem SortedMap.mem_keys_iff {m : SortedMap κ β} {k : κ} : k ∈ m.keys ↔ ∃ v, m.get? k = some v := by
  constructor
  · intro hk
    obtain ⟨e, he, rfl⟩ := List.mem_map.1 hk
    exact ⟨e.2, get?_eq_some_iff.2 he⟩
  · rintro ⟨v, hv⟩
    exact List.mem_map_of_mem (get?_eq_some_iff.1 hv)

theorem SortedMap.values_eq (m : SortedMap κ β) : m.values.map some = m.keys.map m.get? := by
  unfold values keys
  rw [List.map_map, List.map_map]
  refine List.map_congr_left fun e he => ?_
  exact (get?_eq_some_iff.2 he).symm

variable [Std.TransOrd κ]

/-! ## All values -/

theorem Entries.flatten_values {ks : List κ} {es : List (κ × List β)}
    (hks : ks.Pairwise fun a b => compare a b = .lt) (hes : KeysIncrease es)
    (hmem : ∀ e ∈ es, e.1 ∈ ks) :
    (es.map Prod.snd).flatten = ks.flatMap fun k => (find? k es).getD [] := by
  induction ks generalizing es with
  | nil =>
    cases es with
    | nil => rfl
    | cons e rest => exact absurd (hmem e List.mem_cons_self) List.not_mem_nil
  | cons k ks ih =>
    obtain ⟨hk, hks⟩ := List.pairwise_cons.1 hks
    -- Keys that come after `k` are among `ks`, whichever entries they belong to.
    have hlater : ∀ fs : List (κ × List β), (∀ e ∈ fs, e.1 ∈ k :: ks) →
        (∀ e ∈ fs, compare k e.1 = .lt) → ∀ e ∈ fs, e.1 ∈ ks := by
      intro fs hin hgt e he
      rcases List.mem_cons.1 (hin e he) with h | h
      · exact absurd h.symm (ne_of_compare_lt (hgt e he))
      · exact h
    cases es with
    | nil => simp [find?]
    | cons e rest =>
      obtain ⟨j, v⟩ := e
      obtain ⟨hj, hrest⟩ := List.pairwise_cons.1 hes
      rw [List.flatMap_cons]
      by_cases hkj : k = j
      · subst hkj
        have hhead : find? k ((k, v) :: rest) = some v := by
          rw [find?, if_pos Std.ReflCmp.compare_self]
        have htail : (ks.flatMap fun k' => (find? k' ((k, v) :: rest)).getD []) =
            ks.flatMap fun k' => (find? k' rest).getD [] := by
          refine List.flatMap_congr fun k' hk' => ?_
          rw [find?_cons_of_ne (ne_of_compare_lt (hk k' hk')).symm]
        rw [hhead, htail, Option.getD_some, List.map_cons, List.flatten_cons,
          ih hks hrest (hlater rest (fun e he => hmem e (List.mem_cons_of_mem _ he)) hj)]
      · have hjks : j ∈ ks :=
          (List.mem_cons.1 (hmem (j, v) List.mem_cons_self)).resolve_left (Ne.symm hkj)
        have hgt : ∀ e ∈ (j, v) :: rest, compare k e.1 = .lt := by
          intro e he
          rcases List.mem_cons.1 he with rfl | he
          · exact hk j hjks
          · exact Std.TransCmp.lt_trans (hk j hjks) (hj e he)
        rw [find?_eq_none_of_lt hgt, Option.getD_none, List.nil_append]
        exact ih hks hes (hlater _ hmem hgt)

namespace SortedMap

theorem flatten_values {ks : List κ} (m : SortedMap κ (List β))
    (hks : ks.Pairwise fun a b => compare a b = .lt) (hmem : ∀ k, k ∈ ks) :
    m.values.flatten = ks.flatMap fun k => (m.get? k).getD [] :=
  Entries.flatten_values hks m.increasing fun e _ => hmem e.1

theorem get?_insert_self (m : SortedMap κ β) (k : κ) (v : β) : (m.insert k v).get? k = some v := by
  rw [get?_insert, if_pos Std.ReflCmp.compare_self]

theorem get?_insert_of_ne (m : SortedMap κ β) {j k : κ} (h : j ≠ k) (v : β) :
    (m.insert k v).get? j = m.get? j := by
  rw [get?_insert, if_neg (compare_ne_eq_of_ne h)]

/-! ## Filling a map -/

theorem get?_insertAll_of_absent (m : SortedMap κ β) {es : List (κ × β)} {k : κ}
    (h : k ∉ es.map Prod.fst) : (m.insertAll es).get? k = m.get? k := by
  induction es generalizing m with
  | nil => rfl
  | cons e rest ih =>
    rw [List.map_cons, List.mem_cons, not_or] at h
    rw [insertAll_cons, ih _ h.2, get?_insert_of_ne m h.1]

/-- Where no key comes twice, no entry is lost. -/
theorem get?_insertAll (m : SortedMap κ β) {es : List (κ × β)} {e : κ × β}
    (hnodup : (es.map Prod.fst).Nodup) (he : e ∈ es) : (m.insertAll es).get? e.1 = some e.2 := by
  induction es generalizing m with
  | nil => exact absurd he List.not_mem_nil
  | cons d rest ih =>
    rw [List.map_cons, List.nodup_cons] at hnodup
    rw [insertAll_cons]
    rcases List.mem_cons.1 he with rfl | he
    · rw [get?_insertAll_of_absent _ hnodup.1, get?_insert_self]
    · exact ih _ hnodup.2 he

theorem size_insertAll (m : SortedMap κ β) {es : List (κ × β)} (hnodup : (es.map Prod.fst).Nodup)
    (habsent : ∀ e ∈ es, m.get? e.1 = none) : (m.insertAll es).size = m.size + es.length := by
  induction es generalizing m with
  | nil => rfl
  | cons e rest ih =>
    rw [List.map_cons, List.nodup_cons] at hnodup
    have hsize : (m.insert e.1 e.2).size = m.size + 1 :=
      Entries.length_upsert (habsent e List.mem_cons_self)
    have hrest : ∀ d ∈ rest, (m.insert e.1 e.2).get? d.1 = none := by
      intro d hd
      have hne : d.1 ≠ e.1 := fun h => hnodup.1 (h ▸ List.mem_map_of_mem hd)
      rw [get?_insert_of_ne m hne]
      exact habsent d (List.mem_cons_of_mem e hd)
    have hall := ih (m.insert e.1 e.2) hnodup.2 hrest
    rw [insertAll_cons, hall, hsize, List.length_cons]
    omega

/-- A map filled with entries of different keys has these entries and no others. -/
theorem get?_ofList_eq_some_iff {es : List (κ × β)} (h : (es.map Prod.fst).Nodup) {k : κ} {v : β} :
    (ofList es).get? k = some v ↔ (k, v) ∈ es := by
  constructor
  · intro hv
    by_cases hk : k ∈ es.map Prod.fst
    · obtain ⟨e, he, rfl⟩ := List.mem_map.1 hk
      have hfound : (ofList es).get? e.1 = some e.2 := get?_insertAll empty h he
      rw [hfound] at hv
      cases hv
      exact he
    · have habsent : (ofList es).get? k = none := get?_insertAll_of_absent empty hk
      rw [habsent] at hv
      cases hv
  · exact get?_insertAll empty h

theorem size_ofList {es : List (κ × β)} (h : (es.map Prod.fst).Nodup) :
    (ofList es).size = es.length := by
  have hsize := size_insertAll empty h fun _ _ => rfl
  rw [show (empty : SortedMap κ β).size = 0 from rfl, Nat.zero_add] at hsize
  exact hsize

end SortedMap
end SeriesExport

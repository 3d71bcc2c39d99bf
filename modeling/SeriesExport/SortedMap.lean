/-! Finite maps as lists in increasing order of their keys. Main statements: what `get?` finds after
an `upsert`, a `filter` and an `insert`. -/
namespace SeriesExport
set_option autoImplicit false

variable {κ β γ : Type} [Ord κ]

/-- Entries in strictly increasing order of their keys. -/
def KeysIncrease (es : List (κ × β)) : Prop := es.Pairwise fun a b => compare a.1 b.1 = .lt

structure SortedMap (κ β : Type) [Ord κ] where
  entries : List (κ × β)
  increasing : KeysIncrease entries

/-! ## Lists of entries -/

namespace Entries

def find? (k : κ) : List (κ × β) → Option β
  | [] => none
  | (j, v) :: rest => if compare k j = .eq then some v else find? k rest

/-- Gives the key a value made from the one it has, if any. -/
def upsert (k : κ) (f : Option β → β) : List (κ × β) → List (κ × β)
  | [] => [(k, f none)]
  | (j, v) :: rest =>
    match compare k j with
    | .lt => (k, f none) :: (j, v) :: rest
    | .eq => (j, f (some v)) :: rest
    | .gt => (j, v) :: upsert k f rest

theorem find?_eq_none_of_lt {k : κ} {es : List (κ × β)}
    (h : ∀ e ∈ es, compare k e.1 = .lt) : find? k es = none := by
  induction es with
  | nil => rfl
  | cons d rest ih =>
    have hd := h d List.mem_cons_self
    simp only [find?]
    rw [if_neg (by simp [hd])]
    exact ih fun e he => h e (List.mem_cons_of_mem _ he)

theorem find?_eq_some_iff [Std.LawfulEqOrd κ] {k : κ} {v : β} {es : List (κ × β)} (h : KeysIncrease es) :
    find? k es = some v ↔ (k, v) ∈ es := by
  induction es with
  | nil => simp [find?]
  | cons d rest ih =>
    obtain ⟨j, w⟩ := d
    have hrest := List.pairwise_cons.1 h
    simp only [find?]
    by_cases hk : compare k j = .eq
    · have hkj := Std.LawfulEqCmp.compare_eq_iff_eq.1 hk
      subst hkj
      simp only [hk, if_true, Option.some.injEq, List.mem_cons, Prod.mk.injEq, true_and]
      constructor
      · exact fun h => Or.inl h.symm
      · rintro (h | h)
        · exact h.symm
        · have := hrest.1 _ h
          simp [Std.ReflCmp.compare_self] at this
    · simp only [hk, if_false, ih hrest.2, List.mem_cons, Prod.mk.injEq]
      constructor
      · exact Or.inr
      · rintro (⟨h, _⟩ | h)
        · exact absurd (Std.LawfulEqCmp.compare_eq_iff_eq.2 h) hk
        · exact h

variable [Std.TransOrd κ]

theorem mem_upsert {k : κ} {f : Option β → β} {es : List (κ × β)} {e : κ × β}
    (h : e ∈ upsert k f es) : compare e.1 k = .eq ∨ ∃ v, (e.1, v) ∈ es := by
  induction es with
  | nil =>
    simp only [upsert, List.mem_singleton] at h
    subst h
    exact Or.inl Std.ReflCmp.compare_self
  | cons d rest ih =>
    obtain ⟨j, v⟩ := d
    simp only [upsert] at h
    split at h
    · rcases List.mem_cons.1 h with h | h
      · subst h
        exact Or.inl Std.ReflCmp.compare_self
      · exact Or.inr ⟨e.2, h⟩
    · rcases List.mem_cons.1 h with h | h
      · subst h
        exact Or.inr ⟨v, List.mem_cons_self⟩
      · exact Or.inr ⟨e.2, List.mem_cons_of_mem _ h⟩
    · rcases List.mem_cons.1 h with h | h
      · subst h
        exact Or.inr ⟨v, List.mem_cons_self⟩
      · rcases ih h with h | ⟨w, h⟩
        · exact Or.inl h
        · exact Or.inr ⟨w, List.mem_cons_of_mem _ h⟩

theorem increasing_upsert (k : κ) (f : Option β → β) {es : List (κ × β)} (h : KeysIncrease es) :
    KeysIncrease (upsert k f es) := by
  induction es with
  | nil => simp [upsert, KeysIncrease]
  | cons d rest ih =>
    obtain ⟨j, v⟩ := d
    have hrest := List.pairwise_cons.1 h
    simp only [upsert]
    split
    · rename_i hk
      refine List.pairwise_cons.2 ⟨?_, h⟩
      intro e he
      rcases List.mem_cons.1 he with he | he
      · subst he
        exact hk
      · exact Std.TransCmp.lt_trans hk (hrest.1 e he)
    · exact List.pairwise_cons.2 ⟨hrest.1, hrest.2⟩
    · rename_i hk
      refine List.pairwise_cons.2 ⟨?_, ih hrest.2⟩
      intro e he
      have hjk : compare j k = .lt := Std.OrientedCmp.gt_iff_lt.1 hk
      rcases mem_upsert he with he | ⟨w, he⟩
      · exact Std.TransCmp.lt_of_lt_of_eq hjk (Std.OrientedCmp.eq_symm he)
      · exact hrest.1 (e.1, w) he

variable [Std.LawfulEqOrd κ]

theorem find?_upsert (j k : κ) (f : Option β → β) {es : List (κ × β)} (h : KeysIncrease es) :
    find? j (upsert k f es) = if compare j k = .eq then some (f (find? k es)) else find? j es := by
  induction es with
  | nil => simp [upsert, find?]
  | cons d rest ih =>
    obtain ⟨i, v⟩ := d
    have hrest := List.pairwise_cons.1 h
    simp only [upsert]
    split
    · rename_i hk
      have hnone : find? k rest = none :=
        find?_eq_none_of_lt fun e he => Std.TransCmp.lt_trans hk (hrest.1 e he)
      simp [find?, hk, hnone]
    · rename_i hk
      have hki := Std.LawfulEqCmp.compare_eq_iff_eq.1 hk
      subst hki
      by_cases hj : compare j k = .eq <;> simp [find?, hj]
    · rename_i hk
      have hki : compare k i ≠ .eq := by simp [hk]
      simp only [find?, ih hrest.2, if_neg hki]
      by_cases hj : compare j i = .eq
      · have hji := Std.LawfulEqCmp.compare_eq_iff_eq.1 hj
        subst hji
        have hjk : compare j k ≠ .eq := fun hc => hki (Std.OrientedCmp.eq_symm hc)
        simp [hjk]
      · simp [hj]

end Entries

/-! ## Maps -/

namespace SortedMap

def empty : SortedMap κ β := ⟨[], List.Pairwise.nil⟩

instance : Inhabited (SortedMap κ β) := ⟨empty⟩
instance [DecidableEq κ] [DecidableEq β] : DecidableEq (SortedMap κ β) := fun a b =>
  if h : a.entries = b.entries then isTrue (by cases a; cases b; simp_all)
  else isFalse fun hab => h (congrArg entries hab)

def get? (m : SortedMap κ β) (k : κ) : Option β := Entries.find? k m.entries

def contains (m : SortedMap κ β) (k : κ) : Bool := (m.get? k).isSome

def keys (m : SortedMap κ β) : List κ := m.entries.map Prod.fst

def values (m : SortedMap κ β) : List β := m.entries.map Prod.snd

def size (m : SortedMap κ β) : Nat := m.entries.length

def filter (p : κ → β → Bool) (m : SortedMap κ β) : SortedMap κ β :=
  ⟨m.entries.filter fun e => p e.1 e.2, List.Pairwise.filter _ m.increasing⟩

def mapEntries (f : κ → β → γ) (m : SortedMap κ β) : SortedMap κ γ :=
  ⟨m.entries.map fun e => (e.1, f e.1 e.2), List.pairwise_map.2 (m.increasing.imp id)⟩

theorem get?_eq_some_iff [Std.LawfulEqOrd κ] {m : SortedMap κ β} {k : κ} {v : β} :
    m.get? k = some v ↔ (k, v) ∈ m.entries :=
  Entries.find?_eq_some_iff m.increasing

theorem get?_filter_eq_some_iff [Std.LawfulEqOrd κ] {m : SortedMap κ β} {p : κ → β → Bool} {k : κ} {v : β} :
    (m.filter p).get? k = some v ↔ m.get? k = some v ∧ p k v = true := by
  rw [get?_eq_some_iff, get?_eq_some_iff]
  simp [filter]

theorem ext {m n : SortedMap κ β} (h : m.entries = n.entries) : m = n := by
  cases m; cases n; simp_all

theorem nodup_keys (m : SortedMap κ β) : m.keys.Pairwise fun a b => compare a b = .lt :=
  List.pairwise_map.2 m.increasing

variable [Std.TransOrd κ]

/-- Gives the key a value made from the one it has, if any. -/
def upsert (m : SortedMap κ β) (k : κ) (f : Option β → β) : SortedMap κ β :=
  ⟨Entries.upsert k f m.entries, Entries.increasing_upsert k f m.increasing⟩

def insert (m : SortedMap κ β) (k : κ) (v : β) : SortedMap κ β := m.upsert k fun _ => v

/-- A later entry takes the place of an earlier one with the same key. -/
def ofList (es : List (κ × β)) : SortedMap κ β := es.foldl (fun m e => m.insert e.1 e.2) empty

variable [Std.LawfulEqOrd κ]

theorem get?_upsert (m : SortedMap κ β) (j k : κ) (f : Option β → β) :
    (m.upsert k f).get? j = if compare j k = .eq then some (f (m.get? k)) else m.get? j :=
  Entries.find?_upsert j k f m.increasing

theorem get?_insert (m : SortedMap κ β) (j k : κ) (v : β) :
    (m.insert k v).get? j = if compare j k = .eq then some v else m.get? j :=
  m.get?_upsert j k _

end SortedMap
end SeriesExport

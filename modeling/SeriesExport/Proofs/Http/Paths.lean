import SeriesExport.Http.Path

/-! Walks down the segments of a path. Main statement: `normal_walk`, that no segment for the same or
the parent directory is left, and that a path that came to a drive stays on it. -/
namespace SeriesExport.Http.Path
set_option autoImplicit false

/-- What a walk keeps: segments with names of their own, the first of them a drive if it is on one. -/
structure Walk.IsNormal (w : Walk) : Prop where
  named : ∀ s ∈ w.done, isDot s = false ∧ isDoubleDot s = false
  drive : w.onDrive = true → ∃ s, w.done.getLast? = some s ∧ isDrive s.toList = true

variable {w : Walk} {s : String}

/-! ## Segments -/

theorem toList_drive (c : Char) : (String.ofList [c] ++ ":").toList = [c, ':'] := by
  rw [String.toList_append, String.toList_ofList]
  rfl

/-- What ends in a colon is not made of dots. -/
theorem named_drive (c : Char) :
    isDot (String.ofList [c] ++ ":") = false ∧ isDoubleDot (String.ofList [c] ++ ":") = false := by
  have hlower : (String.ofList [c] ++ ":").toLower.toList = [c.toLower, ':'] := by
    change ((String.ofList [c] ++ ":").map Char.toLower).toList = _
    rw [String.toList_map, toList_drive]
    rfl
  have hforms : ∀ forms : List String, (forms.all fun s => s.toList.getLast? != some ':') = true →
      forms.contains (String.ofList [c] ++ ":").toLower = false := by
    intro forms hall
    rw [List.contains_eq_mem, decide_eq_false_iff_not]
    intro hmem
    have hlast := List.all_eq_true.1 hall _ hmem
    rw [hlower] at hlast
    cases hlast
  exact ⟨hforms dotForms (by decide), hforms doubleDotForms (by decide)⟩

theorem exists_drive {cs : List Char} (h : isDrive cs = true) :
    ∃ c, cs.take 1 = [c] ∧ isDrive (String.ofList [c] ++ ":").toList = true := by
  unfold isDrive at h
  split at h
  · rename_i c d
    rw [Bool.and_eq_true] at h
    refine ⟨c, rfl, ?_⟩
    rw [toList_drive, isDrive, h.1]
    rfl
  · cases h

/-! ## Steps -/

theorem Walk.IsNormal.enter (h : w.IsNormal) (hdot : isDot s = false)
    (hdouble : isDoubleDot s = false) : (w.enter s).IsNormal where
  named := List.forall_mem_cons.2 ⟨⟨hdot, hdouble⟩, h.named⟩
  drive := by
    intro hon
    obtain ⟨d, hlast, hdrive⟩ := h.drive hon
    refine ⟨d, ?_, hdrive⟩
    rw [Walk.enter, List.getLast?_cons, hlast]
    rfl

theorem Walk.IsNormal.enterFirst (h : w.IsNormal) (hempty : w.done = []) (hdot : isDot s = false)
    (hdouble : isDoubleDot s = false) : (w.enterFirst s).IsNormal := by
  unfold Walk.enterFirst
  by_cases hs : isDrive s.toList = true
  · obtain ⟨c, hletter, hdrive⟩ := exists_drive hs
    rw [if_pos hs, hletter]
    refine ⟨List.forall_mem_cons.2 ⟨named_drive c, h.named⟩, fun _ => ⟨_, ?_, hdrive⟩⟩
    rw [Walk.enter, hempty]
    rfl
  · rw [if_neg hs]
    exact h.enter hdot hdouble

/-- A drive is its own parent, so that it is never left. -/
theorem Walk.IsNormal.toParent (h : w.IsNormal) : w.toParent.IsNormal := by
  unfold Walk.toParent
  by_cases hparent : (w.done.head?.any fun s => isDrive s.toList) = true
  · rw [if_pos hparent]
    exact h
  · rw [if_neg hparent]
    refine ⟨fun s hs => h.named s (List.mem_of_mem_tail hs), fun hon => ?_⟩
    obtain ⟨d, hlast, hdrive⟩ := h.drive hon
    refine ⟨d, ?_, hdrive⟩
    cases hdone : w.done with
    | nil =>
      rw [hdone] at hlast
      cases hlast
    | cons s rest =>
      rw [hdone] at hlast hparent
      cases rest with
      | nil =>
        -- The only segment is the drive.
        cases hlast
        exact absurd hdrive hparent
      | cons t rest => exact hlast

theorem Walk.IsNormal.step (h : w.IsNormal) (isFile : Bool) (s : String) :
    (w.step isFile s).IsNormal := by
  unfold Walk.step
  by_cases hdouble : isDoubleDot s = true
  · rw [if_pos hdouble]
    exact h.toParent
  rw [if_neg hdouble]
  by_cases hdot : isDot s = true
  · rw [if_pos hdot]
    exact h
  rw [if_neg hdot]
  rw [Bool.not_eq_true] at hdot hdouble
  by_cases hfirst : (isFile && w.done.isEmpty) = true
  · rw [if_pos hfirst]
    rw [Bool.and_eq_true, List.isEmpty_iff] at hfirst
    exact h.enterFirst hfirst.2 hdot hdouble
  · rw [if_neg hfirst]
    exact h.enter hdot hdouble

/-! ## Walks -/

theorem Walk.IsNormal.run (h : w.IsNormal) (isFile : Bool) (segments : List String) :
    (segments.foldl (Walk.step isFile) w).IsNormal := by
  induction segments generalizing w with
  | nil => exact h
  | cons s segments ih => exact ih (h.step isFile s)

theorem normal_walk (isFile : Bool) (isSlash : Char → Bool) (cs : List Char) :
    (walk isFile isSlash cs).IsNormal := by
  have hstart : Walk.IsNormal ⟨[], false⟩ := ⟨fun _ hs => absurd hs List.not_mem_nil, nofun⟩
  exact hstart.run isFile _

end SeriesExport.Http.Path

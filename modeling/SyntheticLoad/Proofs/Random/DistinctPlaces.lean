import Mathlib.Data.List.Nodup
import SyntheticLoad.Proofs.Random.Uniform
import SyntheticLoad.Random.Subset

/-!
# Distinct places are distinct

Each of the three methods keeps an invariant of its own. In Floyd's method the places chosen
so far are distinct and below the length that has been reached, so the length itself is a new
place, which may take the cell of any other (`DistinctPlaces.admitPlace`). A shuffle keeps the
cells a permutation of all places (`always_shuffle`). Rejection keeps the places that it returns
apart from those that it has already (`always_reject`).

So whatever method is chosen, the places are distinct, below the length, and as many as wanted
(`always_distinctPlaces`). They are always returned, unless rejection goes on for ever
(`run_distinctPlaces_cases`).
-/

namespace SyntheticLoad.Random

/-- So many distinct places of a list of length `size`. -/
structure DistinctPlaces (size count : Nat) (places : List Nat) : Prop where
  nodup : places.Nodup
  lt : ∀ place ∈ places, place < size
  length : places.length = count

section

variable {σ : Type} [WordSource σ]

theorem always_placeBetween {low high : Nat} (h : low ≤ high) :
    Draw.Always (placeBetween low high : Draw σ Nat) fun p => low ≤ p ∧ p ≤ high := by
  refine Draw.always_bind (always_offset _ (Nat.succ_pos _)) fun k hk => Draw.always_pure ?_
  omega

/-! ### Floyd's method -/

/-- One round of Floyd's method: the list has reached the length `j + 1`, and has one more
    chosen place. -/
theorem DistinctPlaces.admitPlace {j count t : Nat} {chosen : List Nat}
    (h : DistinctPlaces j count chosen) (ht : t ≤ j) :
    DistinctPlaces (j + 1) (count + 1) (Random.admitPlace chosen t j) := by
  have hne : ∀ x ∈ chosen, x ≠ j := fun x hx => Nat.ne_of_lt (h.lt x hx)
  refine ⟨?_, fun x hx => ?_, ?_⟩
  · -- The new place is not among the others: where it was, there is `j` now.
    refine List.Nodup.append (List.Nodup.map_on (fun x hx y hy hxy => ?_) h.nodup)
      (List.nodup_singleton t) fun x hx hxt => ?_
    · have hxj := hne x hx
      have hyj := hne y hy
      split_ifs at hxy with hx' hy' hy'
      · exact hx'.trans hy'.symm
      · exact absurd hxy.symm hyj
      · exact absurd hxy hxj
      · exact hxy
    · obtain ⟨y, hy, hyx⟩ := List.mem_map.1 hx
      have hyj := hne y hy
      rw [List.mem_singleton] at hxt
      split_ifs at hyx with hyt
      · exact hyj (hyt.trans (hxt.symm.trans hyx.symm))
      · exact hyt (hyx.trans hxt)
  · rcases List.mem_append.1 hx with hx | hx
    · obtain ⟨y, hy, rfl⟩ := List.mem_map.1 hx
      have hyj := h.lt y hy
      split <;> omega
    · rw [List.mem_singleton.1 hx]
      exact Nat.lt_succ_of_le ht
  · rw [Random.admitPlace, List.length_append, List.length_map, h.length]
    rfl

theorem always_floyd {chosen : List Nat} {j m : Nat} (h : DistinctPlaces j m chosen)
    (count : Nat) :
    Draw.Always (floyd chosen j count : Draw σ (List Nat))
      (DistinctPlaces (j + count) (m + count)) := by
  induction count generalizing chosen j m with
  | zero => exact Draw.always_pure h
  | succ count ih =>
    refine Draw.always_bind (always_placeBetween (Nat.zero_le j)) fun t ht => ?_
    have hnext := ih (h.admitPlace ht.2)
    rw [Nat.add_right_comm j, Nat.add_right_comm m] at hnext
    exact hnext

/-! ### Shuffling -/

theorem swapIfInBounds_perm (cells : Array Nat) (i j : Nat) :
    (cells.swapIfInBounds i j).toList.Perm cells.toList := by
  unfold Array.swapIfInBounds
  split
  · split
    · exact (Array.swap_perm _ _).toList
    · exact .rfl
  · exact .rfl

/-- A shuffle has the same cells as before. -/
theorem always_shuffle (cells : Array Nat) (i count : Nat) :
    Draw.Always (shuffle cells i count : Draw σ (Array Nat)) (·.toList.Perm cells.toList) := by
  induction count generalizing cells i with
  | zero => exact Draw.always_pure .rfl
  | succ count ih =>
    refine Draw.always_bind (P := fun _ => True) (fun _ => trivial) fun j _ => ?_
    exact (ih _ _).mono fun _ h => h.trans (swapIfInBounds_perm cells i j)

/-- The first cells of a shuffled list of all places. -/
theorem distinctPlaces_take {cells : Array Nat} {size count : Nat}
    (h : cells.toList.Perm (List.range size)) (hle : count ≤ size) :
    DistinctPlaces size count (cells.toList.take count) := by
  have hlength : cells.toList.length = size := h.length_eq.trans List.length_range
  refine ⟨?_, fun p hp => ?_, ?_⟩
  · exact (List.take_sublist _ _).nodup (h.nodup_iff.2 List.nodup_range)
  · exact List.mem_range.1 (h.mem_iff.1 (List.mem_of_mem_take hp))
  · rw [List.length_take, hlength, Nat.min_eq_left hle]

/-! ### Rejection -/

theorem namedPlace?_lt {w : Width} {size word place : Nat} (hword : word < w.values)
    (h : namedPlace? w size word = some place) : place < size := by
  rw [namedPlace?] at h
  split at h
  · cases h
  next hlow =>
    cases h
    -- An empty list has no places, so none of its words names one.
    have hsize : 0 < size := by
      refine Nat.pos_of_ne_zero ?_
      rintro rfl
      rw [Nat.mul_zero, Nat.zero_mod, Nat.mod_zero] at hlow
      omega
    exact div_lt_of_lt hsize hword

theorem always_newPlace (w : Width) (size : Nat) (chosen : List Nat) :
    Attempt.Always (newPlace w size chosen : Attempt σ Nat) fun p => p < size ∧ p ∉ chosen := by
  refine Attempt.always_retry (Draw.always_bind (always_raw w) fun word hword =>
    Draw.always_pure fun place hplace => ?_)
  rw [Option.filter_eq_some_iff, decide_eq_true_eq] at hplace
  exact ⟨namedPlace?_lt hword hplace.1, hplace.2⟩

theorem always_reject (w : Width) (size : Nat) (chosen : List Nat) (count : Nat) :
    Attempt.Always (reject w size chosen count : Attempt σ (List Nat)) fun places =>
      DistinctPlaces size count places ∧ ∀ p ∈ places, p ∉ chosen := by
  induction count generalizing chosen with
  | zero => exact Attempt.always_pure ⟨⟨List.nodup_nil, by simp, rfl⟩, by simp⟩
  | succ count ih =>
    refine Attempt.always_bind (always_newPlace w size chosen) fun place hplace =>
      Attempt.always_bind (ih _) fun places h => Attempt.always_pure ?_
    obtain ⟨⟨hnodup, hlt, hlength⟩, hapart⟩ := h
    refine ⟨⟨?_, List.forall_mem_cons.2 ⟨hplace.1, hlt⟩, by rw [List.length_cons, hlength]⟩,
      List.forall_mem_cons.2 ⟨hplace.2, fun p hp hmem => ?_⟩⟩
    · exact List.nodup_cons.2 ⟨fun hmem => hapart place hmem List.mem_cons_self, hnodup⟩
    · exact hapart p hp (List.mem_cons_of_mem _ hmem)

theorem onlyFaults_reject (w : Width) (size : Nat) (chosen : List Nat) (count : Nat) :
    Attempt.OnlyFaults (reject w size chosen count : Attempt σ (List Nat)) (· = .endless) := by
  induction count generalizing chosen with
  | zero => exact Attempt.onlyFaults_pure _
  | succ count ih =>
    exact Attempt.onlyFaults_bind Attempt.onlyFaults_retry fun _ =>
      Attempt.onlyFaults_bind (ih _) fun _ => Attempt.onlyFaults_pure _

/-! ### All methods -/

/-- Places that are drawn are distinct, below the length, and as many as wanted. -/
theorem always_distinctPlaces (size count : Nat) :
    Attempt.Always (distinctPlaces size count : Attempt σ (List Nat))
      (DistinctPlaces size count) := by
  unfold distinctPlaces
  split
  · rintro s places s' ⟨⟩
  next hle =>
    rw [Nat.not_lt] at hle
    cases Method.of size count with
    | floyd =>
      have hnone : DistinctPlaces (size - count) 0 [] := ⟨List.nodup_nil, by simp, rfl⟩
      have hall := always_floyd (σ := σ) hnone count
      rw [Nat.sub_add_cancel hle, Nat.zero_add] at hall
      exact Attempt.always_attempt hall
    | shuffle =>
      refine Attempt.always_attempt (Draw.always_bind (always_shuffle _ 0 count) fun cells h =>
        Draw.always_pure (distinctPlaces_take ?_ hle))
      rw [Array.toList_range] at h
      exact h
    | rejection => exact (always_reject _ size [] count).mono fun _ h => h.1

/-- If a list has as many places as wanted, then they are returned, unless it is rejection that
    draws them and there is no end to it. -/
theorem run_distinctPlaces_cases {size count : Nat} (hle : count ≤ size) (s : σ) :
    (∃ places s', (distinctPlaces size count).run s = .ok (places, s')) ∨
      Method.of size count = .rejection ∧
        (distinctPlaces size count).run s = .error .endless := by
  rw [distinctPlaces, if_neg (Nat.not_lt.2 hle)]
  cases Method.of size count with
  | floyd => exact .inl (Attempt.returns_attempt _ s)
  | shuffle => exact .inl (Attempt.returns_attempt _ s)
  | rejection =>
    dsimp only
    cases hrun : (reject (if size < Width.w32.values then .w32 else .w64) size [] count).run s with
    | ok result => exact .inl ⟨result.1, result.2, rfl⟩
    | error fault => exact .inr ⟨rfl, by rw [onlyFaults_reject _ _ _ _ s fault hrun]⟩

/-- Few places of a list that is not too long are never drawn by rejection. -/
theorem Method.of_ne_rejection {size count : Nat} (hsize : size < Width.w32.values)
    (hcount : count < 163) : Method.of size count ≠ .rejection := by
  intro h
  rw [Method.of, if_neg (Nat.not_le.2 hsize), if_pos hcount] at h
  dsimp only at h
  split_ifs at h

end

end SyntheticLoad.Random

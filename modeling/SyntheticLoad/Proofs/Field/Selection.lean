import Mathlib.Data.List.Perm.Subperm
import SyntheticLoad.Field.Selection
import SyntheticLoad.Proofs.Random.Agreement
import SyntheticLoad.Proofs.Random.DistinctPlaces

/-!
# Selections take no place twice

A selection looks at distinct places of its pool, all of which the pool has
(`isSelection_of_places`). So it takes no item more often than the pool has it, and repeats
none if the pool does not. Its size is drawn from a range that is never empty and ends where
the pool does, so there are always as many places as are wanted: none of the three faults of
a selection that would break it off can happen, and it is returned whenever its places are
(`selection_takes_distinct_places`).
-/

namespace SyntheticLoad.Field

open SyntheticLoad.Random

/-- What a selection of between `low` and `high` items of a pool is like. -/
structure IsSelection (pool : List String) (low high : Nat) (items : List String) : Prop where
  /-- Nothing is taken from an empty pool, or with a bound of zero. -/
  empty : pool = [] ∨ high = 0 → items = []
  /-- The bounds hold as far as the pool reaches, and the upper one wins over the lower one. -/
  size : min low (min high pool.length) ≤ items.length ∧ items.length ≤ min high pool.length
  /-- The items are those of distinct places. -/
  places : ∃ places : List Nat, places.Nodup ∧ places.map (pool[·]?) = items.map some
  /-- No item is taken more often than the pool has it. -/
  subperm : items.Subperm pool
  /-- No item is taken twice from a pool that has none twice. -/
  nodup : pool.Nodup → items.Nodup

theorem isSelection_nil {pool : List String} {low high : Nat} (h : pool = [] ∨ high = 0) :
    IsSelection pool low high [] where
  empty _ := rfl
  size := by
    have hzero : min high pool.length = 0 := by
      rcases h with rfl | rfl
      · exact Nat.min_zero high
      · exact Nat.zero_min _
    rw [hzero]
    exact ⟨Nat.min_le_right low 0, Nat.le_refl 0⟩
  places := ⟨[], List.nodup_nil, rfl⟩
  subperm := List.nil_subperm
  nodup _ := List.nodup_nil

/-- The items of distinct places, of which there are as many as the bounds allow. -/
theorem isSelection_of_places {pool : List String} {low high count : Nat} {places : List Nat}
    (hpool : pool ≠ []) (hhigh : high ≠ 0) (h : DistinctPlaces pool.length count places)
    (hcount : min low (min high pool.length) ≤ count ∧ count ≤ min high pool.length) :
    IsSelection pool low high (places.map fun p => pool.getD p "") := by
  have hitem : ∀ p ∈ places, pool[p]? = some (pool.getD p "") := fun p hp => by
    rw [List.getD_eq_getElem _ _ (h.lt p hp), List.getElem?_eq_getElem (h.lt p hp)]
  refine ⟨fun hempty => (not_or_intro hpool hhigh hempty).elim, ?_, ⟨places, h.nodup, ?_⟩, ?_,
    fun hnodup => List.Nodup.map_on (fun p hp q hq hpq => ?_) h.nodup⟩
  · rw [List.length_map, h.length]
    exact hcount
  · rw [List.map_map]
    exact List.map_congr_left hitem
  · -- The places are some of all places, and the items of those are the pool.
    obtain ⟨some, hperm, hsub⟩ : places.Subperm (List.range pool.length) :=
      h.nodup.subperm fun p hp => List.mem_range.2 (h.lt p hp)
    have hall : (List.range pool.length).map (fun p => pool.getD p "") = pool := by
      refine List.ext_getElem (by simp) fun p hp hp' => ?_
      rw [List.getElem_map, List.getElem_range, List.getD_eq_getElem _ _ hp']
    have hpart := hsub.map fun p => pool.getD p ""
    rw [hall] at hpart
    exact ⟨_, hperm.map _, hpart⟩
  · rw [List.getD_eq_getElem _ _ (h.lt p hp), List.getD_eq_getElem _ _ (h.lt q hq)] at hpq
    exact (List.Nodup.getElem_inj_iff hnodup).1 hpq

section

variable {σ : Type}

/-- Places that the pool has can all be looked at. -/
theorem mapM_itemAt {pool : List String} {places : List Nat} (h : ∀ p ∈ places, p < pool.length) :
    (places.mapM (itemAt pool) : Attempt σ (List String)) =
      pure (places.map fun p => pool.getD p "") := by
  induction places with
  | nil => rfl
  | cons p places ih =>
    rw [List.forall_mem_cons] at h
    have hitem : (itemAt pool p : Attempt σ String) = pure (pool.getD p "") := by
      rw [itemAt, List.getElem?_eq_getElem h.1, List.getD_eq_getElem _ _ h.1]
    rw [List.mapM_cons, hitem, ih h.2, pure_bind, pure_bind, List.map_cons]

variable [WordSource σ]

/-- Where there is something to take, the size is drawn first, and then its places. -/
theorem run_selection {pool : List String} {low high : Nat} (hpool : pool ≠ []) (hhigh : high ≠ 0)
    {count : Nat} {s s₁ : σ} (hsize : (sizeBetween (min low (min high pool.length))
      (min high pool.length) : Draw σ Nat).run s = (count, s₁)) :
    (selection pool low high).run s =
      (do let places ← distinctPlaces pool.length count; places.mapM (itemAt pool)).run s₁ := by
  have hrange : ¬min high pool.length < min low (min high pool.length) :=
    Nat.not_lt.2 (Nat.min_le_right _ _)
  rw [selection, if_neg (not_or_intro hpool hhigh)]
  refine Attempt.run_bind_of_ok ?_
  rw [sizeOfRange, if_neg hrange, ← hsize]
  rfl

/-- A selection is returned if its places are, and without them it goes on for ever. -/
theorem run_selection_cases {pool : List String} (low : Nat) {high : Nat} (hpool : pool ≠ [])
    (hhigh : high ≠ 0) (s : σ) :
    (∃ items s', (selection pool low high).run s = .ok (items, s') ∧
      IsSelection pool low high items) ∨
    ∃ count s₁, (sizeBetween (min low (min high pool.length))
        (min high pool.length) : Draw σ Nat).run s = (count, s₁) ∧
      count ≤ min high pool.length ∧ Method.of pool.length count = .rejection ∧
      (distinctPlaces pool.length count).run s₁ = .error .endless ∧
      (selection pool low high).run s = .error .endless := by
  have hbounds := always_sizeBetween (σ := σ)
    (Nat.min_le_right low (min high pool.length)) s
  obtain ⟨count, s₁, hsize⟩ : ∃ count s₁, (sizeBetween (min low (min high pool.length))
      (min high pool.length) : Draw σ Nat).run s = (count, s₁) := ⟨_, _, rfl⟩
  rw [hsize] at hbounds
  have hrun := run_selection hpool hhigh hsize
  have hle : count ≤ pool.length := Nat.le_trans hbounds.2 (Nat.min_le_right _ _)
  rcases run_distinctPlaces_cases hle s₁ with ⟨places, s', hplaces⟩ | ⟨hmethod, hendless⟩
  · have hdistinct := always_distinctPlaces _ _ s₁ places s' hplaces
    refine .inl ⟨_, s', ?_, isSelection_of_places hpool hhigh hdistinct hbounds⟩
    rw [hrun, Attempt.run_bind_of_ok hplaces, mapM_itemAt hdistinct.lt]
    rfl
  · refine .inr ⟨count, s₁, hsize, hbounds.2, hmethod, hendless, ?_⟩
    rw [hrun, Attempt.run_bind_eq_error hendless]

/-- A selection of few items from a pool that is not too long always returns. -/
theorem returns_selection {pool : List String} {low high : Nat}
    (hpool : pool.length < Width.w32.values) (hhigh : min high pool.length < 163) :
    Attempt.Returns (selection pool low high : Attempt σ (List String)) := by
  intro s
  by_cases hempty : pool = [] ∨ high = 0
  · rw [selection, if_pos hempty]
    exact ⟨[], s, rfl⟩
  · obtain ⟨hne, hpos⟩ := not_or.1 hempty
    rcases run_selection_cases low hne hpos s with
      ⟨items, s', hitems, -⟩ | ⟨count, -, -, hcount, hmethod, -⟩
    · exact ⟨items, s', hitems⟩
    · exact absurd hmethod (Method.of_ne_rejection hpool (by omega))

/-- **Selections take no place twice.** From whatever state of a source, a selection of between
    `low` and `high` items of a pool is returned, and is empty where it has to be, of a size
    within the bounds as far as the pool reaches, and taken from distinct places. The one
    exception is that its places are drawn by rejection and there is no end to that: then the
    selection has no end either. None breaks off. -/
theorem selection_takes_distinct_places (pool : List String) (low high : Nat) (s : σ) :
    (∃ items s', (selection pool low high).run s = .ok (items, s') ∧
      IsSelection pool low high items) ∨
    ∃ count s₁, (sizeBetween (min low (min high pool.length))
        (min high pool.length) : Draw σ Nat).run s = (count, s₁) ∧
      count ≤ min high pool.length ∧ Method.of pool.length count = .rejection ∧
      (distinctPlaces pool.length count).run s₁ = .error .endless ∧
      (selection pool low high).run s = .error .endless := by
  by_cases hempty : pool = [] ∨ high = 0
  · refine .inl ⟨[], s, ?_, isSelection_nil hempty⟩
    rw [selection, if_pos hempty]
    rfl
  · obtain ⟨hpool, hhigh⟩ := not_or.1 hempty
    exact run_selection_cases low hpool hhigh s

end

end SyntheticLoad.Field

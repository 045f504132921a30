import SyntheticLoad.Record.Value

/-!
# Records and their entries

`Record.insert` changes what stands under one key and nothing else
(`find?_insert`), and keeps the keys in increasing order (`insert_ordered`). So a
record that is built from entries has exactly their keys (`mem_keys_ofEntries`),
each with the last value given for it (`find?_ofEntries`).
-/

namespace SyntheticLoad.Record

instance (r : Record) : Decidable r.Ordered := inferInstanceAs (Decidable (List.Pairwise _ r))

/-! ### One entry -/

theorem find?_cons (key k : String) (value : Value) (r : Record) :
    find? k ((key, value) :: r) = if k = key then some value else r.find? k := by
  rw [find?, List.lookup_cons]
  by_cases h : k = key
  · rw [if_pos h, beq_iff_eq.2 h]
  · rw [if_neg h, beq_eq_false_iff_ne.2 h]
    rfl

theorem find?_insert (key k : String) (value : Value) (r : Record) :
    (insert key value r).find? k = if k = key then some value else r.find? k := by
  induction r with
  | nil => exact find?_cons key k value []
  | cons e rest ih =>
    obtain ⟨k', v'⟩ := e
    simp only [insert]
    split
    · exact find?_cons key k value _
    · split
      · next hk =>
        rw [find?_cons, find?_cons, ← hk]
        by_cases h : k = key <;> simp [h]
      · next hk =>
        -- The first entry is passed over; it only matters for its own key.
        rw [find?_cons, find?_cons, ih]
        by_cases h : k = k'
        · simp [h, Ne.symm hk]
        · simp [h]

/-- An entry of a record after an insertion was there before, or is the new one. -/
theorem mem_insert {key : String} {value : Value} {r : Record} {e : String × Value}
    (h : e ∈ insert key value r) : e = (key, value) ∨ e ∈ r := by
  induction r with
  | nil => exact .inl (List.mem_singleton.1 h)
  | cons e' rest ih =>
    simp only [insert] at h
    split at h
    · exact List.mem_cons.1 h
    · split at h
      · exact (List.mem_cons.1 h).imp_right (List.mem_cons_of_mem _)
      · rcases List.mem_cons.1 h with rfl | h
        · exact .inr List.mem_cons_self
        · exact (ih h).imp_right (List.mem_cons_of_mem _)

theorem insert_ordered {key : String} {value : Value} {r : Record} (h : r.Ordered) :
    (insert key value r).Ordered := by
  induction r with
  | nil => exact List.pairwise_singleton _ _
  | cons e rest ih =>
    obtain ⟨hhead, hrest⟩ := List.pairwise_cons.1 h
    simp only [insert]
    split
    · next hlt =>
      refine List.pairwise_cons.2 ⟨fun e' he' => ?_, h⟩
      rcases List.mem_cons.1 he' with rfl | he'
      · exact hlt
      · exact String.lt_trans hlt (hhead e' he')
    · next hnlt =>
      split
      · next heq => exact List.pairwise_cons.2 ⟨fun e' he' => heq ▸ hhead e' he', hrest⟩
      · next hne =>
        -- The key comes behind the first one, with which it is comparable.
        have hgt : e.1 < key := String.not_le.1 fun hle =>
          hne (String.le_antisymm hle (String.not_lt.1 hnlt))
        refine List.pairwise_cons.2 ⟨fun e' he' => ?_, ih hrest⟩
        rcases mem_insert he' with rfl | he'
        · exact hgt
        · exact hhead e' he'

theorem length_insert_le (key : String) (value : Value) (r : Record) :
    (insert key value r).length ≤ r.length + 1 := by
  induction r with
  | nil => exact Nat.le_refl _
  | cons e rest ih =>
    simp only [insert]
    split
    · exact Nat.le_refl _
    · split
      · exact Nat.le_succ _
      · exact Nat.succ_le_succ ih

/-! ### All entries -/

/-- A record with some more entries put in, one after the other. -/
def insertAll (r : Record) (entries : List (String × Value)) : Record :=
  entries.foldl (fun r (k, v) => insert k v r) r

theorem find?_insertAll (k : String) (entries : List (String × Value)) (r : Record) :
    (insertAll r entries).find? k = (entries.reverse.lookup k).or (r.find? k) := by
  induction entries generalizing r with
  | nil => rfl
  | cons e rest ih =>
    obtain ⟨key, value⟩ := e
    have hone : [(key, value)].lookup k = if k = key then some value else none :=
      find?_cons key k value []
    -- The first entry given is the last one to be found.
    rw [List.reverse_cons, List.lookup_append, Option.or_assoc, hone]
    refine (ih (insert key value r)).trans (congrArg _ ?_)
    rw [find?_insert]
    by_cases h : k = key <;> simp [h]

theorem insertAll_ordered {entries : List (String × Value)} {r : Record} (h : r.Ordered) :
    (insertAll r entries).Ordered := by
  induction entries generalizing r with
  | nil => exact h
  | cons e rest ih => exact ih (insert_ordered h)

theorem mem_insertAll {entries : List (String × Value)} {r : Record} {e : String × Value}
    (h : e ∈ insertAll r entries) : e ∈ entries ∨ e ∈ r := by
  induction entries generalizing r with
  | nil => exact .inr h
  | cons e' rest ih =>
    rcases ih h with h | h
    · exact .inl (List.mem_cons_of_mem _ h)
    · rcases mem_insert h with rfl | h
      · exact .inl List.mem_cons_self
      · exact .inr h

theorem length_insertAll_le (entries : List (String × Value)) (r : Record) :
    (insertAll r entries).length ≤ r.length + entries.length := by
  induction entries generalizing r with
  | nil => exact Nat.le_refl _
  | cons e rest ih =>
    have hstep : (insert e.1 e.2 r).length ≤ r.length + 1 := length_insert_le e.1 e.2 r
    refine Nat.le_trans (ih (insert e.1 e.2 r)) ?_
    rw [List.length_cons]
    omega

/-! ### Records of entries -/

/-- The last value given for a key stands under it. -/
theorem find?_ofEntries (k : String) (entries : List (String × Value)) :
    (ofEntries entries).find? k = entries.reverse.lookup k :=
  (find?_insertAll k entries []).trans (Option.or_none)

theorem ofEntries_ordered (entries : List (String × Value)) : (ofEntries entries).Ordered :=
  insertAll_ordered .nil

theorem mem_ofEntries {entries : List (String × Value)} {e : String × Value}
    (h : e ∈ ofEntries entries) : e ∈ entries :=
  (mem_insertAll h).resolve_right List.not_mem_nil

theorem length_ofEntries_le (entries : List (String × Value)) :
    (ofEntries entries).length ≤ entries.length :=
  Nat.le_trans (length_insertAll_le entries []) (Nat.le_of_eq (Nat.zero_add _))

theorem mem_keys_iff {k : String} {r : Record} : k ∈ r.keys ↔ (r.find? k).isSome := by
  rw [find?, List.lookup_isSome_iff]
  simp only [keys, List.mem_map, beq_iff_eq, eq_comm (a := k)]

/-- The keys of a record of entries are those of the entries. -/
theorem mem_keys_ofEntries {k : String} {entries : List (String × Value)} :
    k ∈ (ofEntries entries).keys ↔ k ∈ entries.map Prod.fst := by
  rw [mem_keys_iff, find?_ofEntries, List.lookup_isSome_iff]
  simp only [List.mem_reverse, beq_iff_eq, List.mem_map, eq_comm (a := k)]

theorem length_ofEntries_pos {entries : List (String × Value)} (h : 0 < entries.length) :
    0 < (ofEntries entries).length := by
  obtain ⟨e, he⟩ := List.exists_mem_of_length_pos h
  have hkey : e.1 ∈ (ofEntries entries).keys := mem_keys_ofEntries.2 (List.mem_map_of_mem he)
  obtain ⟨e', he', _⟩ := List.mem_map.1 hkey
  exact List.length_pos_of_mem he'

end SyntheticLoad.Record

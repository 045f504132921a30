import Mathlib.Data.List.Induction
import SyntheticLoad.Http.Header
import SyntheticLoad.Proofs.Text.Ascii

/-!
# Maps of headers

Names are kept in lower case, each once (`HeaderMap.Canonical`), so all spellings of a name
together have one value or none (`HeaderMap.values`). Setting a header changes what stands under
its name and nothing else (`HeaderMap.Canonical.values_put`). Hence of headers that are set one
after the other, the last one of a name has its value in the map
(`HeaderMap.Canonical.values_putAll`).
-/

namespace SyntheticLoad.Http

open Text

/-! ### Names -/

/-- Whether two names are the same but for the case of their letters. -/
def sameName (a b : String) : Bool := headerKey a == headerKey b

theorem sameName_iff {a b : String} : sameName a b = true ↔ headerKey a = headerKey b := beq_iff_eq

theorem headerKey_headerKey (name : String) : headerKey (headerKey name) = headerKey name := by
  rw [headerKey, headerKey, String.toList_ofList, lower_lower]

theorem sameName_headerKey (name other : String) :
    sameName (headerKey name) other = sameName name other := by
  rw [sameName, sameName, headerKey_headerKey]

/-- A name has one spelling in lower case. -/
theorem eq_of_sameName {a b name : String} (ha : headerKey a = a) (hb : headerKey b = b)
    (hsame : sameName a name = true) (hsame' : sameName b name = true) : a = b := by
  rw [sameName_iff] at hsame hsame'
  rw [← ha, ← hb, hsame, hsame']

/-! ### Maps -/

namespace HeaderMap

/-- The values of a map under all spellings of a name. -/
def values (m : HeaderMap) (name : String) : List String :=
  (m.filter fun h => sameName h.1 name).map Prod.snd

theorem values_cons (h : String × String) (m : HeaderMap) (name : String) :
    values (h :: m) name = if sameName h.1 name then h.2 :: m.values name else m.values name := by
  rw [values, List.filter_cons]
  split <;> rfl

theorem values_eq_nil {m : HeaderMap} {name : String}
    (h : ∀ p ∈ m, sameName p.1 name = false) : m.values name = [] := by
  rw [values, List.filter_eq_nil_iff.2 fun p hp => Bool.eq_false_iff.1 (h p hp), List.map_nil]

/-- Names are kept in lower case, each once. -/
structure Canonical (m : HeaderMap) : Prop where
  lower : ∀ h ∈ m, headerKey h.1 = h.1
  nodup : (m.map Prod.fst).Nodup

theorem Canonical.tail {h : String × String} {m : HeaderMap} (hm : Canonical (h :: m)) :
    m.Canonical :=
  ⟨fun p hp => hm.lower p (List.mem_cons_of_mem h hp), (List.nodup_cons.1 hm.nodup).2⟩

/-- The name of the first header does not come again in any spelling. -/
theorem Canonical.values_tail {h : String × String} {m : HeaderMap} (hm : Canonical (h :: m))
    {name : String} (hname : sameName h.1 name = true) : m.values name = [] := by
  refine values_eq_nil fun p hp => Bool.eq_false_iff.2 fun hsame => ?_
  have heq := eq_of_sameName (hm.lower h List.mem_cons_self) (hm.tail.lower p hp) hname hsame
  exact (List.nodup_cons.1 hm.nodup).1 (heq ▸ List.mem_map_of_mem hp)

theorem mem_put {m : HeaderMap} {key value : String} {h : String × String}
    (hmem : h ∈ put key value m) : h = (key, value) ∨ h ∈ m := by
  induction m with
  | nil => exact .inl (List.mem_singleton.1 hmem)
  | cons p m ih =>
    obtain ⟨k, v⟩ := p
    rw [put] at hmem
    split at hmem
    · exact (List.mem_cons.1 hmem).imp_right (List.mem_cons_of_mem _)
    · rcases List.mem_cons.1 hmem with heq | hmem
      · exact .inr (heq ▸ List.mem_cons_self)
      · exact (ih hmem).imp_right (List.mem_cons_of_mem _)

theorem Canonical.put {m : HeaderMap} (hm : m.Canonical) (name value : String) :
    (HeaderMap.put (headerKey name) value m).Canonical := by
  refine ⟨fun h hmem => ?_, ?_⟩
  · rcases mem_put hmem with rfl | hmem
    · exact headerKey_headerKey name
    · exact hm.lower h hmem
  · induction m with
    | nil => exact List.pairwise_singleton _ _
    | cons p m ih =>
      obtain ⟨k, v⟩ := p
      obtain ⟨hnew, hnodup⟩ := List.nodup_cons.1 hm.nodup
      rw [HeaderMap.put]
      split
      · next heq => exact heq ▸ hm.nodup
      · next hne =>
        refine List.nodup_cons.2 ⟨fun hmem => ?_, ih hm.tail⟩
        obtain ⟨q, hq, hfst⟩ := List.mem_map.1 hmem
        rcases mem_put hq with rfl | hq
        · exact hne hfst.symm
        · exact hnew (List.mem_map.2 ⟨q, hq, hfst⟩)

/-- A header that is set has its value under all spellings of its name, in the place of what was
    there, and nothing else changes. -/
theorem Canonical.values_put {m : HeaderMap} (hm : m.Canonical) (set value name : String) :
    (HeaderMap.put (headerKey set) value m).values name =
      if sameName set name then [value] else m.values name := by
  rw [← sameName_headerKey set]
  induction m with
  | nil => exact values_cons _ [] name
  | cons p m ih =>
    obtain ⟨k, v⟩ := p
    rw [HeaderMap.put]
    split
    · next heq =>
      subst heq
      rw [values_cons, values_cons]
      split
      · next hsame => rw [hm.values_tail hsame]
      · rfl
    · next hne =>
      rw [values_cons, values_cons, ih hm.tail]
      split
      · next hsame =>
        -- The name that is set is not that of the first header.
        have hlower : headerKey k = k := hm.lower (k, v) List.mem_cons_self
        have hother : ¬sameName (headerKey set) name = true := fun hset =>
          hne (eq_of_sameName hlower (headerKey_headerKey set) hsame hset)
        rw [if_neg hother, if_neg hother]
      · rfl

/-- A map with some headers set one after the other. -/
def putAll (m : HeaderMap) (hs : List (String × String)) : HeaderMap :=
  hs.foldl (fun m h => put (headerKey h.1) h.2 m) m

theorem putAll_concat (m : HeaderMap) (hs : List (String × String)) (h : String × String) :
    m.putAll (hs ++ [h]) = put (headerKey h.1) h.2 (m.putAll hs) := by
  rw [putAll, List.foldl_append]
  rfl

theorem Canonical.putAll {m : HeaderMap} (hm : m.Canonical) (hs : List (String × String)) :
    (m.putAll hs).Canonical := by
  induction hs using List.reverseRecOn with
  | nil => exact hm
  | append_singleton hs h ih =>
    rw [putAll_concat]
    exact ih.put h.1 h.2

end HeaderMap

/-- The value of the last header of a name. -/
def lastNamed (name : String) (hs : List (String × String)) : Option String :=
  ((hs.filter fun h => sameName h.1 name).getLast?).map Prod.snd

theorem lastNamed_append (name : String) (hs hs' : List (String × String)) :
    lastNamed name (hs ++ hs') = (lastNamed name hs').or (lastNamed name hs) := by
  rw [lastNamed, List.filter_append, List.getLast?_append, Option.map_or]
  rfl

theorem lastNamed_singleton (name : String) (h : String × String) :
    lastNamed name [h] = if sameName h.1 name then some h.2 else none := by
  rw [lastNamed, List.filter_cons, List.filter_nil]
  cases sameName h.1 name <;> rfl

theorem lastNamed_eq_none_iff {name : String} {hs : List (String × String)} :
    lastNamed name hs = none ↔ ∀ h ∈ hs, sameName h.1 name = false := by
  rw [lastNamed, Option.map_eq_none_iff, List.getLast?_eq_none_iff, List.filter_eq_nil_iff]
  simp only [Bool.not_eq_true]

/-- The last header of a name has its value in the map. -/
theorem HeaderMap.Canonical.values_putAll {m : HeaderMap} (hm : m.Canonical)
    (hs : List (String × String)) (name : String) :
    (m.putAll hs).values name =
      match lastNamed name hs with
      | some value => [value]
      | none => m.values name := by
  induction hs using List.reverseRecOn with
  | nil => rfl
  | append_singleton hs h ih =>
    rw [putAll_concat, (hm.putAll hs).values_put, ih, lastNamed_append, lastNamed_singleton]
    split <;> rfl

end SyntheticLoad.Http

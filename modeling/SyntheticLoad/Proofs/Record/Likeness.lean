import SyntheticLoad.Record.Value

/-!
# Records that are alike

Two values are alike if they differ in nothing but their instants: they are of the same
type, nested records have the same keys, and what is no instant is the same at every
depth. How far two instants in the same place may differ is given as a relation
(`Value.Alike`).

Records that are put together from entries with the same keys and alike values are
alike (`Record.Alike.ofEntries`), since what is put where hangs on the keys alone.
-/

namespace SyntheticLoad

open Time

mutual

/-- Values that differ at most in their instants, and there as `leaf` says. -/
inductive Value.Alike (leaf : Instant → Instant → Prop) : Value → Value → Prop
  | text (s : String) : Value.Alike leaf (.text s) (.text s)
  | int (n : Int64) : Value.Alike leaf (.int n) (.int n)
  | float (x : Float) : Value.Alike leaf (.float x) (.float x)
  | bool (b : Bool) : Value.Alike leaf (.bool b) (.bool b)
  | instant {t t' : Instant} : leaf t t' → Value.Alike leaf (.instant t) (.instant t')
  | list (items : List String) : Value.Alike leaf (.list items) (.list items)
  | map {r r' : List (String × Value)} :
    Record.Alike leaf r r' → Value.Alike leaf (.map r) (.map r')

/-- Records with the same keys, and alike values under them. -/
inductive Record.Alike (leaf : Instant → Instant → Prop) :
    List (String × Value) → List (String × Value) → Prop
  | nil : Record.Alike leaf [] []
  | cons {key : String} {v v' : Value} {r r' : List (String × Value)} :
    Value.Alike leaf v v' → Record.Alike leaf r r' →
    Record.Alike leaf ((key, v) :: r) ((key, v') :: r')

end

variable {leaf weaker : Instant → Instant → Prop}

mutual

theorem Value.Alike.mono (h : ∀ t t', leaf t t' → weaker t t') :
    ∀ {v v' : Value}, Value.Alike leaf v v' → Value.Alike weaker v v'
  | _, _, .text s => .text s
  | _, _, .int n => .int n
  | _, _, .float x => .float x
  | _, _, .bool b => .bool b
  | _, _, .instant ht => .instant (h _ _ ht)
  | _, _, .list items => .list items
  | _, _, .map hr => .map (Record.Alike.mono h hr)

theorem Record.Alike.mono (h : ∀ t t', leaf t t' → weaker t t') :
    ∀ {r r' : List (String × Value)}, Record.Alike leaf r r' → Record.Alike weaker r r'
  | _, _, .nil => .nil
  | _, _, .cons hv hr => .cons (Value.Alike.mono h hv) (Record.Alike.mono h hr)

end

namespace Record.Alike

/-- Entries without instants are like themselves. -/
theorem of_texts {es : List (String × Value)} (h : ∀ e ∈ es, ∃ s, e.2 = .text s) :
    Record.Alike leaf es es := by
  induction es with
  | nil => exact .nil
  | cons e es ih =>
    obtain ⟨key, v⟩ := e
    obtain ⟨hv, hes⟩ := List.forall_mem_cons.1 h
    obtain ⟨s, rfl⟩ : ∃ s, v = .text s := hv
    exact .cons (.text s) (ih hes)

/-- A key goes to the same place in records that are alike. -/
theorem insert {r r' : Record} (hr : Record.Alike leaf r r') (key : String) {v v' : Value}
    (hv : Value.Alike leaf v v') :
    Record.Alike leaf (Record.insert key v r) (Record.insert key v' r') := by
  induction r generalizing r' with
  | nil =>
    cases hr
    exact .cons hv .nil
  | cons e rest ih =>
    obtain ⟨k, w⟩ := e
    cases hr with
    | cons hw hrest =>
      simp only [Record.insert]
      split
      · exact .cons hv (.cons hw hrest)
      · split
        · exact .cons hv hrest
        · exact .cons hw (ih hrest)

/-- Entries that are alike make records that are alike. -/
theorem ofEntries {es es' : List (String × Value)} (h : Record.Alike leaf es es') :
    Record.Alike leaf (Record.ofEntries es) (Record.ofEntries es') := by
  -- The entries are put in one by one, so the induction is for any records to start from.
  suffices hgen : ∀ r r' : Record, Record.Alike leaf r r' →
      Record.Alike leaf (es.foldl (fun r e => Record.insert e.1 e.2 r) r)
        (es'.foldl (fun r e => Record.insert e.1 e.2 r) r') from hgen [] [] .nil
  induction es generalizing es' with
  | nil =>
    cases h
    exact fun _ _ hr => hr
  | cons e es ih =>
    cases h with
    | cons hv hes => exact fun r r' hr => ih hes _ _ (hr.insert _ hv)

end Record.Alike

end SyntheticLoad

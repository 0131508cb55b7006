import Mathlib.Data.Finmap
import TypedTables.Schema

/-!
# Maps from keys to rows

What a table with a primary key is to those who use it: a finite map from keys to rows, and what the operations of a
table do to such a map and answer. `Lists` says that some rows are those of a map; each change of a map is a change of
such rows. -/

namespace TypedTables

variable {κ ρ : Type} [Kinds κ]

/-- The key of a row. -/
abbrev Schema.keyOf (schema : Schema κ ρ) (row : ρ) : schema.Key := schema.key.field.get row

/-- Rows by their keys. -/
abbrev KeyMap (schema : Schema κ ρ) := Finmap fun _ : schema.Key => ρ

namespace KeyMap

/-- An operation on the rows of a table by their keys. -/
inductive Operation (schema : Schema κ ρ) where
  | insertOne (row : ρ)
  | insert (rows : List ρ)
  | updateOne (row : ρ)
  | update (rows : List ρ)
  | queryKey (key : schema.Key)
  | deleteKey (key : schema.Key)
  | deleteRow (row : ρ)
  | deleteKeys (keys : List schema.Key)
  | deleteRows (rows : List ρ)
  | clear

/-- What an operation answers. -/
inductive Answer (ρ : Type) where
  | count (n : Nat)
  | flag (b : Bool)
  | row (row? : Option ρ)
  deriving DecidableEq

variable {schema : Schema κ ρ} [DecidableEq schema.Key]

/-! ### Operations -/

/-- Puts a row under its key. -/
def put (m : KeyMap schema) (row : ρ) : KeyMap schema := m.insert (schema.keyOf row) row

/-- Puts a row under its key, if the key is there. -/
def replace (m : KeyMap schema) (row : ρ) : KeyMap schema := if schema.keyOf row ∈ m then m.put row else m

/-- Takes keys away one by one. -/
def removeAll (m : KeyMap schema) (keys : List schema.Key) : KeyMap schema := keys.foldl (fun m key => m.erase key) m

/-- Adds a row, unless its key is there. -/
def add (row : ρ) (m : KeyMap schema) : Option Nat × KeyMap schema :=
  if schema.keyOf row ∈ m then (none, m) else (some 1, m.put row)

/-- Replaces a row and says how many have been. -/
def renew (row : ρ) (m : KeyMap schema) : Option Nat × KeyMap schema :=
  (some (if schema.keyOf row ∈ m then 1 else 0), m.replace row)

/-- Takes rows in order up to the first that is refused, which leaves what has been done before it. The counts are
    added up. -/
def each (step : ρ → KeyMap schema → Option Nat × KeyMap schema) :
    List ρ → KeyMap schema → Option Nat × KeyMap schema
  | [], m => (some 0, m)
  | row :: rows, m =>
    match step row m with
    | (none, m') => (none, m')
    | (some n, m') => ((each step rows m').1.map (n + ·), (each step rows m').2)

/-- What an operation answers, or nothing where it fails, and the map after it. -/
def apply (m : KeyMap schema) : Operation schema → Option (Answer ρ) × KeyMap schema
  | .insertOne row => if schema.keyOf row ∈ m then (none, m) else (some (.flag true), m.put row)
  | .insert rows => ((each add rows m).1.map .count, (each add rows m).2)
  | .updateOne row => (some (.flag (schema.keyOf row ∈ m)), m.replace row)
  | .update rows => (some (.count (rows.countP (schema.keyOf · ∈ m))), rows.foldl replace m)
  | .queryKey key => (some (.row (m.lookup key)), m)
  | .deleteKey key => (some (.flag (key ∈ m)), m.erase key)
  | .deleteRow row => (some (.flag (schema.keyOf row ∈ m)), m.erase (schema.keyOf row))
  | .deleteKeys keys => (some (.count (m.keys.filter (· ∈ keys)).card), m.removeAll keys)
  | .deleteRows rows =>
    (some (.count (m.keys.filter (· ∈ rows.map schema.keyOf)).card), m.removeAll (rows.map schema.keyOf))
  | .clear => (some (.count m.keys.card), ∅)

/-- The answers of operations one after the other, and the map after them. -/
def applyAll (m : KeyMap schema) : List (Operation schema) → List (Option (Answer ρ)) × KeyMap schema
  | [] => ([], m)
  | o :: operations => ((m.apply o).1 :: ((m.apply o).2.applyAll operations).1, ((m.apply o).2.applyAll operations).2)

/-! ### Rows of keys -/

variable {m : KeyMap schema} {row : ρ}

theorem lookup_put (key : schema.Key) :
    (m.put row).lookup key = if key = schema.keyOf row then some row else m.lookup key := by
  split
  · next same =>
    rw [same]
    exact Finmap.lookup_insert m
  · next other => exact Finmap.lookup_insert_of_ne m other

theorem lookup_replace (key : schema.Key) :
    (m.replace row).lookup key = if key = schema.keyOf row ∧ key ∈ m then some row else m.lookup key := by
  by_cases stored : schema.keyOf row ∈ m
  · rw [replace, if_pos stored, lookup_put]
    refine if_congr ⟨fun same => ⟨same, same ▸ stored⟩, And.left⟩ rfl rfl
  · rw [replace, if_neg stored, if_neg]
    rintro ⟨rfl, there⟩
    exact stored there

theorem mem_replace {key : schema.Key} : key ∈ m.replace row ↔ key ∈ m := by
  rw [← Finmap.lookup_isSome, ← Finmap.lookup_isSome, lookup_replace]
  split
  · next stored => simp [Finmap.lookup_isSome, stored.2]
  · rfl

theorem lookup_removeAll (keys : List schema.Key) (key : schema.Key) :
    (m.removeAll keys).lookup key = if key ∈ keys then none else m.lookup key := by
  induction keys generalizing m with
  | nil => simp [removeAll]
  | cons first keys ih =>
    have step : m.removeAll (first :: keys) = removeAll (m.erase first) keys := rfl
    rw [step, ih]
    by_cases same : key = first
    · subst same
      simp [Finmap.lookup_erase]
    · simp [Finmap.lookup_erase_ne same, same]

/-- Replacing adds no key, so each row counts that has a key from the beginning. -/
theorem each_renew (rows : List ρ) :
    each renew rows m = (some (rows.countP (schema.keyOf · ∈ m)), rows.foldl replace m) := by
  induction rows generalizing m with
  | nil => rfl
  | cons row rows ih =>
    have same : rows.countP (fun other => decide (schema.keyOf other ∈ m.replace row)) =
        rows.countP fun other => decide (schema.keyOf other ∈ m) :=
      congrArg (List.countP · rows) (funext fun other => decide_eq_decide.mpr mem_replace)
    rw [each, renew]
    simp only [ih, same, List.countP_cons, List.foldl_cons, Option.map_some, decide_eq_true_eq]
    rw [Nat.add_comm]

/-! ### Lists of rows -/

/-- The rows are those of the map, each once. -/
structure Lists (m : KeyMap schema) (rows : List ρ) : Prop where
  distinct : (rows.map schema.keyOf).Nodup
  lookup : ∀ key row, m.lookup key = some row ↔ row ∈ rows ∧ schema.keyOf row = key

theorem lists_empty : Lists (∅ : KeyMap schema) [] where
  distinct := List.nodup_nil
  lookup key row := by simp

namespace Lists

variable {rows : List ρ} (h : m.Lists rows)
include h

theorem mem_iff {key : schema.Key} : key ∈ m ↔ key ∈ rows.map schema.keyOf := by
  rw [Finmap.mem_iff, List.mem_map]
  exact exists_congr fun row => h.lookup key row

theorem keys_eq : m.keys = (rows.map schema.keyOf).toFinset := by
  ext key
  rw [Finmap.mem_keys, h.mem_iff, List.mem_toFinset]

theorem perm {other : List ρ} (p : other.Perm rows) : m.Lists other where
  distinct := (p.map _).nodup_iff.mpr h.distinct
  lookup key row := by rw [h.lookup, p.mem_iff]

theorem unique {m' : KeyMap schema} (h' : m'.Lists rows) : m = m' :=
  Finmap.ext_lookup fun key => Option.ext fun row => (h.lookup key row).trans (h'.lookup key row).symm

theorem put (fresh : schema.keyOf row ∉ m) : (m.put row).Lists (rows ++ [row]) where
  distinct := by
    rw [List.map_append, List.map_singleton, ← List.concat_eq_append]
    exact List.Nodup.concat (fun there => fresh (h.mem_iff.mpr there)) h.distinct
  lookup key other := by
    rw [lookup_put, List.mem_append, List.mem_singleton]
    split
    · next same =>
      subst same
      constructor
      · rintro ⟨⟩
        exact ⟨Or.inr rfl, rfl⟩
      · rintro ⟨there | rfl, same⟩
        · exact absurd (h.mem_iff.mpr (List.mem_map.mpr ⟨other, there, same⟩)) fresh
        · rfl
    · next ne =>
      rw [h.lookup]
      constructor
      · exact fun ⟨there, same⟩ => ⟨Or.inl there, same⟩
      · rintro ⟨there | rfl, same⟩
        · exact ⟨there, same⟩
        · exact absurd same.symm ne

/-- The rows with another one in the place of the row of its key. -/
theorem replace : (m.replace row).Lists
    (rows.map fun other => if schema.keyOf other = schema.keyOf row then row else other) where
  distinct := by
    have kept : ∀ other ∈ rows, schema.keyOf (if schema.keyOf other = schema.keyOf row then row else other) =
        schema.keyOf other := by
      intro other _
      split
      · next same => exact same.symm
      · rfl
    rw [List.map_map]
    exact (List.map_congr_left kept).symm ▸ h.distinct
  lookup key other := by
    rw [lookup_replace, List.mem_map]
    split
    · next stored =>
      obtain ⟨rfl, stored⟩ := stored
      obtain ⟨old, there, same⟩ := List.mem_map.mp (h.mem_iff.mp stored)
      constructor
      · rintro ⟨⟩
        exact ⟨⟨old, there, if_pos same⟩, rfl⟩
      · rintro ⟨⟨found, -, rfl⟩, same'⟩
        split at same'
        · next here => rw [if_pos here]
        · next elsewhere => exact absurd same' elsewhere
    · next absent =>
      rw [h.lookup]
      constructor
      · rintro ⟨there, rfl⟩
        refine ⟨⟨other, there, if_neg fun same => ?_⟩, rfl⟩
        exact absent ⟨same, h.mem_iff.mpr (List.mem_map_of_mem there)⟩
      · rintro ⟨⟨found, there, rfl⟩, rfl⟩
        split at absent
        · next same =>
          exact absurd ⟨rfl, h.mem_iff.mpr (same ▸ List.mem_map_of_mem there)⟩ absent
        · next other =>
          rw [if_neg other]
          exact ⟨there, rfl⟩

/-- The rows without those of some keys. -/
theorem remove {p : schema.Key → Bool} {m' : KeyMap schema}
    (removed : ∀ key, m'.lookup key = if p key then none else m.lookup key) :
    m'.Lists (rows.filter fun row => !p (schema.keyOf row)) where
  distinct := h.distinct.sublist (List.filter_sublist.map _)
  lookup key row := by
    rw [removed, List.mem_filter, Bool.not_eq_true']
    split
    · next gone =>
      constructor
      · exact nofun
      · rintro ⟨⟨-, kept⟩, rfl⟩
        rw [kept] at gone
        cases gone
    · next kept =>
      rw [h.lookup]
      constructor
      · rintro ⟨there, rfl⟩
        exact ⟨⟨there, Bool.eq_false_iff.mpr kept⟩, rfl⟩
      · rintro ⟨⟨there, -⟩, same⟩
        exact ⟨there, same⟩

/-- There are as many rows of some keys as there are such keys. -/
theorem countP_eq (p : schema.Key → Bool) :
    rows.countP (fun row => p (schema.keyOf row)) = (m.keys.filter fun key => p key).card := by
  rw [h.keys_eq, ← List.toFinset_filter, List.toFinset_card_of_nodup (h.distinct.filter _), List.filter_map,
    List.length_map, List.countP_eq_length_filter]
  rfl

/-- The rows of a key are one or none. -/
theorem filter_eq (key : schema.Key) :
    (rows.filter fun row => decide (schema.keyOf row = key)) = (m.lookup key).toList := by
  rcases stored : m.lookup key with _ | row
  · rw [Option.toList_none, List.filter_eq_nil_iff]
    intro row there same
    rw [(h.lookup key row).mpr ⟨there, of_decide_eq_true same⟩] at stored
    cases stored
  · obtain ⟨there, same⟩ := (h.lookup key row).mp stored
    rw [Option.toList_some, ← List.perm_singleton]
    refine (List.perm_ext_iff_of_nodup ((List.Nodup.of_map _ h.distinct).filter _) (List.nodup_singleton row)).mpr ?_
    intro other
    rw [List.mem_filter, decide_eq_true_eq, ← h.lookup key other, stored, List.mem_singleton, Option.some_inj]
    exact eq_comm

end Lists

end KeyMap

end TypedTables

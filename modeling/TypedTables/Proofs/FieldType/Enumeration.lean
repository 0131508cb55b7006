import TypedTables.Proofs.FieldType.Chain
import TypedTables.Proofs.FieldType.Faithful

/-!
# Enumerations

An enumeration decodes the ids of its values and nothing else. An id that several values have is decoded as the last of
them, so every listed value is read back where no two of them share an id. The column has room for every id, and no more
than the longest one takes (`FieldType.decode_enumeration`). -/

namespace TypedTables

theorem Value.text?_eq_some {v : Value} {s : String} : v.text? = some s ↔ v = .text s := by
  cases v <;> simp [text?]

namespace FieldType

/-! ### The longest id -/

/-- The greatest length, counted on from one: it is not exceeded, and it is the first or the length of a text. -/
theorem foldl_max_length (ids : List String) (least : Nat) :
    least ≤ ids.foldl (fun n id => max n id.length) least ∧
      (∀ id ∈ ids, id.length ≤ ids.foldl (fun n id => max n id.length) least) ∧
      (ids.foldl (fun n id => max n id.length) least = least ∨
        ∃ id ∈ ids, id.length = ids.foldl (fun n id => max n id.length) least) := by
  induction ids generalizing least with
  | nil => exact ⟨Nat.le_refl _, fun _ => (nomatch ·), Or.inl rfl⟩
  | cons first ids ih =>
    obtain ⟨above, bound, reached⟩ := ih (max least first.length)
    rw [List.foldl_cons]
    refine ⟨Nat.le_trans (Nat.le_max_left _ _) above, fun id among => ?_, ?_⟩
    · rcases List.mem_cons.mp among with rfl | among
      · exact Nat.le_trans (Nat.le_max_right _ _) above
      · exact bound id among
    · rcases reached with same | ⟨id, among, same⟩
      · rw [same]
        rcases Nat.le_total first.length least with le | le
        · exact Or.inl (Nat.max_eq_left le)
        · exact Or.inr ⟨first, List.mem_cons_self, (Nat.max_eq_right le).symm⟩
      · exact Or.inr ⟨id, List.mem_cons_of_mem first among, same⟩

section
variable {ids : List String}

theorem length_le_longest {id : String} (among : id ∈ ids) : id.length ≤ longest ids :=
  (foldl_max_length ids 1).2.1 id among

/-- Where all ids are empty the length is one. -/
theorem longest_of_empty (empty : ∀ id ∈ ids, id = "") : longest ids = 1 := by
  rcases (foldl_max_length ids 1).2.2 with same | ⟨id, among, same⟩
  · exact same
  · have least : 1 ≤ longest ids := (foldl_max_length ids 1).1
    rw [empty id among] at same
    have none : longest ids = 0 := same.symm
    omega

/-- Where an id is not empty the length is that of an id. -/
theorem exists_longest {id : String} (among : id ∈ ids) (filled : id ≠ "") : ∃ id ∈ ids, id.length = longest ids := by
  rcases (foldl_max_length ids 1).2.2 with same | reached
  · have low : 0 < id.length := Nat.pos_of_ne_zero (mt String.length_eq_zero_iff.mp filled)
    have high : id.length ≤ 1 := Nat.le_trans (length_le_longest among) (Nat.le_of_eq same)
    exact ⟨id, among, (Nat.le_antisymm high low).trans same.symm⟩
  · exact reached

end

/-! ### Ids -/

section
variable {α : Type} {values : List α} {a : α}

theorem reverse_find?_eq_some {p : α → Bool} :
    values.reverse.find? p = some a ↔
      p a ∧ ∃ before after, values = before ++ a :: after ∧ ∀ w ∈ after, p w = false := by
  rw [List.find?_eq_some_iff_append]
  refine and_congr_right' ⟨?_, ?_⟩
  · rintro ⟨after, before, split, others⟩
    refine ⟨before.reverse, after.reverse, ?_, fun w hw => ?_⟩
    · rw [← List.reverse_reverse values, split]
      simp
    · simpa using others w (List.mem_reverse.mp hw)
  · rintro ⟨before, after, rfl, others⟩
    refine ⟨after.reverse, before.reverse, by simp, fun w hw => ?_⟩
    simp [others w (List.mem_reverse.mp hw)]

variable {id : α → String} {raw : Value}

/-- The value is the last of the list that has its id. -/
def IsLast (values : List α) (id : α → String) (a : α) : Prop :=
  ∃ before after, values = before ++ a :: after ∧ ∀ w ∈ after, id w ≠ id a

theorem IsLast.mem (last : IsLast values id a) : a ∈ values := by
  obtain ⟨before, after, rfl, -⟩ := last
  exact List.mem_append_right before List.mem_cons_self

/-- Every id that is listed is that of a last value. -/
theorem exists_isLast (among : a ∈ values) : ∃ b, IsLast values id b ∧ id b = id a := by
  have found : (values.reverse.find? (id · = id a)).isSome :=
    List.find?_isSome.mpr ⟨a, List.mem_reverse.mpr among, decide_eq_true rfl⟩
  obtain ⟨b, hb⟩ := Option.isSome_iff_exists.mp found
  obtain ⟨same, before, after, split, others⟩ := reverse_find?_eq_some.mp hb
  have same : id b = id a := of_decide_eq_true same
  exact ⟨b, ⟨before, after, split, fun w hw => same ▸ of_decide_eq_false (others w hw)⟩, same⟩

theorem read_mapped_eq_ok {β : Type} {source : FieldType β} {forward : β → Option α} {backward : α → β} :
    (source.mapped forward backward).read raw = .ok a ↔ ∃ b, source.read raw = .ok b ∧ forward b = some a := by
  constructor
  · intro h
    obtain ⟨b, below, h⟩ := eq_ok_of_bind h
    split at h
    · next found =>
      cases h
      exact ⟨b, below, found⟩
    · cases h
  · rintro ⟨b, below, found⟩
    exact read_mapped below found

theorem decode_enumeration_eq_ok :
    (enumeration values id).decode raw = .ok a ↔ raw = .text (id a) ∧ IsLast values id a := by
  have text {s : String} : (fixedString (longest (values.map id))).read raw = .ok s ↔ raw = .text s := by
    rw [← Value.text?_eq_some]
    exact textOf_eq_ok
  simp only [decode_eq_ok, enumeration, read_mapped_eq_ok, text, reverse_find?_eq_some, decide_eq_true_eq,
    decide_eq_false_iff_not]
  constructor
  · rintro ⟨s, rfl, rfl, last⟩
    exact ⟨rfl, last⟩
  · rintro ⟨rfl, last⟩
    exact ⟨_, rfl, rfl, last⟩

theorem exists_decode_enumeration :
    (∃ a, (enumeration values id).decode raw = .ok a) ↔ ∃ v ∈ values, raw = .text (id v) := by
  constructor
  · rintro ⟨a, h⟩
    obtain ⟨text, last⟩ := decode_enumeration_eq_ok.mp h
    exact ⟨a, last.mem, text⟩
  · rintro ⟨v, hv, rfl⟩
    obtain ⟨b, last, same⟩ := exists_isLast hv
    exact ⟨b, decode_enumeration_eq_ok.mpr ⟨congrArg Value.text same.symm, last⟩⟩

/-- The listed values are read back where none stands for another with its id. -/
theorem decode_encode_enumeration :
    (∀ v ∈ values, (enumeration values id).decode ((enumeration values id).encode v) = .ok v) ↔
      ∀ v ∈ values, ∀ w ∈ values, id v = id w → v = w := by
  constructor
  · intro back v hv w hw same
    have encoded : (enumeration values id).encode v = (enumeration values id).encode w := congrArg Value.text same
    have first := back v hv
    rw [encoded, back w hw] at first
    cases first
    rfl
  · intro equal v hv
    -- What is read back is the last value with the id of `v`, and that is `v`.
    obtain ⟨b, last, same⟩ := exists_isLast hv
    have text : (enumeration values id).encode v = .text (id b) := congrArg Value.text same.symm
    rw [decode_enumeration_eq_ok.mpr ⟨text, last⟩, equal b last.mem v hv same]

theorem longest_ids (values : List α) (id : α → String) :
    (∀ v ∈ values, (id v).length ≤ longest (values.map id)) ∧
      ((∀ v ∈ values, id v = "") → longest (values.map id) = 1) ∧
      ((∃ v ∈ values, id v ≠ "") → ∃ v ∈ values, (id v).length = longest (values.map id)) := by
  refine ⟨fun v hv => length_le_longest (List.mem_map_of_mem hv), fun empty => longest_of_empty fun s hs => ?_, ?_⟩
  · obtain ⟨v, hv, rfl⟩ := List.mem_map.mp hs
    exact empty v hv
  · rintro ⟨v, hv, letters⟩
    obtain ⟨s, hs, same⟩ := exists_longest (List.mem_map_of_mem hv) letters
    obtain ⟨w, hw, rfl⟩ := List.mem_map.mp hs
    exact ⟨w, hw, same⟩

/-- An enumeration decodes the text of an id, as the last listed value that has the id, and nothing else. So all listed
    values are read back where those that share an id are equal. The length of its column is that of the longest id, and
    one where no id has a character. -/
theorem decode_enumeration (values : List α) (id : α → String) (short : ∀ v ∈ values, (id v).length < 2 ^ 32) :
    (∀ raw a, (enumeration values id).decode raw = .ok a ↔ raw = .text (id a) ∧
        ∃ before after, values = before ++ a :: after ∧ ∀ w ∈ after, id w ≠ id a) ∧
      (∀ raw, (∃ a, (enumeration values id).decode raw = .ok a) ↔ ∃ v ∈ values, raw = .text (id v)) ∧
      ((∀ v ∈ values, (enumeration values id).decode ((enumeration values id).encode v) = .ok v) ↔
        ∀ v ∈ values, ∀ w ∈ values, id v = id w → v = w) ∧
      ∃ n, (enumeration values id).root = .fixedString n ∧ n < 2 ^ 32 ∧
        (∀ v ∈ values, ∃ s, (enumeration values id).encode v = .text s ∧ s.length ≤ n) ∧
        ((∀ v ∈ values, id v = "") → n = 1) ∧
        ((∃ v ∈ values, id v ≠ "") → ∃ v ∈ values, (id v).length = n) := by
  obtain ⟨room, empty, reached⟩ := longest_ids values id
  have small : longest (values.map id) < 2 ^ 32 := by
    by_cases letters : ∃ v ∈ values, id v ≠ ""
    · obtain ⟨v, hv, same⟩ := reached letters
      exact same ▸ short v hv
    · rw [empty fun v hv => Decidable.not_not.mp fun some => letters ⟨v, hv, some⟩]
      decide
  exact ⟨fun raw a => decode_enumeration_eq_ok, fun raw => exists_decode_enumeration, decode_encode_enumeration,
    longest (values.map id), rfl, small, fun v hv => ⟨id v, rfl, room v hv⟩, empty, reached⟩

/-- The word for an even number. An odd one has none. -/
def parity (n : Nat) : String := if n % 2 = 0 then "even" else ""

/-- Of two even numbers the last is read back. -/
theorem decode_parity :
    (∀ v ∈ [1, 2, 4], (parity v).length < 2 ^ 32) ∧
      (enumeration [1, 2, 4] parity).decode (.text "even") = .ok 4 ∧
      ¬∀ v ∈ [1, 2, 4], (enumeration [1, 2, 4] parity).decode ((enumeration [1, 2, 4] parity).encode v) = .ok v := by
  have short : ∀ v ∈ [1, 2, 4], (parity v).length < 2 ^ 32 := by decide
  refine ⟨short, ((decode_enumeration [1, 2, 4] parity short).1 _ 4).mpr ⟨rfl, [1, 2], [], rfl, nofun⟩, fun back => ?_⟩
  have same : 2 = 4 := (decode_enumeration [1, 2, 4] parity short).2.2.1.mp back 2 (by decide) 4 (by decide) rfl
  exact absurd same (by decide)

end

end FieldType

end TypedTables

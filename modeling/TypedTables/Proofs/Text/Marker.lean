import Mathlib.Data.List.Infix
import TypedTables.Text.Split

/-!
# Where a marker occurs

A text is split at the first occurrence of a marker, wherever the marker is in it (`splitFirst_eq_some_iff`). Markers
can overlap. One that has a character at its two ends and nowhere else overlaps itself in this character only, so a text
with the character in it has the marker on one of the two sides, the character belonging to both
(`infix_append_cons_iff`). -/

namespace TypedTables.Text

variable {marker mark word s t before after : List Char} {c d : Char}

/-! ### The start of a text -/

theorem stripStart?_eq_none_iff {start : List Char} : stripStart? start s = none ↔ ¬start <+: s := by
  constructor
  · rintro none ⟨rest, rfl⟩
    rw [stripStart?_append] at none
    cases none
  · intro other
    cases found : stripStart? start s with
    | none => rfl
    | some rest => exact absurd ⟨rest, (stripStart?_eq_some.mp found).symm⟩ other

/-- A start that ends in a character it has nowhere else ends at the first such character of the text at the latest. -/
theorem prefix_append_cons_iff (plain : c ∉ word) : word ++ [c] <+: s ++ c :: t ↔ word ++ [c] <+: s ++ [c] := by
  constructor
  · rintro ⟨rest, same⟩
    rw [List.append_assoc, List.singleton_append] at same
    rcases List.append_eq_append_iff.mp same with ⟨front, rfl, tail⟩ | ⟨front, rfl, tail⟩
    · -- The text goes on behind the word, at once with the character.
      cases front with
      | nil => rw [List.append_nil]
      | cons e front =>
        obtain ⟨rfl, -⟩ := List.cons.inj tail
        exact ⟨front ++ [c], by simp⟩
    · cases front with
      | nil => rw [List.append_nil]
      | cons e front =>
        obtain ⟨rfl, -⟩ := List.cons.inj tail
        exact absurd (by simp) plain
  · intro start
    rw [List.append_cons s]
    exact start.trans (List.prefix_append _ t)

/-! ### The first occurrence -/

theorem splitFirst_start (start : stripStart? marker s = some after) : splitFirst marker s = some ([], after) := by
  cases s with
  | nil => rw [splitFirst, start, Option.map_some]
  | cons c s => rw [splitFirst, start]

theorem splitFirst_cons (other : ¬marker <+: c :: s) :
    splitFirst marker (c :: s) = (splitFirst marker s).map fun r => (c :: r.1, r.2) := by
  rw [splitFirst, stripStart?_eq_none_iff.mpr other]

theorem splitFirst_eq_none_iff : splitFirst marker s = none ↔ ¬marker <:+: s := by
  induction s with
  | nil => rw [splitFirst, Option.map_eq_none_iff, stripStart?_eq_none_iff, List.prefix_nil, List.infix_nil]
  | cons c s ih =>
    rw [List.infix_cons_iff, not_or]
    by_cases start : marker <+: c :: s
    · obtain ⟨rest, same⟩ := start
      rw [splitFirst_start (stripStart?_eq_some.mpr same.symm)]
      simp [← same]
    · rw [splitFirst_cons start, Option.map_eq_none_iff, ih]
      simp [start]

theorem splitFirst_append (first : ¬mark ++ [d] <:+: before ++ mark) (after : List Char) :
    splitFirst (mark ++ [d]) (before ++ (mark ++ [d] ++ after)) = some (before, after) := by
  induction before with
  | nil => exact splitFirst_start (stripStart?_append _ _)
  | cons c before ih =>
    rw [List.cons_append, List.infix_cons_iff, not_or] at first
    -- A marker that starts the text would be within what stands before this one and all but its last character.
    have other : ¬mark ++ [d] <+: c :: (before ++ (mark ++ [d] ++ after)) := fun start => first.1 <| by
      refine List.prefix_of_prefix_length_le start ⟨d :: after, by simp⟩ ?_
      simp
    rw [List.cons_append, splitFirst_cons other, ih first.2, Option.map_some]

theorem not_infix_of_splitFirst (found : splitFirst (mark ++ [d]) s = some (before, after)) :
    ¬mark ++ [d] <:+: before ++ mark := by
  induction s generalizing before with
  | nil =>
    rw [splitFirst, stripStart?_eq_none_iff.mpr (by simp)] at found
    cases found
  | cons c s ih =>
    by_cases start : mark ++ [d] <+: c :: s
    · obtain ⟨rest, same⟩ := start
      rw [splitFirst_start (stripStart?_eq_some.mpr same.symm)] at found
      cases found
      intro within
      have length := within.length_le
      simp only [List.length_append, List.length_singleton, List.nil_append] at length
      omega
    · have split := splitFirst_eq found
      rw [splitFirst_cons start, Option.map_eq_some_iff] at found
      obtain ⟨r, found, same⟩ := found
      cases same
      rw [List.cons_append, List.infix_cons_iff, not_or]
      refine ⟨fun earlier => start (earlier.trans ?_), ih found⟩
      rw [split]
      exact ⟨d :: r.2, by simp⟩

/-- An occurrence before the first would end before the last character of it. -/
theorem splitFirst_eq_some_iff : splitFirst (mark ++ [d]) s = some (before, after) ↔
    s = before ++ (mark ++ [d] ++ after) ∧ ¬mark ++ [d] <:+: before ++ mark := by
  constructor
  · intro found
    exact ⟨(splitFirst_eq found).trans (List.append_assoc _ _ _), not_infix_of_splitFirst found⟩
  · rintro ⟨rfl, first⟩
    exact splitFirst_append first after

/-! ### Markers in brackets -/

theorem infix_append_cons_iff (plain : c ∉ word) : c :: (word ++ [c]) <:+: s ++ c :: t ↔
    c :: (word ++ [c]) <:+: s ++ [c] ∨ c :: (word ++ [c]) <:+: c :: t := by
  constructor
  · intro within
    induction s with
    | nil => exact Or.inr within
    | cons e s ih =>
      rw [List.cons_append, List.infix_cons_iff] at within ⊢
      rcases within with start | within
      · obtain ⟨rfl, behind⟩ := List.cons_prefix_cons.mp start
        have kept := (prefix_append_cons_iff plain).mp behind
        exact Or.inl (Or.inl (List.cons_prefix_cons.mpr ⟨rfl, kept⟩))
      · exact (ih within).imp_left Or.inr
  · rintro (within | within)
    · rw [List.append_cons s]
      exact within.trans (List.prefix_append _ t).isInfix
    · exact within.trans (List.suffix_append s _).isInfix

/-- The first of the markers in brackets: no other ends where it begins. -/
theorem splitFirst_bracketed_iff (plain : c ∉ word) : splitFirst (c :: (word ++ [c])) s = some (before, after) ↔
    s = before ++ (c :: (word ++ [c]) ++ after) ∧ ¬c :: (word ++ [c]) <:+: before ++ [c] := by
  have short : ¬c :: (word ++ [c]) <:+: c :: word := fun within => by
    have length := within.length_le
    simp only [List.length_cons, List.length_append] at length
    omega
  rw [← List.cons_append, splitFirst_eq_some_iff, List.cons_append, infix_append_cons_iff plain]
  simp only [short, or_false]

/-! ### The last occurrence -/

theorem splitLast_eq_none (hc : c ∈ marker) (hs : c ∉ s) : splitLast marker s = none := by
  cases found : splitLast marker s with
  | none => rfl
  | some parts =>
    obtain ⟨before, after⟩ := parts
    rw [splitLast_eq found] at hs
    exact absurd (List.mem_append_left after (List.mem_append_right before hc)) hs

/-- The last marker is one with no other behind its first character. -/
theorem splitLast_marker (last : splitLast (c :: marker) (marker ++ after) = none) (before : List Char) :
    splitLast (c :: marker) (before ++ (c :: marker ++ after)) = some (before, after) := by
  -- On what stands before: a marker that starts in it is passed over, since there is one behind it.
  induction before with
  | nil =>
    rw [List.nil_append, List.cons_append, splitLast, last, ← List.cons_append, stripStart?_append, Option.map_some]
  | cons d before ih => rw [List.cons_append, splitLast, ih]

end TypedTables.Text

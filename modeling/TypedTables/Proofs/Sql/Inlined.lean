import TypedTables.Proofs.Formula
import TypedTables.Proofs.Sql.Spelling

/-!
# Values written inline

A filter is compiled with its values bound at placeholders or written inline. Both ways fail together, and the one text
is the other with every placeholder replaced by its value (`Filter.compile_agrees`). Where the placeholders of a text
are is read off the text itself: a mark within quotes is none, so a name may hold as many as it likes. -/

namespace TypedTables

namespace Sql

/-! ### Placeholders of a text -/

/-- The characters that open quotes, and the one that is a placeholder outside them. -/
def marks : List Char := ['"', '\'', '?']

/-- The quote that the text behind a character is within, if it is within one. A quote that is written twice closes and
    opens again. -/
def quoteBehind : Option Char → Char → Option Char
  | some quote, c => if c = quote then none else some quote
  | none, c => if c ∈ ['"', '\''] then some c else none

/-- The text with values in the place of its placeholders, from the first to the last. Nothing where there are more
    placeholders than values, or fewer. -/
def substitute (within : Option Char) : List Char → List String → Option (List Char)
  | [], values => if values.isEmpty then some [] else none
  | c :: text, values =>
    if within = none ∧ c = '?' then
      values.head?.bind fun value => (substitute none text values.tail).map (value.toList ++ ·)
    else (substitute (quoteBehind within c) text values).map (c :: ·)

variable {text : List Char} {values : List String}

theorem substitute_hole (value : String) :
    substitute none ('?' :: text) (value :: values) = (substitute none text values).map (value.toList ++ ·) := by
  rw [substitute, if_pos ⟨rfl, rfl⟩]
  rfl

theorem substitute_cons {within : Option Char} {c : Char} (other : within = none → c ≠ '?') :
    substitute within (c :: text) values = (substitute (quoteBehind within c) text values).map (c :: ·) := by
  rw [substitute, if_neg fun ⟨outside, mark⟩ => other outside mark]

/-- Text without quotes and placeholders stays. -/
theorem substitute_plain {s : List Char} (plain : ∀ c ∈ s, c ∉ marks) :
    substitute none (s ++ text) values = (substitute none text values).map (s ++ ·) := by
  induction s with
  | nil => exact (Option.map_id' : _ = _).symm
  | cons c s ih =>
    obtain ⟨noName, noText, noMark⟩ : c ≠ '"' ∧ c ≠ '\'' ∧ c ≠ '?' := by
      simpa [marks] using plain c List.mem_cons_self
    have outside : quoteBehind none c = none := if_neg (by simp [noName, noText])
    rw [List.cons_append, substitute_cons fun _ => noMark, outside, ih fun d hd => plain d (List.mem_cons_of_mem _ hd),
      Option.map_map]
    rfl

/-- A quoted name stays, whatever it holds, up to its closing quote. -/
theorem substitute_double (s : List Char) :
    substitute (some '"') (Text.double '"' s ++ '"' :: text) values =
      (substitute none text values).map (Text.double '"' s ++ '"' :: ·) := by
  have closing : quoteBehind (some '"') '"' = none := rfl
  induction s with
  | nil => exact substitute_cons (by simp)
  | cons c s ih =>
    by_cases hc : c = '"'
    · -- The doubled quote closes and opens again.
      subst hc
      have reopening : quoteBehind none '"' = some '"' := rfl
      rw [Text.double, if_pos rfl, List.cons_append, List.cons_append, substitute_cons (by simp), closing,
        substitute_cons (by simp), reopening, ih, Option.map_map, Option.map_map]
      rfl
    · have inside : quoteBehind (some '"') c = some '"' := if_neg hc
      rw [Text.double, if_neg hc, List.cons_append, substitute_cons (by simp), inside, ih, Option.map_map]
      rfl

theorem substitute_identifier (name : String) :
    substitute none ((Text.identifier name).toList ++ text) values =
      (substitute none text values).map ((Text.identifier name).toList ++ ·) := by
  have opening : quoteBehind none '"' = some '"' := rfl
  rw [Text.identifier, Text.toList_enclose, List.cons_append, List.append_assoc, List.singleton_append,
    substitute_cons (by simp), opening, substitute_double, Option.map_map]
  simp [Function.comp_def]

example : substitute none "(\"a?\" = ? OR \"b\" > ?)".toList ["'?'", "18"] =
    some "(\"a?\" = '?' OR \"b\" > 18)".toList := by decide +kernel

end Sql

/-! ### Fragments -/

/-- A bound value as it is written inline. -/
def Binding.inline (b : Binding) : String := b.root.literal b.value

/-- Fixed text holds neither quotes nor placeholders. -/
def Piece.IsPlain : Piece → Prop
  | .fixed s => ∀ c ∈ s.toList, c ∉ Sql.marks
  | _ => True

theorem Piece.substitute_text {piece : Piece} (plain : piece.IsPlain) (text : List Char) (values : List String) :
    Sql.substitute none (piece.text.toList ++ text) (piece.binding?.toList.map Binding.inline ++ values) =
      (Sql.substitute none text values).map (piece.inline.text.toList ++ ·) := by
  cases piece with
  | fixed s => exact Sql.substitute_plain plain
  | name s => exact Sql.substitute_identifier s
  | hole b =>
    have mark : (Piece.hole b).text.toList = ['?'] := by simp [Piece.text, placeholder]
    rw [mark]
    exact Sql.substitute_hole b.inline

namespace Fragment

def IsPlain (f : Fragment) : Prop := ∀ piece ∈ f, piece.IsPlain

theorem bindings_inline (f : Fragment) : f.inline.bindings = [] := by
  rw [bindings, inline, List.filterMap_map, List.filterMap_eq_nil_iff]
  intro piece _
  cases piece <;> rfl

/-- The text of a fragment holds one placeholder for each of its bindings, in their order. -/
theorem substitute_text {f : Fragment} (plain : f.IsPlain) (rest : List Char) (values : List String) :
    Sql.substitute none (f.text.toList ++ rest) (f.bindings.map Binding.inline ++ values) =
      (Sql.substitute none rest values).map (f.inline.text.toList ++ ·) := by
  -- The values of the piece are in front of those of the fragment behind it.
  induction f with
  | nil => exact (Option.map_id' : _ = _).symm
  | cons piece f ih =>
    have others := ih fun other ho => plain other (List.mem_cons_of_mem _ ho)
    have bound : bindings (piece :: f) = piece.binding?.toList ++ bindings f := by
      cases piece <;> rfl
    have inlined : inline (piece :: f) = piece.inline :: inline f := rfl
    rw [bound, inlined, toList_text_cons, toList_text_cons, List.map_append, List.append_assoc, List.append_assoc,
      (piece.substitute_text (plain piece List.mem_cons_self)), others, Option.map_map]
    simp [Function.comp_def]

theorem isPlain_fixed {s : String} (plain : s.toList.all (· ∉ Sql.marks)) : IsPlain [.fixed s] := by
  intro piece hp
  cases List.mem_singleton.mp hp
  simpa [Piece.IsPlain] using plain

theorem IsPlain.append {f g : Fragment} (hf : IsPlain f) (hg : IsPlain g) : IsPlain (f ++ g) := fun piece hp =>
  (List.mem_append.mp hp).elim (hf piece) (hg piece)

theorem isPlain_column (table : Option String) (label : String) : IsPlain (column table label) := by
  have name : ∀ s, IsPlain [.name s] := fun s piece hp => by
    cases List.mem_singleton.mp hp
    trivial
  cases table with
  | none => exact name label
  | some table => exact ((name table).append (isPlain_fixed (s := ".") (by decide))).append (name label)

theorem IsPlain.joined {separator : String} (plain : IsPlain [.fixed separator]) {parts : List Fragment}
    (each : ∀ part ∈ parts, IsPlain part) : IsPlain (joined separator parts) := fun piece hp =>
  (mem_intercalate hp).elim (plain piece) fun ⟨part, there, found⟩ => each part there piece found

end Fragment

theorem Test.isPlain (table : Option String) (t : Test) : (t.fragment table).IsPlain := by
  have comparator : Fragment.IsPlain [.fixed (" " ++ t.comparator.symbol ++ " ")] :=
    Fragment.isPlain_fixed (by cases t.comparator <;> decide)
  have operand : Fragment.IsPlain [.hole t.operand] := fun piece hp => by
    cases List.mem_singleton.mp hp
    trivial
  exact (Fragment.isPlain_column table t.label).append (comparator.append operand)

namespace Predicate

theorem isPlain_group {word empty : String} (separator : Fragment.IsPlain [.fixed (" " ++ word ++ " ")])
    (meaning : Fragment.IsPlain [.fixed ("(" ++ empty ++ ")")]) {members : List Fragment}
    (each : ∀ member ∈ members, member.IsPlain) : (group word empty members).IsPlain := by
  unfold group
  split
  · exact meaning
  · exact ((Fragment.isPlain_fixed (by decide)).append (separator.joined each)).append
      (Fragment.isPlain_fixed (by decide))

/-- Quotes in a predicate are those of its names, and its placeholders those of its values. -/
theorem isPlain (table : Option String) (p : Predicate) : (fragment table p).IsPlain := by
  have members : ∀ ps : List Predicate, (∀ p ∈ ps, (fragment table p).IsPlain) →
      ∀ member ∈ ps.map (fragment table), member.IsPlain := fun ps ih member hm => by
    obtain ⟨p, hp, rfl⟩ := List.mem_map.mp hm
    exact ih p hp
  induction p using Formula.induction with
  | atom t => exact t.isPlain table
  | all ps ih =>
    rw [fragment, Formula.fold, Formula.foldEach_eq]
    exact isPlain_group (Fragment.isPlain_fixed (by decide)) (Fragment.isPlain_fixed (by decide)) (members ps ih)
  | any ps ih =>
    rw [fragment, Formula.fold, Formula.foldEach_eq]
    exact isPlain_group (Fragment.isPlain_fixed (by decide)) (Fragment.isPlain_fixed (by decide)) (members ps ih)
  | not p ih =>
    exact ((Fragment.isPlain_fixed (by decide)).append ih).append (Fragment.isPlain_fixed (by decide))

end Predicate

/-! ### Filters -/

/-- What a filter is compiled to with its values bound, and what with its values inline. -/
inductive Compiled.Agree : Except Error Compiled → Except Error Compiled → Prop where
  | refused (e : Error) : Agree (.error e) (.error e)
  /-- The values stand where the placeholders were, and nothing is left to bind. -/
  | written {bound : Compiled} {text : String} (values : Sql.substitute none bound.text.toList
      (bound.bindings.map fun b => b.root.literal b.value) = some text.toList) : Agree (.ok bound) (.ok ⟨text, []⟩)

/-- The two ways to compile a filter agree. -/
theorem Filter.compile_agrees (f : Filter) (table : Option String) :
    Compiled.Agree (f.compile table .bound) (f.compile table .inline) := by
  rw [compile, compile]
  cases f.predicate with
  | error e => exact .refused e
  | ok p =>
    have text := Fragment.substitute_text (Predicate.isPlain table p) [] []
    rw [List.append_nil, List.append_nil] at text
    have inlined : Compiled.ofFragment (Mode.inline.apply (Predicate.fragment table p)) =
        ⟨(Predicate.fragment table p).inline.text, []⟩ :=
      congrArg (Compiled.mk _) (Fragment.bindings_inline _)
    show Compiled.Agree (.ok _) (.ok (Compiled.ofFragment (Mode.inline.apply (Predicate.fragment table p))))
    rw [inlined]
    exact .written (text.trans (congrArg some (List.append_nil _)))

end TypedTables

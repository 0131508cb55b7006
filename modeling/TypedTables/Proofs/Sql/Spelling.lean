import Mathlib.Data.List.Forall2
import TypedTables.Proofs.Sql.Lexeme
import TypedTables.Sql.Statement

/-!
# Spelling

A fragment spells some lexemes if its text reads as these before every rest that stands apart from it. A fragment that
closes itself, as one does that ends in a blank or a parenthesis, is a phrase: it reads the same whatever follows.
Fragments are put together from left to right; what follows a fragment that is no phrase has to start with a gap. -/

namespace TypedTables

open Sql (Lexeme lexemes Apart isGap)

/-- A walk over a list pairs its members with what is made of them. -/
theorem forall₂_of_mapM {ε α β : Type} {f : α → Except ε β} {members : List α} {made : List β}
    (h : members.mapM f = .ok made) : List.Forall₂ (fun a b => f a = .ok b) members made := by
  induction members generalizing made with
  | nil =>
    cases h
    exact .nil
  | cons a members ih =>
    rw [List.mapM_cons] at h
    obtain ⟨b, first, h⟩ := eq_ok_of_bind h
    obtain ⟨others, rest, h⟩ := eq_ok_of_bind h
    cases h
    exact .cons first (ih rest)

namespace Fragment

/-! ### The text of a fragment -/

theorem text_append (f g : Fragment) : text (f ++ g) = text f ++ text g := by simp [text]

theorem text_cons (p : Piece) (f : Fragment) : text (p :: f) = p.text ++ text f := by simp [text]

theorem toList_text_append (f g : Fragment) : (text (f ++ g)).toList = (text f).toList ++ (text g).toList := by
  rw [text_append, String.toList_append]

theorem toList_text_cons (p : Piece) (f : Fragment) : (text (p :: f)).toList = p.text.toList ++ (text f).toList := by
  rw [text_cons, String.toList_append]

theorem toList_text_single (p : Piece) : (text [p]).toList = p.text.toList := by
  rw [toList_text_cons]
  exact List.append_nil _

theorem text_joined (separator : String) (parts : List Fragment) :
    text (joined separator parts) = separator.intercalate (parts.map text) := by
  have alone : text [.fixed separator] = separator := by simp [text, Piece.text]
  induction parts with
  | nil => rfl
  | cons part parts ih =>
    cases parts with
    | nil => rw [joined, List.intercalate_singleton, List.map_singleton, String.intercalate_singleton]
    | cons next parts =>
      rw [joined, List.intercalate_cons_cons, text_append, text_append, alone, List.map_cons, List.map_cons,
        String.intercalate_cons_cons]
      exact congrArg _ ih

/-! ### Spelling -/

/-- The fragment reads as the lexemes before every rest that stands apart from it. -/
def Spells (f : Fragment) (ls : List Lexeme) : Prop :=
  ∀ rest, Apart rest → lexemes (f.text.toList ++ rest) = ls ++ lexemes rest

/-- The fragment reads as the lexemes whatever follows. -/
def IsPhrase (f : Fragment) (ls : List Lexeme) : Prop := ∀ rest, lexemes (f.text.toList ++ rest) = ls ++ lexemes rest

/-- The fragment starts with a gap. -/
def Gapped (f : Fragment) : Prop := ∃ c s, f.text.toList = c :: s ∧ isGap c

variable {f g : Fragment} {ls ms : List Lexeme}

theorem Gapped.apart (h : Gapped f) : Apart f.text.toList := by
  obtain ⟨c, s, hs, hc⟩ := h
  rw [hs]
  exact Sql.apart_cons hc s

theorem gapped_fixed {s : String} (h : s.toList.head?.any isGap) (f : Fragment) : Gapped (.fixed s :: f) := by
  rcases hs : s.toList with _ | ⟨c, t⟩
  · rw [hs] at h
    cases h
  · rw [hs] at h
    exact ⟨c, _, by rw [toList_text_cons]; simp only [Piece.text, hs, List.cons_append]; rfl, h⟩

theorem IsPhrase.spells (h : IsPhrase f ls) : Spells f ls := fun rest _ => h rest

theorem Spells.lexemes_eq (h : Spells f ls) : lexemes f.text.toList = ls := by
  have read := h [] Sql.apart_nil
  rwa [List.append_nil, Sql.lexemes_nil, List.append_nil] at read

theorem isPhrase_nil : IsPhrase [] [] := fun _ => rfl

theorem IsPhrase.append (hf : IsPhrase f ls) (hg : IsPhrase g ms) : IsPhrase (f ++ g) (ls ++ ms) := fun rest => by
  rw [toList_text_append, List.append_assoc, hf, hg, List.append_assoc]

theorem IsPhrase.then (hf : IsPhrase f ls) (hg : Spells g ms) : Spells (f ++ g) (ls ++ ms) := fun rest apart => by
  rw [toList_text_append, List.append_assoc, hf, hg rest apart, List.append_assoc]

theorem Spells.append (hf : Spells f ls) (hg : Spells g ms) (apart : Apart g.text.toList) :
    Spells (f ++ g) (ls ++ ms) := fun rest gap => by
  rw [toList_text_append, List.append_assoc, hf _ (apart.append gap), hg rest gap, List.append_assoc]

theorem Spells.then (hf : Spells f ls) (hg : IsPhrase g ms) (gapped : Gapped g) : IsPhrase (f ++ g) (ls ++ ms) :=
  fun rest => by
    obtain ⟨c, s, hs, hc⟩ := gapped
    have apart : Apart (g.text.toList ++ rest) := by
      rw [hs]
      exact Sql.apart_cons hc _
    rw [toList_text_append, List.append_assoc, hf _ apart, hg, List.append_assoc]

/-! ### Pieces -/

theorem spells_name (s : String) : Spells [.name s] [.name s] := fun rest apart => by
  rw [toList_text_single]
  exact Sql.lexemes_name s (apart.head?_ne rfl)

theorem spells_hole (b : Binding) : Spells [.hole b] [.hole] := fun rest apart => by
  have mark : (Piece.hole b).text.toList = ['?'] := by simp [Piece.text, placeholder]
  rw [toList_text_single, mark]
  exact Sql.lexemes_hole apart

theorem spells_word (s : String) (h : Sql.isCapitals s) : Spells [.fixed s] [.word s] :=
  fun rest apart => by
    rw [toList_text_single]
    exact Sql.lexemes_word h apart

theorem isPhrase_blank : IsPhrase [.fixed " "] [] := fun rest => by
  rw [toList_text_single]
  exact Sql.lexemes_blank rest

theorem isPhrase_open : IsPhrase [.fixed "("] [.sign "("] := fun rest => by
  rw [toList_text_single]
  exact Sql.lexemes_open rest

theorem isPhrase_close : IsPhrase [.fixed ")"] [.sign ")"] := fun rest => by
  rw [toList_text_single]
  exact Sql.lexemes_close rest

theorem isPhrase_comma : IsPhrase [.fixed ", "] [.sign ","] := fun rest => by
  rw [toList_text_single]
  exact (Sql.lexemes_comma (' ' :: rest)).trans (congrArg _ (Sql.lexemes_blank rest))

/-- Fixed text in two parts. -/
theorem text_fixed_append (s t : String) : text [.fixed (s ++ t)] = text ([.fixed s] ++ [.fixed t]) := by
  simp [text, Piece.text]

theorem IsPhrase.of_text_eq (h : IsPhrase f ls) (same : text g = text f) : IsPhrase g ls := fun rest => by
  rw [same]
  exact h rest

theorem Spells.of_text_eq (h : Spells f ls) (same : text g = text f) : Spells g ls := fun rest apart => by
  rw [same]
  exact h rest apart

/-- Words in capital letters, each with a blank behind it. -/
theorem isPhrase_words (words : List String) (h : words.all Sql.isCapitals) :
    IsPhrase [.fixed (String.join (words.map (· ++ " ")))] (words.map .word) := by
  induction words with
  | nil => exact isPhrase_nil
  | cons w words ih =>
    rw [List.all_cons, Bool.and_eq_true] at h
    have first := (spells_word w h.1).then isPhrase_blank (gapped_fixed rfl [])
    have others := ih h.2
    exact (first.append others).of_text_eq (by simp [text, Piece.text, String.append_assoc])

theorem isPhrase_words' (words : List String) (h : words.all Sql.isCapitals) :
    IsPhrase [.fixed (" " ++ String.join (words.map (· ++ " ")))] (words.map .word) :=
  (isPhrase_blank.append (isPhrase_words words h)).of_text_eq (text_fixed_append _ _)

/-! ### Lists -/

/-- Parts that are related one by one are related with separators between them, where putting two together keeps the
    relation. -/
theorem intercalate_related {α β : Type} {R : List α → List β → Prop} {x : List α} {y : List β}
    {parts : List (List α)} {others : List (List β)} (h : List.Forall₂ R parts others) (nil : R [] [])
    (next : ∀ {f g f' g'}, R f g → R f' g' → R (f ++ x ++ f') (g ++ y ++ g')) :
    R (x.intercalate parts) (y.intercalate others) := by
  induction h with
  | nil => exact nil
  | @cons f g parts others first rest ih =>
    cases rest with
    | nil =>
      rw [List.intercalate_singleton, List.intercalate_singleton]
      exact first
    | cons _ _ =>
      rw [List.intercalate_cons_cons, List.intercalate_cons_cons]
      exact next first ih

/-- What stands in a list with separators is from a separator or from a part. -/
theorem mem_intercalate {α : Type} {a : α} {separator : List α} {parts : List (List α)}
    (h : a ∈ separator.intercalate parts) : a ∈ separator ∨ ∃ part ∈ parts, a ∈ part := by
  induction parts with
  | nil => cases h
  | cons part parts ih =>
    cases parts with
    | nil => exact Or.inr ⟨part, List.mem_cons_self, by rwa [List.intercalate_singleton] at h⟩
    | cons next parts =>
      rw [List.intercalate_cons_cons, List.mem_append, List.mem_append] at h
      rcases h with (first | between) | others
      · exact Or.inr ⟨part, List.mem_cons_self, first⟩
      · exact Or.inl between
      · exact (ih others).imp_right fun ⟨other, ho, found⟩ => ⟨other, List.mem_cons_of_mem _ ho, found⟩

theorem spells_joined {separator : String} (hs : IsPhrase [.fixed separator] ms)
    (gap : separator.toList.head?.any isGap) {parts : List Fragment} {spelled : List (List Lexeme)}
    (h : List.Forall₂ Spells parts spelled) : Spells (joined separator parts) (ms.intercalate spelled) :=
  intercalate_related h isPhrase_nil.spells fun first rest => (first.then hs (gapped_fixed gap [])).then rest

theorem isPhrase_parens (h : Spells f ls) :
    IsPhrase ([.fixed "("] ++ f ++ [.fixed ")"]) (.sign "(" :: ls ++ [.sign ")"]) :=
  (isPhrase_open.then h).then isPhrase_close (gapped_fixed rfl [])

theorem isPhrase_tuple {parts : List Fragment} {spelled : List (List Lexeme)} (h : List.Forall₂ Spells parts spelled) :
    IsPhrase (tuple parts) (.sign "(" :: [Lexeme.sign ","].intercalate spelled ++ [.sign ")"]) :=
  isPhrase_parens (spells_joined isPhrase_comma rfl h)

theorem forall₂_map {α : Type*} {part : α → Fragment} {spelled : α → List Lexeme} {members : List α}
    (h : ∀ a ∈ members, Spells (part a) (spelled a)) :
    List.Forall₂ Spells (members.map part) (members.map spelled) := by
  rw [List.forall₂_map_left_iff, List.forall₂_map_right_iff, List.forall₂_same]
  exact h

/-! ### Columns -/

theorem spells_column (table : Option String) (label : String) :
    Spells (column table label) (match table with
      | some table => [.name table, .sign ".", .name label]
      | none => [.name label]) := by
  cases table with
  | none => exact spells_name label
  | some table =>
    intro rest apart
    have quoted : (Text.identifier label).toList = '"' :: (Text.double '"' label.toList ++ ['"']) :=
      Text.toList_enclose '"' label
    have text : (column (some table) label).text.toList ++ rest =
        (Text.identifier table).toList ++ ('.' :: ((Text.identifier label).toList ++ rest)) := by
      simp [column, Piece.text, Fragment.text]
    have point : lexemes ('.' :: ((Text.identifier label).toList ++ rest)) =
        .sign "." :: lexemes ((Text.identifier label).toList ++ rest) := by
      rw [quoted]
      exact Sql.lexemes_point _
    rw [text, Sql.lexemes_name table (by simp), point, Sql.lexemes_name label (apart.head?_ne rfl)]
    rfl

end Fragment

end TypedTables

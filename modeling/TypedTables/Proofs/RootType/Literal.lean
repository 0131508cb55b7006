import TypedTables.Index
import TypedTables.Proofs.FieldType
import TypedTables.Proofs.Number.Written

/-!
# The forms of a literal

A constant is written as the word `NULL`, as an integer, as a number with a point or a power of ten, or between single
quotes. No text has two of these forms, and the form of a constant tells its kind. One sort of constant has no form: a
real number that is not finite is NULL in a column of reals, but every other column leaves it as it is, and it becomes a
bare word (`literal_admitted_iff`). -/

namespace TypedTables

open Numeral (IsDigits IsNumeral)

/-- The forms of a literal. -/
inductive LiteralForm where
  | null
  | integer
  | real
  | text
  deriving DecidableEq

/-- The form in which a value is to be written. -/
def Value.form : Value → LiteralForm
  | null => .null
  | integer _ => .integer
  | real _ => .real
  | text _ => .text

namespace LiteralForm

/-- A number, or one with a minus sign in front. -/
def Signed (number : List Char → Prop) (s : List Char) : Prop := number s ∨ ∃ t, number t ∧ s = '-' :: t

/-- A number with a point or a power of ten. -/
def IsBroken (s : List Char) : Prop := IsNumeral s ∧ ¬IsDigits s

/-- Every single quote is written twice. -/
inductive Paired : List Char → Prop where
  | nil : Paired []
  | quote {s : List Char} (rest : Paired s) : Paired ('\'' :: '\'' :: s)
  | other {c : Char} {s : List Char} (plain : c ≠ '\'') (rest : Paired s) : Paired (c :: s)

/-- The text is a literal of the form. -/
def Admits : LiteralForm → List Char → Prop
  | null, s => s = "NULL".toList
  | integer, s => Signed IsDigits s
  | real, s => Signed IsBroken s
  | text, s => ∃ inner, Paired inner ∧ s = '\'' :: (inner ++ ['\''])

/-- What a text is without a minus sign in front. -/
def unsigned : List Char → List Char
  | '-' :: s => s
  | s => s

/-- The text starts with a letter, a sign apart, and is not the word for NULL. -/
def IsBareWord (s : List Char) : Prop := (∃ c t, unsigned s = c :: t ∧ c.isAlpha) ∧ s ≠ "NULL".toList

/-! ### No text has two forms -/

theorem unsigned_numeral {s : List Char} (h : IsNumeral s) : unsigned s = s := by
  obtain ⟨d, t, rfl, digit⟩ := h.eq_cons
  unfold unsigned
  split
  · next same =>
    cases same
    cases digit
  · rfl

variable {number : List Char → Prop} {s : List Char}

theorem Signed.unsigned (h : Signed number s) (numeral : ∀ t, number t → IsNumeral t) :
    number (unsigned s) := by
  rcases h with whole | ⟨t, below, rfl⟩
  · rwa [unsigned_numeral (numeral s whole)]
  · exact below

/-- A number starts with its sign or with a digit. -/
theorem Signed.head (h : Signed number s) (numeral : ∀ t, number t → IsNumeral t) :
    ∃ c t, s = c :: t ∧ (c = '-' ∨ c.isDigit) := by
  rcases h with whole | ⟨t, -, rfl⟩
  · obtain ⟨d, t, rfl, digit⟩ := (numeral s whole).eq_cons
    exact ⟨d, t, rfl, Or.inr digit⟩
  · exact ⟨'-', t, rfl, Or.inl rfl⟩

/-- The form that a text can have, told by its first character and its digits. -/
def ofText (s : List Char) : LiteralForm :=
  if s.head? = some 'N' then null
  else if s.head? = some '\'' then text
  else if IsDigits (unsigned s) then integer
  else real

theorem ofText_of_signed (h : Signed number s) (numeral : ∀ t, number t → IsNumeral t) :
    ofText s = if IsDigits (unsigned s) then integer else real := by
  obtain ⟨c, t, rfl, first⟩ := h.head numeral
  have word : c ≠ 'N' := by
    rintro rfl
    revert first
    decide
  have quote : c ≠ '\'' := by
    rintro rfl
    revert first
    decide
  simp [ofText, word, quote]

theorem Admits.ofText_eq {form : LiteralForm} (h : form.Admits s) : ofText s = form := by
  cases form with
  | null =>
    obtain rfl : s = "NULL".toList := h
    rfl
  | integer =>
    have whole : Signed IsDigits s := h
    rw [ofText_of_signed whole fun _ => IsDigits.isNumeral, if_pos (whole.unsigned fun _ => IsDigits.isNumeral)]
  | real =>
    have broken : Signed IsBroken s := h
    rw [ofText_of_signed broken fun _ => And.left, if_neg (broken.unsigned fun _ => And.left).2]
  | text =>
    obtain ⟨inner, -, rfl⟩ := h
    rfl

theorem isDigit_of_isAlpha {c : Char} (h : c.isAlpha) : c.isDigit = false := by
  have above : 'A'.val ≤ c.val := by
    have letter : (c.isUpper || c.isLower) = true := h
    rcases Bool.or_eq_true_iff.mp letter with upper | lower
    · exact (of_decide_eq_true upper).1
    · have first : decide (c.val ≥ 'a'.val) = true := (Bool.and_eq_true_iff.mp lower).1
      exact UInt32.le_trans (by decide : 'A'.val ≤ 'a'.val) (of_decide_eq_true first)
  simp only [Char.isDigit, Bool.and_eq_false_iff, decide_eq_false_iff_not]
  exact Or.inr fun below => absurd (UInt32.le_trans above below) (by decide)

theorem Signed.not_isBareWord (h : Signed number s) (numeral : ∀ t, number t → IsNumeral t) : ¬IsBareWord s := by
  rintro ⟨⟨c, t, starts, letter⟩, -⟩
  obtain ⟨d, ds, same, digit⟩ := (numeral _ (h.unsigned numeral)).eq_cons
  obtain rfl : c = d := (List.cons.inj (starts.symm.trans same)).1
  rw [isDigit_of_isAlpha letter] at digit
  cases digit

theorem Admits.not_isBareWord {form : LiteralForm} (h : form.Admits s) : ¬IsBareWord s := by
  cases form with
  | null => exact fun bare => bare.2 h
  | integer => exact Signed.not_isBareWord h fun _ => IsDigits.isNumeral
  | real => exact Signed.not_isBareWord h fun _ => And.left
  | text =>
    obtain ⟨inner, -, rfl⟩ := h
    rintro ⟨⟨c, t, starts, letter⟩, -⟩
    cases starts
    cases letter

/-! ### What is written has its form -/

theorem paired_double (s : List Char) : Paired (Text.double '\'' s) := by
  induction s with
  | nil => exact .nil
  | cons c s ih =>
    by_cases quote : c = '\''
    · rw [Text.double, if_pos quote, quote]
      exact .quote ih
    · rw [Text.double, if_neg quote]
      exact .other quote ih

theorem admits_text (s : String) : text.Admits (Text.literal s).toList :=
  ⟨_, paired_double s.toList, Text.toList_enclose '\'' s⟩

theorem signed_append (negative : Prop) [Decidable negative] {digits : String} (h : number digits.toList) :
    Signed number ((if negative then "-" else "") ++ digits).toList := by
  split
  · exact Or.inr ⟨_, h, String.toList_append⟩
  · rw [String.empty_append]
    exact Or.inl h

theorem admits_integer (i : Int) : integer.Admits (toString i).toList := by
  have digits : IsDigits (toString i.natAbs).toList := by
    rw [Numeral.toList_toString]
    exact Numeral.isDigits_toDigits _
  rw [Numeral.toString_int]
  exact signed_append _ digits

end LiteralForm

/-- A decimal has a point or a power of ten, so it is told from an integer. -/
theorem DecimalStyle.exists_mark (style : DecimalStyle) (x : Decimal) :
    ∃ c ∈ (style.layout x).toList, c.isDigit = false := by
  have point : ∀ (digits : List Char) (whole : Int), '.' ∈ pointed digits whole := fun digits whole => by
    unfold pointed
    split <;> simp
  unfold layout
  simp only
  split
  · exact ⟨'.', by rw [String.toList_ofList]; exact point _ _, rfl⟩
  · exact ⟨'e', by simp, rfl⟩

namespace Binary64

theorem not_isDigits_absolute {x : Binary64} (finite : x.isFinite) : ¬IsDigits x.absolute.text.toList := by
  have same : x.absolute.isFinite := (isFinite_absolute x).trans finite
  rw [text_of_isFinite same, isNegative_absolute]
  simp only [Bool.false_eq_true, if_false, String.empty_append]
  rintro ⟨-, digits⟩
  split at digits
  · exact absurd (digits '.' (by decide)) (by decide)
  · obtain ⟨c, among, mark⟩ := inlineStyle.exists_mark (Decimal.shortest Format.double x.absolute.magnitude)
    exact absurd (digits c among) (by simp [mark])

theorem admits_text {x : Binary64} (finite : x.isFinite) : LiteralForm.real.Admits x.text.toList := by
  have broken : LiteralForm.IsBroken x.absolute.text.toList :=
    ⟨isNumeral_absolute finite, not_isDigits_absolute finite⟩
  rw [text_eq finite]
  exact LiteralForm.signed_append _ broken

/-- The words that stand for numbers that are not finite. -/
def words : List String := ["NaN", "inf", "-inf"]

theorem text_mem_words {x : Binary64} (infinite : x.isFinite = false) : x.text ∈ words := by
  unfold text DecimalStyle.text
  cases x.isNaN <;> cases x.isNegative <;> simp [infinite, inlineStyle, words]

theorem isBareWord_of_mem_words {word : String} (h : word ∈ words) : LiteralForm.IsBareWord word.toList := by
  simp only [words, List.mem_cons, List.not_mem_nil, or_false] at h
  rcases h with rfl | rfl | rfl <;> exact ⟨⟨_, _, rfl, rfl⟩, by decide⟩

end Binary64

namespace RootType

variable {root : RootType} {v : Value}

/-- The column leaves the value as it is although it has no literal: it is a real number that is not finite, and the
    column is not one of reals. -/
def LeavesBare (root : RootType) (v : Value) : Prop :=
  ∃ x : Binary64, v = .real x ∧ x.isFinite = false ∧ root.isFloat = false

theorem constant_eq_real {x : Binary64} (h : root.constant v = .real x) :
    x.isFinite ∨ v = .real x ∧ root.isFloat = false := by
  unfold constant at h
  split at h
  · cases h
  split at h
  · next integer =>
    have float : root.isFloat = false := by cases root <;> first | rfl | cases integer
    split at h
    · cases h
    · exact Or.inr ⟨h, float⟩
  split at h
  · split at h
    · split at h
      · next finite =>
        cases h
        exact Or.inl finite
      · cases h
    · cases h
  · next other => exact Or.inr ⟨h, Bool.eq_false_iff.mpr other⟩

theorem constant_of_bare {x : Binary64} (other : root.isFloat = false) (infinite : x.isFinite = false) :
    root.constant (.real x) = .real x := by
  have whole : Value.integer? (.real x) = none := by simp [Value.integer?, Binary64.toInt64?, Binary64.toInt?, infinite]
  simp [constant, Value.isNull, whole, other]

theorem literal_of_bare (bare : root.LeavesBare v) : root.literal v ∈ Binary64.words := by
  obtain ⟨x, rfl, infinite, other⟩ := bare
  rw [literal, constant_of_bare other infinite]
  exact Binary64.text_mem_words infinite

theorem admits_literal (h : ¬root.LeavesBare v) : (root.constant v).form.Admits (root.literal v).toList := by
  rw [literal]
  cases written : root.constant v with
  | null => rfl
  | integer i => exact LiteralForm.admits_integer i.toInt
  | real x =>
    rcases constant_eq_real written with finite | ⟨rfl, other⟩
    · exact Binary64.admits_text finite
    · cases finite : x.isFinite with
      | true => exact Binary64.admits_text finite
      | false => exact absurd ⟨x, rfl, finite, other⟩ h
  | text s => exact LiteralForm.admits_text s

/-- A constant is written in one form of literal, that of its kind, unless it is a real number that is not finite in a
    column of other values. Such a one is written as a bare word, and nothing else is. -/
theorem literal_admitted_iff (root : RootType) (v : Value) :
    ((∃! form : LiteralForm, form.Admits (root.literal v).toList) ↔ ¬root.LeavesBare v) ∧
      (∀ form : LiteralForm, form.Admits (root.literal v).toList → form = (root.constant v).form) ∧
      (LiteralForm.IsBareWord (root.literal v).toList ↔ root.LeavesBare v) ∧
      (root.LeavesBare v → root.literal v ∈ ["NaN", "inf", "-inf"]) := by
  have bareWord (bare : root.LeavesBare v) : LiteralForm.IsBareWord (root.literal v).toList :=
    Binary64.isBareWord_of_mem_words (literal_of_bare bare)
  have only {form : LiteralForm} (h : form.Admits (root.literal v).toList) : form = (root.constant v).form := by
    have kept : ¬root.LeavesBare v := fun bare => h.not_isBareWord (bareWord bare)
    rw [← h.ofText_eq, (admits_literal kept).ofText_eq]
  refine ⟨⟨?_, ?_⟩, fun _ => only, ⟨?_, bareWord⟩, literal_of_bare⟩
  · rintro ⟨form, admitted, -⟩ bare
    exact admitted.not_isBareWord (bareWord bare)
  · exact fun kept => ⟨_, admits_literal kept, fun _ => only⟩
  · intro word
    by_contra kept
    exact (admits_literal kept).not_isBareWord word

/-- An infinite constant has no form in a column of integers. An index writes it where a column may stand. -/
theorem infinite_unadmitted :
    RootType.int.LeavesBare (.real ⟨0x7ff0000000000000⟩) ∧
      (¬∃ form : LiteralForm, form.Admits (RootType.int.literal (.real ⟨0x7ff0000000000000⟩)).toList) ∧
      ((Index.onFilter "far" (.atom ⟨⟨"n", .int⟩, .equal, .real ⟨0x7ff0000000000000⟩⟩)).create "t").map Statement.text =
        .ok "CREATE INDEX \"t:indexes:far\" ON \"t\" (\"n\" = inf)" := by
  have bare : RootType.int.LeavesBare (.real ⟨0x7ff0000000000000⟩) := ⟨_, rfl, by decide, rfl⟩
  refine ⟨bare, ?_, by decide +kernel⟩
  rintro ⟨form, admitted⟩
  exact admitted.not_isBareWord (Binary64.isBareWord_of_mem_words (literal_of_bare bare))

end RootType

end TypedTables

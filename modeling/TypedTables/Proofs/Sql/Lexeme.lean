import Mathlib.Tactic.FinCases
import TypedTables.Proofs.Number.Written
import TypedTables.Sql.Token

/-!
# Lexemes

A lexeme is what a token says: its kind and its content, without how it is written and what follows it. A name or a
text between quotes is one lexeme whatever stands in it, because it ends at the first quote that no second quote
follows. A word, a number or a placeholder ends where something begins that is apart from it: a blank, a comma or a
parenthesis. -/

namespace TypedTables.Sql

open Numeral (IsDigits IsPlaces IsPower IsNumeral)

/-- What a token says. -/
structure Lexeme where
  kind : TokenKind
  content : String
  deriving DecidableEq

namespace Lexeme

@[match_pattern] abbrev word (s : String) : Lexeme := ⟨.word, s⟩
@[match_pattern] abbrev name (s : String) : Lexeme := ⟨.name, s⟩
@[match_pattern] abbrev text (s : String) : Lexeme := ⟨.text, s⟩
@[match_pattern] abbrev number (s : String) : Lexeme := ⟨.number, s⟩
@[match_pattern] abbrev sign (s : String) : Lexeme := ⟨.sign, s⟩
@[match_pattern] abbrev hole : Lexeme := ⟨.hole, ""⟩

end Lexeme

def Token.lexeme (t : Token) : Lexeme := ⟨t.kind, t.content⟩

/-- What the tokens of a text say. -/
def lexemes (s : List Char) : List Lexeme := (tokens s).map Token.lexeme

/-! ### One token after the other -/

theorem lexemes_nil : lexemes [] = [] := by
  rw [lexemes, tokens]
  rfl

theorem lexemes_blank (s : List Char) : lexemes (' ' :: s) = lexemes s := by
  rw [lexemes, tokens]
  rfl

/-- A token that is whole is the first lexeme, and the others are those of what follows it. -/
theorem lexemes_cons {c : Char} {s rest : List Char} {token : Token} (space : isSpace c = false)
    (comment : comment? (c :: s) = none) (next : nextToken c s = (token, rest)) (whole : token.kind ≠ .broken)
    (shorter : rest.length ≤ s.length) : lexemes (c :: s) = token.lexeme :: lexemes rest := by
  have less : rest.length < (c :: s).length := Nat.lt_succ_of_le shorter
  rw [lexemes, tokens, comment, next]
  simp only [space, Bool.false_eq_true, if_false, whole, dif_pos less, List.map_cons]
  rfl

theorem comment?_eq_none {c : Char} {s : List Char} (line : c ≠ '-') (block : c ≠ '/') : comment? (c :: s) = none := by
  unfold comment?
  split
  · next same =>
    cases same
    exact absurd rfl line
  · next same =>
    cases same
    exact absurd rfl block
  · rfl

/-! ### Between quotes -/

theorem quotedToken_double (kind : TokenKind) (quote : Char) (s rest : List Char) (h : rest.head? ≠ some quote) :
    ∃ written, quotedToken kind quote (Text.double quote s ++ quote :: rest) =
      (⟨kind, String.ofList s, written, []⟩, rest) := by
  unfold quotedToken
  rw [Text.readClosed_double quote s rest h]
  exact ⟨_, rfl⟩

theorem lexemes_name (s : String) {rest : List Char} (h : rest.head? ≠ some '"') :
    lexemes ((Text.identifier s).toList ++ rest) = .name s :: lexemes rest := by
  obtain ⟨written, quoted⟩ := quotedToken_double .name '"' s.toList rest h
  rw [String.ofList_toList] at quoted
  have next : nextToken '"' (Text.double '"' s.toList ++ '"' :: rest) = (⟨.name, s, written, []⟩, rest) := quoted
  rw [Text.identifier, Text.toList_enclose, List.cons_append, List.append_assoc, List.singleton_append]
  exact lexemes_cons rfl rfl next (by simp) (by simp; omega)

theorem lexemes_text (s : String) {rest : List Char} (h : rest.head? ≠ some '\'') :
    lexemes ((Text.literal s).toList ++ rest) = .text s :: lexemes rest := by
  obtain ⟨written, quoted⟩ := quotedToken_double .text '\'' s.toList rest h
  rw [String.ofList_toList] at quoted
  have next : nextToken '\'' (Text.double '\'' s.toList ++ '\'' :: rest) = (⟨.text, s, written, []⟩, rest) := quoted
  rw [Text.literal, Text.toList_enclose, List.cons_append, List.append_assoc, List.singleton_append]
  exact lexemes_cons rfl rfl next (by simp) (by simp; omega)

/-! ### Words -/

/-- Characters that a class tells apart are different. -/
theorem ne_of_class (p : Char → Bool) {c d : Char} (hc : p c) (hd : p d = false) : c ≠ d := fun same => by
  rw [same, hd] at hc
  cases hc

/-- A character that can only stand between lexemes. -/
def isGap (c : Char) : Bool := c = ' ' || c = ',' || c = '(' || c = ')'

/-- Nothing, or something that starts with a character between lexemes. -/
def Apart (s : List Char) : Prop := ∀ c, s.head? = some c → isGap c

theorem apart_nil : Apart [] := fun _ h => by cases h

theorem apart_cons {c : Char} (h : isGap c) (s : List Char) : Apart (c :: s) := fun d hd => by
  cases hd
  exact h

theorem Apart.append {s t : List Char} (hs : Apart s) (ht : Apart t) : Apart (s ++ t) := by
  cases s with
  | nil => exact ht
  | cons c s => exact apart_cons (hs c rfl) (s ++ t)

theorem isGap_cases {c : Char} (h : isGap c) : c = ' ' ∨ c = ',' ∨ c = '(' ∨ c = ')' := by
  simpa [isGap, or_assoc] using h

/-- What no character between lexemes is, a text does not go on with where it stands apart. -/
theorem Apart.head?_ne {s : List Char} (h : Apart s) {c : Char} (hc : isGap c = false) : s.head? ≠ some c :=
  fun same => by
    rw [h c same] at hc
    cases hc

theorem Apart.takeWhile {s : List Char} (h : Apart s) {p : Char → Bool} (hp : ∀ c, isGap c → p c = false) :
    s.takeWhile p = [] := by
  cases s with
  | nil => rfl
  | cons c s => rw [List.takeWhile_cons, hp c (h c rfl)]; rfl

theorem Apart.dropWhile {s : List Char} (h : Apart s) {p : Char → Bool} (hp : ∀ c, isGap c → p c = false) :
    s.dropWhile p = s := by
  cases s with
  | nil => rfl
  | cons c s => rw [List.dropWhile_cons, hp c (h c rfl)]; rfl

theorem isWordChar_of_isGap (c : Char) (h : isGap c) : isWordChar c = false := by
  rcases isGap_cases h with rfl | rfl | rfl | rfl <;> rfl

theorem isDigit_of_isGap (c : Char) (h : isGap c) : c.isDigit = false := by
  rcases isGap_cases h with rfl | rfl | rfl | rfl <;> rfl

/-- A word in capital letters. -/
def isCapitals (s : String) : Bool := !s.toList.isEmpty && s.toList.all Char.isUpper

theorem startsWord_of_isUpper {c : Char} (h : c.isUpper) : startsWord c := by
  have alpha : c.isAlpha = (c.isUpper || c.isLower) := rfl
  simp [startsWord, alpha, h]

theorem isWordChar_of_isUpper {c : Char} (h : c.isUpper) : isWordChar c := by
  simp [isWordChar, startsWord_of_isUpper h]

theorem isDigit_of_isUpper {c : Char} (h : c.isUpper) : c.isDigit = false := by
  have range : 'A'.val ≤ c.val ∧ c.val ≤ 'Z'.val := of_decide_eq_true h
  simp only [Char.isDigit, Bool.and_eq_false_iff, decide_eq_false_iff_not]
  refine Or.inr fun low => ?_
  have wrong := UInt32.le_trans range.1 low
  revert wrong
  decide

theorem nextToken_capital {c : Char} (h : c.isUpper) {s : List Char} (bytes : s.head? ≠ some '\'') :
    nextToken c s =
      (⟨.word, String.ofList (c :: s.takeWhile isWordChar), String.ofList (c :: s.takeWhile isWordChar), []⟩,
        s.dropWhile isWordChar) := by
  have ne : ∀ d : Char, d.isUpper = false → c ≠ d := fun _ => ne_of_class Char.isUpper h
  unfold nextToken
  simp [ne '"' rfl, ne '\x60' rfl, ne '\'' rfl, ne '[' rfl, ne '.' rfl, bytes, isDigit_of_isUpper h,
    startsWord_of_isUpper h]

theorem lexemes_word {s : String} (h : isCapitals s) {rest : List Char} (apart : Apart rest) :
    lexemes (s.toList ++ rest) = .word s :: lexemes rest := by
  rw [isCapitals, Bool.and_eq_true, List.all_eq_true] at h
  obtain ⟨nonempty, capitals⟩ := h
  rcases hs : s.toList with _ | ⟨c, cs⟩
  · rw [hs] at nonempty
    cases nonempty
  rw [hs] at capitals
  have upper := capitals c List.mem_cons_self
  have all : ∀ d ∈ cs, isWordChar d := fun d hd => isWordChar_of_isUpper (capitals d (List.mem_cons_of_mem _ hd))
  have bytes : (cs ++ rest).head? ≠ some '\'' := by
    cases cs with
    | nil => exact apart.head?_ne rfl
    | cons d ds =>
      intro same
      have wrong := all d List.mem_cons_self
      cases same
      cases wrong
  have next := nextToken_capital upper bytes
  rw [List.takeWhile_append_of_pos all, List.dropWhile_append_of_pos all, apart.takeWhile isWordChar_of_isGap,
    apart.dropWhile isWordChar_of_isGap, List.append_nil, ← hs, String.ofList_toList] at next
  have ne : ∀ d : Char, d.isUpper = false → c ≠ d := fun _ => ne_of_class Char.isUpper upper
  have space : isSpace c = false := by
    simp [isSpace, ne ' ' rfl, ne '\t' rfl, ne '\n' rfl, ne '\x0c' rfl, ne '\r' rfl, ne '\ufeff' rfl]
  have comment := comment?_eq_none (s := cs ++ rest) (ne '-' rfl) (ne '/' rfl)
  exact lexemes_cons space comment next (by simp) (by simp)

/-! ### Placeholders and signs -/

theorem lexemes_hole {rest : List Char} (apart : Apart rest) : lexemes ('?' :: rest) = .hole :: lexemes rest := by
  have next : nextToken '?' rest = (⟨.hole, "", "?", []⟩, rest) := by
    show holeToken '?' rest = _
    rw [holeToken, if_pos rfl, apart.takeWhile isDigit_of_isGap]
    rfl
  exact lexemes_cons rfl rfl next (by simp) (Nat.le_refl _)

theorem lexemes_sign {c : Char} {s rest : List Char} {sign : String} (space : isSpace c = false)
    (comment : comment? (c :: s) = none) (next : nextToken c s = (⟨.sign, sign, sign, []⟩, rest))
    (shorter : rest.length ≤ s.length) : lexemes (c :: s) = .sign sign :: lexemes rest :=
  lexemes_cons space comment next (by simp) shorter

theorem lexemes_open (rest : List Char) : lexemes ('(' :: rest) = .sign "(" :: lexemes rest :=
  lexemes_sign rfl rfl rfl (Nat.le_refl _)

theorem lexemes_close (rest : List Char) : lexemes (')' :: rest) = .sign ")" :: lexemes rest :=
  lexemes_sign rfl rfl rfl (Nat.le_refl _)

theorem lexemes_comma (rest : List Char) : lexemes (',' :: rest) = .sign "," :: lexemes rest :=
  lexemes_sign rfl rfl rfl (Nat.le_refl _)

/-- A point before a name is no part of a number. -/
theorem lexemes_point (rest : List Char) : lexemes ('.' :: '"' :: rest) = .sign "." :: lexemes ('"' :: rest) :=
  lexemes_sign rfl rfl rfl (Nat.le_refl _)

/-! ### Numbers -/

theorem digitSpan_append {s rest : List Char} (hs : ∀ c ∈ s, c.isDigit)
    (hr : ∀ c, rest.head? = some c → c.isDigit = false ∧ c ≠ '_') : digitSpan (s ++ rest) = s.length := by
  induction s with
  | nil =>
    match rest, hr with
    | [], _ => rfl
    | [c], hr => simp [digitSpan, (hr c rfl).1]
    | c :: d :: rest, hr => simp [digitSpan, (hr c rfl).1, (hr c rfl).2]
  | cons c s ih =>
    have digit := hs c List.mem_cons_self
    have count := ih fun d hd => hs d (List.mem_cons_of_mem _ hd)
    rw [List.cons_append]
    rcases hn : s ++ rest with _ | ⟨d, tail⟩
    · rw [hn] at count
      simp [digitSpan, digit, ← count]
    · rw [hn] at count
      simp [digitSpan, digit, count]

/-- What follows a number is no part of it. -/
def EndsNumber (s : List Char) : Prop := ∀ c, s.head? = some c → c.isDigit = false ∧ c ∉ ['_', '.', 'e', 'E', 'x', 'X']

theorem Apart.endsNumber {s : List Char} (h : Apart s) : EndsNumber s := fun c hc => by
  rcases isGap_cases (h c hc) with rfl | rfl | rfl | rfl <;> decide

theorem placesSpan_append {s rest : List Char} (hs : IsPlaces s)
    (hr : ∀ c, rest.head? = some c → c.isDigit = false ∧ c ≠ '_' ∧ c ≠ '.') : placesSpan (s ++ rest) = s.length := by
  rcases hs with rfl | ⟨digits, ⟨nonempty, digit⟩, rfl⟩
  · unfold placesSpan
    split
    · next same => exact absurd rfl (hr _ (congrArg List.head? same)).2.2
    · rfl
  · obtain ⟨d, ds, rfl⟩ := List.exists_cons_of_ne_nil nonempty
    have count := digitSpan_append digit fun c hc => ⟨(hr c hc).1, (hr c hc).2.1⟩
    have first := digit d List.mem_cons_self
    rw [List.cons_append] at count
    simp [placesSpan, first, count, Nat.add_comm]

theorem exponentSpan_digit {d : Char} (h : d.isDigit) (s : List Char) :
    exponentSpan ('e' :: d :: s) = 1 + digitSpan (d :: s) := by
  have plus : d ≠ '+' := by
    rintro rfl
    cases h
  have minus : d ≠ '-' := by
    rintro rfl
    cases h
  simp [exponentSpan, plus, minus, h]

theorem exponentSpan_append {s rest : List Char} (hs : IsPower s) (hr : EndsNumber rest) :
    exponentSpan (s ++ rest) = s.length := by
  have ends : ∀ c, rest.head? = some c → c.isDigit = false ∧ c ≠ '_' := fun c hc => by
    have := hr c hc
    simp_all
  rcases hs with rfl | ⟨digits, ⟨nonempty, digit⟩, rfl | rfl⟩
  · unfold exponentSpan
    split
    · next same => exact absurd (hr _ (congrArg List.head? same)).2 (by decide)
    · next same => exact absurd (hr _ (congrArg List.head? same)).2 (by decide)
    · rfl
  all_goals
    obtain ⟨d, ds, rfl⟩ := List.exists_cons_of_ne_nil nonempty
    have count := digitSpan_append digit ends
    have first := digit d List.mem_cons_self
    rw [List.cons_append] at count
  · rw [List.cons_append, List.cons_append, exponentSpan_digit first, count]
    exact Nat.add_comm _ _
  · simp only [exponentSpan, List.cons_append, List.drop_succ_cons, List.drop_zero, List.head?_cons, first, if_true,
      count, List.length_cons]
    omega

theorem decimalSpan_append {s rest : List Char} (hs : IsNumeral s) (hr : EndsNumber rest) :
    decimalSpan (s ++ rest) = s.length := by
  obtain ⟨whole, places, power, ⟨-, digit⟩, hp, he, rfl⟩ := hs
  have power_head : ∀ c, (power ++ rest).head? = some c → c.isDigit = false ∧ c ≠ '_' ∧ c ≠ '.' := by
    intro c hc
    rcases he with rfl | ⟨digits, -, rfl | rfl⟩
    · have := hr c hc
      simp_all
    · cases hc
      decide
    · cases hc
      decide
  have places_head : ∀ c, (places ++ (power ++ rest)).head? = some c → c.isDigit = false ∧ c ≠ '_' := by
    intro c hc
    rcases hp with rfl | ⟨digits, -, rfl⟩
    · have := power_head c hc
      exact ⟨this.1, this.2.1⟩
    · cases hc
      decide
  unfold decimalSpan
  simp only [List.append_assoc]
  rw [digitSpan_append digit places_head, List.drop_left, placesSpan_append hp power_head, ← List.drop_drop,
    List.drop_left, List.drop_left, exponentSpan_append he hr]
  simp only [List.length_append]
  omega

theorem numberSpan_append {s rest : List Char} (hs : IsNumeral s) (hr : EndsNumber rest) :
    numberSpan (s ++ rest) = s.length := by
  have span := decimalSpan_append hs hr
  unfold numberSpan
  split
  · next x d tail same =>
    have decimal : ∀ y ∈ ['x', 'X'], x ≠ y := by
      intro y hy
      obtain ⟨c, t, rfl, -⟩ := hs.eq_cons
      rw [List.cons_append] at same
      have second := (List.cons.inj same).2
      cases t with
      | nil =>
        rintro rfl
        have apart := (hr x (congrArg List.head? second)).2
        fin_cases hy <;> exact absurd apart (by decide)
      | cons e t =>
        obtain ⟨rfl, -⟩ := List.cons.inj second
        have member : e ∈ c :: e :: t := List.mem_cons_of_mem _ List.mem_cons_self
        fin_cases hy
        · exact hs.ne_of_mem member rfl (by decide)
        · exact hs.ne_of_mem member rfl (by decide)
    rw [← same]
    simp [decimal 'x' (by simp), decimal 'X' (by simp), span]
  · exact span

theorem nextToken_number {s : List Char} {d : Char} (hs : IsNumeral (d :: s)) {rest : List Char} (apart : Apart rest) :
    nextToken d (s ++ rest) = (⟨.number, String.ofList (d :: s), String.ofList (d :: s), []⟩, rest) := by
  obtain ⟨_, _, same, digit⟩ := hs.eq_cons
  cases same
  have plain : (d :: s).filter (· ≠ '_') = d :: s := by
    rw [List.filter_eq_self]
    intro c hc
    exact decide_eq_true (hs.ne_of_mem hc rfl (by decide))
  have number : numberToken (d :: s ++ rest) =
      (⟨.number, String.ofList (d :: s), String.ofList (d :: s), []⟩, rest) := by
    rw [numberToken, numberSpan_append hs apart.endsNumber, List.take_left, List.drop_left,
      apart.takeWhile isWordChar_of_isGap, plain]
    rfl
  have ne : ∀ c : Char, c.isDigit = false → d ≠ c := fun _ => ne_of_class Char.isDigit digit
  unfold nextToken
  simp only [ne '"' rfl, ne '\x60' rfl, ne '\'' rfl, ne '[' rfl, ne 'x' rfl, ne 'X' rfl, digit,
    decide_false, Bool.or_false, Bool.false_and, Bool.false_eq_true, if_false, Bool.true_or, if_true]
  exact number

theorem lexemes_number {s : List Char} (hs : IsNumeral s) {rest : List Char} (apart : Apart rest) :
    lexemes (s ++ rest) = .number (String.ofList s) :: lexemes rest := by
  obtain ⟨d, t, rfl, digit⟩ := hs.eq_cons
  have ne : ∀ c : Char, c.isDigit = false → d ≠ c := fun _ => ne_of_class Char.isDigit digit
  have space : isSpace d = false := by
    simp [isSpace, ne ' ' rfl, ne '\t' rfl, ne '\n' rfl, ne '\x0c' rfl, ne '\r' rfl, ne '\ufeff' rfl]
  exact lexemes_cons space (comment?_eq_none (ne '-' rfl) (ne '/' rfl)) (nextToken_number hs apart) (by simp)
    (by simp)

/-- The sign of a number is a lexeme of its own. -/
theorem lexemes_minus {s : List Char} (hs : IsNumeral s) (rest : List Char) :
    lexemes ('-' :: (s ++ rest)) = .sign "-" :: lexemes (s ++ rest) := by
  obtain ⟨d, t, rfl, digit⟩ := hs.eq_cons
  have ne : ∀ c : Char, c.isDigit = false → d ≠ c := fun _ => ne_of_class Char.isDigit digit
  have comment : comment? ('-' :: (d :: t ++ rest)) = none := by
    unfold comment?
    split
    · next same =>
      cases same
      cases digit
    · next same => cases same
    · rfl
  have next : nextToken '-' (d :: t ++ rest) = (⟨.sign, "-", "-", []⟩, d :: t ++ rest) := by
    have arrow : doubleSigns.any (·.isPrefixOf ('-' :: d :: (t ++ rest))) = false := by
      simp [doubleSigns, List.isPrefixOf, (ne '>' rfl).symm]
    show (if doubleSigns.any (·.isPrefixOf ('-' :: d :: (t ++ rest))) then _ else _) = _
    rw [arrow]
    rfl
  exact lexemes_sign rfl comment next (Nat.le_refl _)

end TypedTables.Sql

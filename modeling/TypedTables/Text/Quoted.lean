/-!
# Quoted names and literals

A quote character inside a quoted text is written twice, for identifiers (between double quotes) and for text
literals (between single quotes) alike. Every statement writes its names and texts through this module, so any
text, whatever it holds, stays inside its quotes. -/

namespace TypedTables.Text

/-- The characters with each occurrence of the quote written twice. -/
def double (quote : Char) : List Char → List Char
  | [] => []
  | c :: rest => if c = quote then c :: c :: double quote rest else c :: double quote rest

/-- A text prepared to stand between two quotes. -/
def escape (quote : Char) (s : String) : String := String.ofList (double quote s.toList)

/-- A text between two quotes. -/
def enclose (quote : Char) (s : String) : String :=
  String.singleton quote ++ escape quote s ++ String.singleton quote

/-- The name of a table, column or index as a statement writes it. -/
def identifier (name : String) : String := enclose '"' name

/-- A text as a statement writes it inline. -/
def literal (s : String) : String := enclose '\'' s

/-- A column, with its table in front when one is given. -/
def column (table : Option String) (label : String) : String :=
  match table with
  | some table => identifier table ++ "." ++ identifier label
  | none => identifier label

/-! ### Reading quoted text back -/

/-- Reads up to the first quote that no second quote follows; two quotes in a row stand for one. Gives the
    text and what follows the closing quote, or nothing when the text is not closed. -/
def readClosed (quote : Char) : List Char → Option (List Char × List Char)
  | [] => none
  | [c] => if c = quote then some ([], []) else none
  | c :: d :: rest =>
    if c = quote then
      if d = quote then (readClosed quote rest).map fun r => (quote :: r.1, r.2) else some ([], d :: rest)
    else (readClosed quote (d :: rest)).map fun r => (c :: r.1, r.2)

/-- What a quoted text closes with is read back whole, as long as no further quote follows. -/
theorem readClosed_double (quote : Char) (s rest : List Char) (h : rest.head? ≠ some quote) :
    readClosed quote (double quote s ++ quote :: rest) = some (s, rest) := by
  induction s with
  | nil =>
    cases rest with
    | nil => simp [double, readClosed]
    | cons d rest =>
      have hd : d ≠ quote := fun e => h (by simp [e])
      simp [double, readClosed, hd]
  | cons c s ih =>
    by_cases hc : c = quote
    · simp [double, hc, readClosed, ih]
    · rw [show double quote (c :: s) = c :: double quote s by simp [double, hc], List.cons_append]
      cases hs : double quote s ++ quote :: rest with
      | nil => simp at hs
      | cons d tail =>
        rw [hs] at ih
        simp [readClosed, hc, ih]

theorem toList_enclose (quote : Char) (s : String) :
    (enclose quote s).toList = quote :: (double quote s.toList ++ [quote]) := by
  simp [enclose, escape, String.toList_append]

end TypedTables.Text

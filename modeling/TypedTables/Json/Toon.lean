import TypedTables.Json
import TypedTables.Text.Blank
import TypedTables.Text.DecimalDigit
import TypedTables.Text.Split

/-!
# TOON

A line-based form of JSON values that spends few characters. Members are sorted by name and nested by indentation; a
list says its length; a list of records with the same plain members is written as a table under one header. -/

namespace TypedTables.Json.Toon

mutual

/-- The value with the members of every object sorted by name. -/
def sorted : Json → Json
  | .array elements => .array (sortedElements elements)
  | .object members => .object ((sortedMembers members).mergeSort fun a b => a.1 ≤ b.1)
  | value => value

def sortedElements : List Json → List Json
  | [] => []
  | element :: elements => sorted element :: sortedElements elements

def sortedMembers : List (String × Json) → List (String × Json)
  | [] => []
  | (key, value) :: members => (key, sorted value) :: sortedMembers members

end

/-! ### Text -/

/-- Digits and nothing else, at least one. -/
def isDigits (s : List Char) : Bool := !s.isEmpty && s.all Text.isDecimalDigit

/-- The exponent of a number: an optional sign and digits. -/
def isExponent : List Char → Bool
  | '+' :: s => isDigits s
  | '-' :: s => isDigits s
  | s => isDigits s

/-- A number without an exponent. -/
def isDecimal (s : List Char) : Bool :=
  match Text.splitFirst ['.'] s with
  | some (whole, places) => isDigits whole && isDigits places
  | none => isDigits s

/-- What could be read as a number. -/
def isNumeric (s : List Char) : Bool :=
  let unsigned := (Text.stripStart? ['-'] s).getD s
  match Text.splitFirst ['e'] unsigned with
  | some (mantissa, exponent) => isDecimal mantissa && isExponent exponent
  | none => isDecimal unsigned

/-- Characters that a bare text may not contain. -/
def isSign (c : Char) : Bool := c ∈ [':', '"', '\\', '[', ']', '\x7b', '\x7d', ',', '\n', '\r', '\t']

/-- A text that could be taken for something else, and is therefore quoted. -/
def needsQuotes (s : List Char) : Bool :=
  s.isEmpty || Text.isPadded s || s ∈ ["true".toList, "false".toList, "null".toList] || isNumeric s ||
    s.any isSign || ['-', ' '].isPrefixOf s

/-- A character between quotes. -/
def escapeChar : Char → String
  | '\\' => "\\\\"
  | '"' => "\\\""
  | '\n' => "\\n"
  | '\r' => "\\r"
  | '\t' => "\\t"
  | c => String.singleton c

/-- A text, between quotes where it needs them. -/
def text (s : String) : String :=
  if needsQuotes s.toList then "\"" ++ String.join (s.toList.map escapeChar) ++ "\"" else s

/-! ### Lines -/

/-- The text of a value that is neither an array nor an object. -/
def scalar? : Json → Option String
  | .null => some "null"
  | .bool b => some (if b then "true" else "false")
  | .number i => some (toString i)
  | .string s => some (text s)
  | _ => none

/-- The members of an object whose values are all plain, as names and texts. -/
def record? : Json → Option (List (String × String))
  | .object members => members.mapM fun member => (scalar? member.2).map (member.1, ·)
  | _ => none

/-- The names and the rows of records that all have the same names. -/
def table? (elements : List Json) : Option (List String × List (List String)) := do
  let records ← elements.mapM record?
  let names := (records.head?.getD []).map (·.1)
  if records.all fun record => record.map (·.1) = names then some (names, records.map (·.map (·.2))) else none

/-- A line one level in. -/
def indent (line : String) : String := "  " ++ line

/-- The lines of an element behind a dash. -/
def bullet : List String → List String
  | [] => ["-"]
  | line :: lines => ("- " ++ line) :: lines.map indent

/-- The start of a list: its name and its length. -/
def listHead (key : String) (elements : List Json) : String := key ++ "[" ++ toString elements.length ++ "]"

/-- A list of plain values on one line. -/
def plainList (key : String) (elements : List Json) (texts : List String) : String :=
  if texts.isEmpty then listHead key elements ++ ":"
  else listHead key elements ++ ": " ++ ",".intercalate texts

mutual

/-- The lines of a named value. -/
def fieldLines (key : String) : Json → List String
  | .object members => (key ++ ":") :: (memberLines members).map indent
  | .array elements =>
    match elements.mapM scalar?, table? elements with
    | some texts, _ => [plainList key elements texts]
    | none, some (names, rows) =>
      (listHead key elements ++ "\x7b" ++ ",".intercalate names ++ "\x7d:") ::
        rows.map fun row => indent (",".intercalate row)
    | none, none => (listHead key elements ++ ":") :: (elementLines elements).map indent
  | value => [key ++ ": " ++ (scalar? value).getD ""]

/-- The lines of the members of an object. -/
def memberLines : List (String × Json) → List String
  | [] => []
  | (key, value) :: members => fieldLines key value ++ memberLines members

/-- The lines of the elements of a list that is not a table. -/
def elementLines : List Json → List String
  | [] => []
  | element :: elements => bullet (valueLines element) ++ elementLines elements

/-- The lines of a value without a name. -/
def valueLines : Json → List String
  | .object members => memberLines members
  | .array elements =>
    match elements.mapM scalar? with
    | some texts => [plainList "" elements texts]
    | none => (listHead "" elements ++ ":") :: (elementLines elements).map indent
  | value => [(scalar? value).getD ""]

end

end Toon

/-- The value in TOON. -/
def toon (value : Json) : String := "\n".intercalate (Toon.valueLines (Toon.sorted value))

end TypedTables.Json

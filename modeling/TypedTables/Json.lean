import TypedTables.Text.Digits
import TypedTables.Text.Escaped

/-!
# JSON values

The values that listings and configurations are written from. Members of an object keep their order. There are two
written forms: `compact` without any white space, and `pretty` with one member or element a line. -/

namespace TypedTables

/-- A JSON value whose numbers are whole. -/
inductive Json where
  | null
  | bool (b : Bool)
  | number (i : Int)
  | string (s : String)
  | array (elements : List Json)
  | object (members : List (String × Json))
  deriving Inhabited

namespace Json

/-- The value, or null where there is none. -/
def ofOption : Option Json → Json
  | some value => value
  | none => null

/-- A character of a string. Controls and the two characters with a meaning are escaped, all else stands for
    itself. -/
def escapeChar (c : Char) : String :=
  match c with
  | '"' => "\\\""
  | '\\' => "\\\\"
  | '\x08' => "\\b"
  | '\x0c' => "\\f"
  | '\n' => "\\n"
  | '\r' => "\\r"
  | '\t' => "\\t"
  | c =>
    if c.toNat < 0x20 then
      let digits := Text.hexDigits c.toNat
      "\\u" ++ String.ofList (List.replicate (4 - digits.length) '0') ++ digits
    else String.singleton c

/-- A string between quotes. -/
def quoted (s : String) : String := "\"" ++ String.join (s.toList.map escapeChar) ++ "\""

mutual

/-- The written form without white space. -/
def compact : Json → String
  | null => "null"
  | bool b => if b then "true" else "false"
  | number i => toString i
  | string s => quoted s
  | array elements => "[" ++ ",".intercalate (compactElements elements) ++ "]"
  | object members => "\x7b" ++ ",".intercalate (compactMembers members) ++ "\x7d"

def compactElements : List Json → List String
  | [] => []
  | element :: elements => element.compact :: compactElements elements

def compactMembers : List (String × Json) → List String
  | [] => []
  | (key, value) :: members => (quoted key ++ ":" ++ value.compact) :: compactMembers members

end

/-- Parts between an opening and a closing sign, each on a line of its own one level in. -/
def block (indent opening closing : String) (parts : List String) : String :=
  if parts.isEmpty then opening ++ closing
  else
    opening ++ "\n" ++ ",\n".intercalate (parts.map ((indent ++ "  ") ++ ·)) ++ "\n" ++ indent ++ closing

mutual

/-- The written form with two spaces a level, where the value stands at the given indentation. -/
def prettyAt (indent : String) : Json → String
  | null => "null"
  | bool b => if b then "true" else "false"
  | number i => toString i
  | string s => quoted s
  | array elements => block indent "[" "]" (prettyElements (indent ++ "  ") elements)
  | object members => block indent "\x7b" "\x7d" (prettyMembers (indent ++ "  ") members)

def prettyElements (indent : String) : List Json → List String
  | [] => []
  | element :: elements => element.prettyAt indent :: prettyElements indent elements

def prettyMembers (indent : String) : List (String × Json) → List String
  | [] => []
  | (key, value) :: members => (quoted key ++ ": " ++ value.prettyAt indent) :: prettyMembers indent members

end

/-- The written form with two spaces a level. -/
def pretty (value : Json) : String := value.prettyAt ""

end Json

end TypedTables

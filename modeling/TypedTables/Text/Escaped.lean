import TypedTables.Text.Hidden

/-!
# Text shown between quotes

The one-line form of a text: between double quotes, with the quote and the backslash escaped, the common controls
as letters, and every other character without a visible form as `\u` and its number in braces. -/

namespace TypedTables.Text

/-- The hexadecimal digits of a number, lower case, without leading zeros. -/
def hexDigits (n : Nat) : String := String.ofList (Nat.toDigits 16 n)

/-- How one character is shown. -/
def showChar (c : Char) : String :=
  match c with
  | '"' => "\\\""
  | '\\' => "\\\\"
  | '\n' => "\\n"
  | '\r' => "\\r"
  | '\t' => "\\t"
  | '\x00' => "\\0"
  | c => if isHidden c then "\\u\x7b" ++ hexDigits c.toNat ++ "\x7d" else String.singleton c

/-- A text as it is shown between quotes. -/
def shown (s : String) : String := "\"" ++ String.join (s.toList.map showChar) ++ "\""

example : showChar '\'' = "'" ∧ showChar '\x07' = "\\u\x7b7\x7d" := by decide +kernel

end TypedTables.Text

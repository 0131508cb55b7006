import TypedTables.Text.Escaped

/-!
# Outlines

The one-line structural form in which declarations and values appear in messages: a name with its parts in
parentheses, a name with labelled parts in braces, or a list in brackets. -/

namespace TypedTables.Text

/-- Parts in brackets. -/
def listOutline (parts : List String) : String := "[" ++ ", ".intercalate parts ++ "]"

/-- A name with one part in parentheses. -/
def wrapOutline (name part : String) : String := name ++ "(" ++ part ++ ")"

/-- A name with labelled parts in braces. -/
def recordOutline (name : String) (parts : List (String × String)) : String :=
  name ++ " \x7b " ++ ", ".intercalate (parts.map fun p => p.1 ++ ": " ++ p.2) ++ " \x7d"

end TypedTables.Text

import TypedTables.Text.Quoted

/-!
# Tokens

The text of a statement as a store takes it apart: words, names and texts between quotes, numbers and signs, with blanks
and comments between them. The text ends at its first NUL. What is begun and not ended, like a name without its closing
quote, is a broken token, and nothing is read behind it. -/

namespace TypedTables.Sql

inductive TokenKind where
  /-- A keyword or a name without quotes. -/
  | word
  | name
  | text
  | number
  /-- A list of bytes. -/
  | bytes
  /-- A place for a value. -/
  | hole
  | sign
  | broken
  deriving DecidableEq

/-- A token: what it stands for, how it is written, and what follows it. -/
structure Token where
  kind : TokenKind
  content : String
  written : String
  follows : List Char := []
  deriving DecidableEq

/-- Why a text is no statement. -/
inductive Fault where
  | brokenToken (written : String)
  /-- A token where another one has to be. -/
  | unexpected (written : String)
  /-- The text ends too early. -/
  | incomplete
  | noCollation (name : String)
  deriving DecidableEq

/-- The wording of a fault. -/
def Fault.message : Fault → String
  | brokenToken written => "unrecognized token: \"" ++ written ++ "\""
  | unexpected written => "near \"" ++ written ++ "\": syntax error"
  | incomplete => "incomplete input"
  | noCollation name => "no such collation sequence: " ++ name

namespace Token

/-- What is wrong with a token that stands in the place of another. -/
def fault (t : Token) : Fault := if t.kind = .broken then .brokenToken t.written else .unexpected t.written

/-- A word in capital letters; nothing for other tokens. -/
def keyword (t : Token) : String :=
  if t.kind = .word then String.ofList (t.content.toList.map Char.toUpper) else ""

/-- The token is a certain sign. -/
def isSign (t : Token) (written : String) : Bool := t.kind = .sign && t.written = written

/-- Words that are not names. -/
def reservedWords : List String :=
  ["ADD", "ALL", "ALTER", "AND", "AS", "AUTOINCREMENT", "BETWEEN", "CASE", "CHECK", "COLLATE", "COMMIT", "CONSTRAINT",
    "CREATE", "CROSS", "DEFAULT", "DEFERRABLE", "DELETE", "DISTINCT", "DROP", "ELSE", "ESCAPE", "EXCEPT", "EXISTS",
    "FOREIGN", "FROM", "FULL", "GROUP", "HAVING", "IN", "INDEX", "INDEXED", "INNER", "INSERT", "INTERSECT", "INTO", "IS",
    "ISNULL", "JOIN", "LEFT", "LIMIT", "NATURAL", "NOT", "NOTHING", "NOTNULL", "NULL", "ON", "OR", "ORDER", "OUTER",
    "PRIMARY", "REFERENCES", "RETURNING", "RIGHT", "SELECT", "SET", "TABLE", "THEN", "TO", "TRANSACTION", "UNION",
    "UNIQUE", "UPDATE", "USING", "VALUES", "WHEN", "WHERE"]

/-- The token can be a name, and it is not a text. -/
def isBareName (t : Token) : Bool := t.kind = .name || (t.kind = .word && t.keyword ∉ reservedWords)

/-- The token can be a name. -/
def isName (t : Token) : Bool := t.isBareName || t.kind = .text

end Token

/-! ### Readers -/

/-- A reader of tokens: what it reads and the tokens that it leaves. -/
abbrev Reader (α : Type) := List Token → Except Fault (α × List Token)

/-- The fault of a place where something else is expected. -/
def faultAt : List Token → Fault
  | [] => .incomplete
  | t :: _ => t.fault

/-- Reads one token that passes a test. -/
def Reader.token (test : Token → Bool) : Reader Token
  | t :: ts => if test t then .ok (t, ts) else .error t.fault
  | [] => .error .incomplete

/-- Reads a certain sign. -/
def Reader.sign (written : String) : Reader Token := Reader.token (·.isSign written)

/-- Reads a certain word. -/
def Reader.word (keyword : String) : Reader Token := Reader.token (·.keyword = keyword)

/-- The next token is a certain word. -/
def startsWith (keyword : String) (ts : List Token) : Bool := ts.head?.any (·.keyword = keyword)

/-! ### Characters -/

/-- White space between tokens. -/
def isSpace (c : Char) : Bool := c = ' ' || c = '\t' || c = '\n' || c = '\x0c' || c = '\r' || c = '\ufeff'

/-- The first character of a word: a letter, an underscore, or anything beyond ASCII. -/
def startsWord (c : Char) : Bool := c.isAlpha || c = '_' || 0x80 ≤ c.toNat

/-- A character of a word. -/
def isWordChar (c : Char) : Bool := startsWord c || c.isDigit || c = '$'

/-- The signs of two characters. -/
def doubleSigns : List (List Char) := ["||", "==", "<=", "<>", "<<", ">=", ">>", "!=", "->"].map String.toList

/-- The signs of one character. -/
def singleSigns : List Char := "();+-*/%=<>|,&~.".toList

/-- What a place for a value starts with. -/
def holeMarks : List Char := "?$@:#".toList

/-! ### Numbers -/

/-- Digits at the start of a text, an underscore being allowed between two of them. Gives their count with the
    underscores. -/
def digitSpan : List Char → Nat
  | [] => 0
  | [c] => if c.isDigit then 1 else 0
  | c :: d :: s =>
    if c.isDigit then digitSpan (d :: s) + 1
    else if c = '_' && d.isDigit then digitSpan (d :: s) + 1
    else 0

/-- The length of the exponent at the start of a text. An `e` without digits is none. -/
def exponentSpan : List Char → Nat
  | 'e' :: s | 'E' :: s =>
    let sign := match s with
      | '+' :: _ | '-' :: _ => 1
      | _ => 0
    match (s.drop sign).head? with
    | some d => if d.isDigit then 1 + sign + digitSpan (s.drop sign) else 0
    | none => 0
  | _ => 0

/-- The length of the places behind a point, the point included. -/
def placesSpan : List Char → Nat
  | '.' :: s =>
    match s.head? with
    | some d => if d.isDigit then 1 + digitSpan s else 1
    | none => 1
  | _ => 0

/-- The digit of a number to the base sixteen. -/
def isHexDigit (c : Char) : Bool := c.isDigit || ('a' ≤ c && c ≤ 'f') || ('A' ≤ c && c ≤ 'F')

/-- The length of the decimal number at the start of a text. -/
def decimalSpan (s : List Char) : Nat :=
  let whole := digitSpan s
  let places := placesSpan (s.drop whole)
  whole + places + exponentSpan (s.drop (whole + places))

/-- Digits to the base sixteen at the start of a text, an underscore being allowed between two of them. -/
def hexSpan : List Char → Nat
  | [] => 0
  | [c] => if isHexDigit c then 1 else 0
  | c :: d :: s => if isHexDigit c || (c = '_' && isHexDigit d) then hexSpan (d :: s) + 1 else 0

/-- The length of the number at the start of a text that starts with a digit or a point. -/
def numberSpan : List Char → Nat
  | '0' :: x :: d :: s =>
    if (x = 'x' || x = 'X') && isHexDigit d then 2 + hexSpan (d :: s) else decimalSpan ('0' :: x :: d :: s)
  | s => decimalSpan s

/-- The token of a number and what follows. A word may not follow at once. -/
def numberToken (s : List Char) : Token × List Char :=
  let span := numberSpan s
  let number := s.take span
  let rest := s.drop span
  let more := rest.takeWhile isWordChar
  let text := String.ofList (number.filter (· ≠ '_'))
  if more.isEmpty then (⟨.number, text, String.ofList number, []⟩, rest)
  else (⟨.broken, "", String.ofList (number ++ more), []⟩, rest.dropWhile isWordChar)

/-! ### Tokens -/

/-- The token of a text between quotes, the opening quote being read already, and what follows. -/
def quotedToken (kind : TokenKind) (quote : Char) (s : List Char) : Token × List Char :=
  match Text.readClosed quote s with
  | some (content, rest) =>
    (⟨kind, String.ofList content, String.ofList (quote :: s.take (s.length - rest.length)), []⟩, rest)
  | none => (⟨.broken, "", String.ofList (quote :: s), []⟩, [])

/-- The token of a name between brackets, the opening bracket being read already, and what follows. -/
def bracketToken (s : List Char) : Token × List Char :=
  let content := s.takeWhile (· ≠ ']')
  match s.dropWhile (· ≠ ']') with
  | _ :: rest => (⟨.name, String.ofList content, String.ofList ('[' :: content ++ [']']), []⟩, rest)
  | [] => (⟨.broken, "", String.ofList ('[' :: s), []⟩, [])

/-- The token of a list of bytes, the letter and the opening quote being read already, and what follows. Every byte has
    two digits. -/
def bytesToken (letter : Char) (s : List Char) : Token × List Char :=
  let digits := s.takeWhile isHexDigit
  let content := s.takeWhile (· ≠ '\'')
  let rest := s.dropWhile (· ≠ '\'')
  let written := letter :: '\'' :: content ++ rest.take 1
  if digits.length = content.length && digits.length % 2 = 0 && !rest.isEmpty then
    (⟨.bytes, String.ofList content, String.ofList written, []⟩, rest.drop 1)
  else (⟨.broken, "", String.ofList written, []⟩, rest.drop 1)

/-- The token of a place for a value and what follows. -/
def holeToken (mark : Char) (s : List Char) : Token × List Char :=
  let name := s.takeWhile (if mark = '?' then Char.isDigit else isWordChar)
  let kind := if mark ≠ '?' && name.isEmpty then TokenKind.broken else .hole
  (⟨kind, String.ofList name, String.ofList (mark :: name), []⟩, s.drop name.length)

/-- The token at the start of a text that does not start with white space, and what follows. -/
def nextToken (c : Char) (s : List Char) : Token × List Char :=
  if c = '"' || c = '\x60' then quotedToken .name c s
  else if c = '\'' then quotedToken .text c s
  else if c = '[' then bracketToken s
  else if (c = 'x' || c = 'X') && s.head? = some '\'' then bytesToken c (s.drop 1)
  else if c.isDigit || (c = '.' && (s.head?.any Char.isDigit)) then numberToken (c :: s)
  else if startsWord c then
    let word := String.ofList (c :: s.takeWhile isWordChar)
    (⟨.word, word, word, []⟩, s.dropWhile isWordChar)
  else if c ∈ holeMarks then holeToken c s
  else if doubleSigns.any (·.isPrefixOf (c :: s)) then
    let sign := String.ofList (c :: s.take 1)
    (⟨.sign, sign, sign, []⟩, s.drop 1)
  else if c ∈ singleSigns then (⟨.sign, String.singleton c, String.singleton c, []⟩, s)
  else (⟨.broken, "", String.singleton c, []⟩, s)

/-- What follows the first end mark of a comment. -/
def afterComment : List Char → List Char
  | '*' :: '/' :: s => s
  | _ :: s => afterComment s
  | [] => []

/-- What follows a comment at the start of a text, if there is one: up to the end of the line, or between two marks. -/
def comment? : List Char → Option (List Char)
  | '-' :: '-' :: s => some (s.dropWhile (· ≠ '\n'))
  | '/' :: '*' :: c :: s => some (afterComment (c :: s))
  | _ => none

/-- The tokens of a text, up to the first that is broken. No token and no comment leaves more than it was given, which
    the branches check. -/
def tokens (s : List Char) : List Token :=
  match s with
  | [] => []
  | c :: rest =>
    if isSpace c then tokens rest
    else
      match comment? (c :: rest) with
      | some after => if _h : after.length < (c :: rest).length then tokens after else []
      | none =>
        let (token, after) := nextToken c rest
        let token := { token with follows := after }
        if token.kind = .broken then [token]
        else if _h : after.length < (c :: rest).length then token :: tokens after
        else [token]
termination_by s.length
decreasing_by
  · exact Nat.lt_succ_self rest.length
  · exact _h
  · exact _h

/-- The tokens of the text of a statement, which ends at its first NUL. -/
def tokensOf (text : String) : List Token := tokens (text.toList.takeWhile (· ≠ '\x00'))

/-- What a NUL makes of a text: a token that it breaks, or a text that ends too early. -/
def fault? (text : String) : Option Fault :=
  if '\x00' ∈ text.toList then
    match (tokensOf text).find? (·.kind = .broken) with
    | some token => some token.fault
    | none => some .incomplete
  else none

end TypedTables.Sql

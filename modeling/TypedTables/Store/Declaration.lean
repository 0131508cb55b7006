import TypedTables.Store.Evaluation
import TypedTables.Store.Limit

/-!
# Declarations of tables

What a store takes from the declaration of a table: for each column its name, its affinity, what it refuses and its
default; for the table the key of its rows, the columns that may not repeat a value together, and the conditions on its
rows. The text of the declaration is read as a list of tokens from left to right, and what is wrong with it is found in
that order; what the conditions mention is looked at last. -/

namespace TypedTables

open Sql (Token Fault Reader)

/-- A column of a stored table. -/
structure StoredColumn where
  name : String
  /-- The declared type. -/
  type : String
  collation : Collation := .strict
  notNull : Bool := false
  /-- The column is the key of the rows. -/
  isRowKey : Bool := false
  /-- The value of a row that gives none. -/
  default : Value := .null
  deriving DecidableEq

/-- The form of value that a column prefers. -/
def StoredColumn.affinity (c : StoredColumn) : Affinity := Affinity.ofDeclaration c.type

/-- What a table is declared as. -/
structure TableLayout where
  columns : List StoredColumn := []
  /-- The groups of columns whose values no two rows share. -/
  groups : List (List String) := []
  /-- A primary key is declared. -/
  hasPrimaryKey : Bool := false
  /-- A key that was given once is not given again. -/
  isAutomatic : Bool := false
  /-- What holds of every row, with the label of each condition. -/
  conditions : List (String × Expression) := []
  /-- The text of the declaration behind the table's name. -/
  text : String := ""

/-- What is wrong with the declaration of a table. -/
inductive Flaw where
  | fault (f : Fault)
  | tooManyColumns
  | repeatedColumn (name : String)
  | severalKeys
  /-- Automatic keys are asked for where the primary key is no key of rows. -/
  | notAutomatic
  /-- The default of a column is not constant. -/
  | notConstant (column : String)
  | noColumn (name : String)
  | noFunction (name : String)
  /-- A condition has a place for a value. -/
  | holeInCondition
  deriving DecidableEq

/-- The wording of a flaw in the declaration of a table. -/
def Flaw.message (table : String) : Flaw → String
  | fault f => f.message
  | tooManyColumns => "too many columns on " ++ table
  | repeatedColumn name => "duplicate column name: " ++ name
  | severalKeys => "table " ++ Text.identifier table ++ " has more than one primary key"
  | notAutomatic => "AUTOINCREMENT is only allowed on an INTEGER PRIMARY KEY"
  | notConstant column => "default value of column [" ++ column ++ "] is not constant"
  | noColumn name => "no such column: " ++ name
  | noFunction name => "no such function: " ++ name
  | holeInCondition => "parameters prohibited in CHECK constraints"

/-! ### Names of columns -/

/-- Two names of one column. Letters of ASCII in either case are the same. -/
def sameName (a b : String) : Bool := Collation.anyCase.key a = Collation.anyCase.key b

/-- The names of the key of a row. -/
def keyNames : List String := ["rowid", "_rowid_", "oid"]

namespace TableLayout

/-- The column of a name. -/
def column? (l : TableLayout) (name : String) : Option StoredColumn := l.columns.find? (sameName ·.name name)

/-- The table with the column of a name changed. -/
def change (l : TableLayout) (name : String) (f : StoredColumn → StoredColumn) : TableLayout :=
  { l with columns := l.columns.map fun c => if sameName c.name name then f c else c }

/-- The column is declared as one of integers. -/
def isIntegerColumn (l : TableLayout) (name : String) : Bool :=
  (l.column? name).any fun c => c.type.map Char.toUpper = "INTEGER"

/-- The table with a further group of columns whose values may not repeat, unless there is such a group already. -/
def withGroup (l : TableLayout) (names : List String) : TableLayout :=
  if l.groups.any fun group => group.map Collation.anyCase.key = names.map Collation.anyCase.key then l
  else { l with groups := l.groups ++ [names] }

/-- The table with a primary key. One column of integers is the key of the rows, unless it is in descending order. -/
def withPrimaryKey (l : TableLayout) (names : List String) (isDescending isAutomatic : Bool) : Except Flaw TableLayout :=
  let isRowKey := names.length = 1 && names.all l.isIntegerColumn && !isDescending
  if l.hasPrimaryKey then .error .severalKeys
  else if isRowKey then
    let keyed := names.foldl (fun l name => l.change name fun c => { c with isRowKey := true }) l
    .ok { keyed with hasPrimaryKey := true, isAutomatic := isAutomatic }
  else if isAutomatic then .error .notAutomatic
  else .ok { l.withGroup names with hasPrimaryKey := true }

/-- The table with a further column. -/
def withColumn (l : TableLayout) (name type : String) : Except Flaw TableLayout :=
  if columnLimit ≤ l.columns.length then .error .tooManyColumns
  else if (l.column? name).isSome then .error (.repeatedColumn name)
  else .ok { l with columns := l.columns ++ [{ name := name, type := type }] }

/-- What a condition mentions and the table does not have. -/
def flaw? (l : TableLayout) : Expression.Mention → Option Flaw
  | .column name isQuoted =>
    if isQuoted || (l.column? name).isSome || keyNames.any (sameName · name) then none else some (.noColumn name)
  | .function name => if name.map Char.toLower ∈ Expression.functionNames then none else some (.noFunction name)
  | .hole => some .holeInCondition

end TableLayout

/-! ### Reading -/

namespace Declaration

/-- A reader of a part of a declaration. -/
abbrev Part (α : Type) := List Token → Except Flaw (α × List Token)

/-- A reader that can only meet faults of the text, as a reader of a part. -/
def part {α : Type} (reader : Reader α) : Part α := fun ts => (reader ts).mapError .fault

/-- What stands at the start is not what is expected. -/
def refuse {α : Type} (ts : List Token) : Except Flaw α := .error (.fault (Sql.faultAt ts))

/-- The tokens behind a certain word, if it is there. -/
def without (keyword : String) (ts : List Token) : List Token := if Sql.startsWith keyword ts then ts.drop 1 else ts

/-- Any name. -/
def name : Part String := fun ts => (part (Reader.token Token.isName) ts).map fun (t, ts) => (t.content, ts)

/-- A certain sign. -/
def sign (written : String) : Part Token := part (Reader.sign written)

/-- A certain word. -/
def word (keyword : String) : Part Token := part (Reader.word keyword)

/-- Parts between commas, at least one and at most `count`, up to a closing parenthesis. -/
def listed {α : Type} (item : Part α) : Nat → Part (List α)
  | 0, ts => refuse ts
  | count + 1, ts => do
    let (first, ts) ← item ts
    if ts.head?.any (·.isSign ",") then
      let (rest, ts) ← listed item count (ts.drop 1)
      pure (first :: rest, ts)
    else
      let (_, ts) ← sign ")" ts
      pure ([first], ts)

/-- Parts in parentheses. -/
def group {α : Type} (item : Part α) : Part (List α) := fun ts => do
  let (_, ts) ← sign "(" ts
  listed item ts.length ts

/-- A signed number as it is written. -/
def signedNumber : Part String := fun ts => do
  let isSigned := ts.head?.any fun t => t.isSign "-" || t.isSign "+"
  let (n, rest) ← part (Reader.token (·.kind = .number)) (if isSigned then ts.drop 1 else ts)
  pure ((if isSigned then (ts.head?.map Token.written).getD "" else "") ++ n.written, rest)

/-- The sizes behind the words of a type, one or two numbers in parentheses, or nothing. -/
def sizes : Part String := fun ts => do
  if !ts.head?.any (·.isSign "(") then pure ("", ts)
  else
    let (first, ts) ← signedNumber (ts.drop 1)
    let (second, ts) ←
      if ts.head?.any (·.isSign ",") then (signedNumber (ts.drop 1)).map fun (n, ts) => ("," ++ n, ts) else pure ("", ts)
    let (_, ts) ← sign ")" ts
    pure ("(" ++ first ++ second ++ ")", ts)

/-- The type at the start of a declaration, if there is one: words, and sizes behind them. -/
def type : Part String := fun ts => do
  let words := " ".intercalate ((ts.takeWhile Token.isName).map Token.written)
  let rest := ts.dropWhile Token.isName
  if words = "" then pure ("", rest)
  else
    let (sizes, rest) ← sizes rest
    pure (words ++ sizes, rest)

/-! ### Clauses -/

/-- What is to happen when a clause is broken, which is said with two words and a name. -/
def onConflict : Part Unit := fun ts => do
  if Sql.startsWith "ON" ts then
    let (_, ts) ← word "CONFLICT" (ts.drop 1)
    let (_, ts) ← name ts
    pure ((), ts)
  else pure ((), ts)

/-- An order, descending or not. -/
def descending : Part Bool := fun ts => pure (Sql.startsWith "DESC" ts, without "DESC" (without "ASC" ts))

/-- A condition in parentheses, and its label: the name before it, or else its text. -/
def condition (label : Option String) : Part (String × Expression) := fun ts => do
  let start := (ts.head?.map Token.follows).getD []
  let (_, ts) ← sign "(" ts
  let (e, ts) ← part Expression.read ts
  let (close, ts) ← sign ")" ts
  let text := start.take (start.length - close.follows.length - 1)
  let isBlank (c : Char) : Bool := Affinity.isSpace c
  let trimmed := ((text.dropWhile isBlank).reverse.dropWhile isBlank).reverse
  pure ((label.getD (unquoted trimmed), e), ts)
where
  /-- A text that starts with a quote, up to the quote that closes it. -/
  unquoted (s : List Char) : String :=
    match s with
    | c :: rest =>
      if c = '"' || c = '\'' || c = '\x60' then String.ofList (((Text.readClosed c rest).map (·.1)).getD rest)
      else String.ofList s
    | [] => ""

/-- The value of a default. A bare name stands for its own text. -/
def default (column : String) : Part Value := fun ts => do
  match ts with
  | [] => refuse ts
  | t :: rest =>
    if t.isSign "(" then
      let (e, rest) ← part Expression.read rest
      let (_, rest) ← sign ")" rest
      if e.isConstant then pure (e.constant, rest) else throw (.notConstant column)
    else if t.isSign "-" || t.isSign "+" then
      let isTerm (n : Token) : Bool := n.kind ∈ [.number, .text, .bytes] || n.keyword = "NULL"
      let (n, rest) ← part (Reader.token isTerm) rest
      let v := (Expression.literal? n).getD .null
      let negative := if n.kind = .number then (Expression.negated n.content).constant else Expression.opposite v.counted
      pure (if t.isSign "-" then negative else v, rest)
    else
      match Expression.literal? t with
      | some v => pure (v, rest)
      | none => if t.isBareName then pure (.text t.content, rest) else refuse ts

/-- The clauses of a column, at most `count`. `label` is the name that was last given to a clause. -/
def clauses (column : String) (label : Option String) (l : TableLayout) : Nat → Part TableLayout
  | 0, ts => refuse ts
  | _ + 1, [] => .ok (l, [])
  | count + 1, t :: ts => do
    let continued (l : TableLayout) : Part TableLayout := fun ts => clauses column label l count ts
    match t.keyword with
    | "CONSTRAINT" =>
      let (label, ts) ← name ts
      clauses column (some label) l count ts
    | "PRIMARY" =>
      let (_, ts) ← word "KEY" ts
      let (isDescending, ts) ← descending ts
      let (_, ts) ← onConflict ts
      let l ← l.withPrimaryKey [column] isDescending (Sql.startsWith "AUTOINCREMENT" ts)
      continued l (without "AUTOINCREMENT" ts)
    | "NOT" =>
      let (_, ts) ← word "NULL" ts
      let (_, ts) ← onConflict ts
      continued (l.change column fun c => { c with notNull := true }) ts
    | "NULL" =>
      let (_, ts) ← onConflict ts
      continued l ts
    | "UNIQUE" =>
      let (_, ts) ← onConflict ts
      continued (l.withGroup [column]) ts
    | "DEFAULT" =>
      let (v, ts) ← default column ts
      continued (l.change column fun c => { c with default := v }) ts
    | "COLLATE" =>
      let (collation, ts) ← name ts
      match Collation.ofName? collation with
      | some collation => continued (l.change column fun c => { c with collation := collation }) ts
      | none => throw (.fault (.noCollation collation))
    | "CHECK" =>
      let (condition, ts) ← condition label ts
      continued { l with conditions := l.conditions ++ [condition] } ts
    | "REFERENCES" =>
      let (_, ts) ← name ts
      if ts.head?.any (·.isSign "(") then
        let (_, ts) ← group name ts
        continued l ts
      else continued l ts
    | _ => pure (l, t :: ts)

/-- A column with its clauses. -/
def column (l : TableLayout) : Part TableLayout := fun ts => do
  let (column, ts) ← name ts
  let (type, ts) ← type ts
  let l ← l.withColumn column type
  clauses column none l (ts.length + 1) ts

/-- A column of a group and its order. -/
def member : Part (String × Bool) := fun ts => do
  let (column, ts) ← name ts
  let (isDescending, ts) ← descending ts
  pure ((column, isDescending), ts)

/-- The columns of a group, which the table has to have. -/
def members (l : TableLayout) : Part (List (String × Bool)) := fun ts => do
  let (members, ts) ← group member ts
  match members.find? fun m => (l.column? m.1).isNone with
  | some m => throw (.noColumn m.1)
  | none => pure (members, ts)

/-- A constraint of the whole table, which may have a name, if there is one. -/
def constraint? (label : Option String) (l : TableLayout) (ts : List Token) :
    Except Flaw (Option (TableLayout × List Token)) := do
  if Sql.startsWith "PRIMARY" ts then
    let (_, ts) ← word "KEY" (ts.drop 1)
    let (members, ts) ← members l ts
    let (_, ts) ← onConflict ts
    let l ← l.withPrimaryKey (members.map (·.1)) (members.any (·.2)) false
    pure (some (l, ts))
  else if Sql.startsWith "UNIQUE" ts then
    let (members, ts) ← members l (ts.drop 1)
    let (_, ts) ← onConflict ts
    pure (some (l.withGroup (members.map (·.1)), ts))
  else if Sql.startsWith "CHECK" ts then
    let (condition, ts) ← condition label (ts.drop 1)
    let (_, ts) ← onConflict ts
    pure (some ({ l with conditions := l.conditions ++ [condition] }, ts))
  else pure none

/-- The columns and constraints of a table, at most `count`, up to the closing parenthesis. -/
def entries (l : TableLayout) : Nat → Part TableLayout
  | 0, ts => refuse ts
  | count + 1, ts => do
    let (label, rest) ←
      if Sql.startsWith "CONSTRAINT" ts && !l.columns.isEmpty then (name (ts.drop 1)).map fun (s, ts) => (some s, ts)
      else pure (none, ts)
    let (l, ts) ← match ← constraint? label l rest with
      | some read => pure read
      | none => column l rest
    if ts.head?.any (·.isSign ",") then entries l count (ts.drop 1)
    else
      let (_, ts) ← sign ")" ts
      pure (l, ts)

/-- The table that the tokens behind its name declare. -/
def table (ts : List Token) : Except Flaw TableLayout := do
  let (_, ts) ← sign "(" ts
  let (l, ts) ← entries {} ts.length ts
  if ts.head?.any (!·.isSign ";") then refuse ts
  match (l.conditions.flatMap (·.2.mentions)).findSome? l.flaw? with
  | some flaw => throw flaw
  | none => pure l

end Declaration

/-- The table that the text of its creation declares. The tokens before the parenthesis are two words and the name. -/
def TableLayout.ofText (text : String) : Except Flaw TableLayout :=
  let ts := Sql.tokensOf text
  let behindName := (ts[2]?.map Token.follows).getD []
  (Declaration.table (ts.drop 3)).map fun l => { l with text := String.ofList behindName }

end TypedTables

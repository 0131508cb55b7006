import TypedTables.Command

/-!
# The command line

Reading the words of a command line. Options come before or behind the name of a command, the two that concern every
command in either place. A word that an option waits for is its value; a value is judged when the next option or
operand begins or when the words end, so of two mistakes the one that is judged first is reported. Behind `--` every
word is an operand. -/

namespace TypedTables

/-- Why a command line is not carried out. -/
inductive UsageError where
  /-- An option is given twice. -/
  | repeated
  /-- An option lacks its value, or the value is not one of those it takes. -/
  | invalidValue
  /-- A value is not a number of the range. -/
  | invalidNumber
  | unknownArgument
  /-- A switch is given a value. -/
  | unexpectedValue
  | missingArgument
  | unknownCommand
  | missingCommand
  /-- Nothing is given at all. -/
  | nothingGiven
  /-- The help text is asked for. -/
  | helpRequest
  /-- The version of the program is asked for. -/
  | versionRequest
  deriving DecidableEq

/-- What a command line asks for. -/
structure Invocation where
  /-- The address of the store. -/
  db : Option String
  form : OutputForm
  command : Command
  deriving DecidableEq

namespace CommandLine

/-- The name of a command. -/
inductive CommandName where
  | tables
  | columns
  | plan
  deriving DecidableEq

/-- Where the words stand: before the name of a command or behind it. -/
inductive Level where
  | program
  | command (name : CommandName)
  deriving DecidableEq

/-- Something that a word with a dash names. -/
inductive Switch where
  | db
  | format
  | base
  | version
  | noViews
  | help
  | programVersion
  deriving DecidableEq

/-- The switch is an option: it takes a value. -/
def Switch.isOption : Switch → Bool
  | db | format | base | version => true
  | noViews | help | programVersion => false

/-- What is known by a word at a level. -/
def CommandName.ofWord? : String → Option CommandName
  | "tables" => some .tables
  | "columns" => some .columns
  | "plan" => some .plan
  | _ => none

/-- The word that asks for help on a command. -/
def helpWord : String := "help"

/-- The word is one that the program takes in place of a command's name. -/
def isCommandWord (word : String) : Bool := word = helpWord || (CommandName.ofWord? word).isSome

/-- The switch of a long name at a level. -/
def Level.long? : Level → String → Option Switch
  | _, "db" => some .db
  | _, "format" => some .format
  | _, "help" => some .help
  | program, "version" => some .programVersion
  | command .tables, "base" => some .base
  | command .tables, "no-views" => some .noViews
  | command .plan, "version" => some .version
  | _, _ => none

/-- The switch of a letter at a level. -/
def Level.short? : Level → Char → Option Switch
  | _, 'o' => some .format
  | _, 'h' => some .help
  | program, 'V' => some .programVersion
  | command .tables, 'b' => some .base
  | command .plan, 'v' => some .version
  | _, _ => none

/-- The level takes one operand. -/
def Level.takesOperand : Level → Bool
  | command .columns | command .plan => true
  | program | command .tables => false

/-! ### Words -/

/-- A word by its shape. -/
inductive Word where
  /-- Two dashes. -/
  | divider
  /-- Two dashes and a name, with a value behind an equals sign if there is one. -/
  | long (name : String) (value : Option String)
  /-- A dash and a letter with more characters. -/
  | short (letter : Char) (rest : List Char)
  | plain

/-- The shape of a word. A dash alone is plain. -/
def Word.ofString (s : String) : Word :=
  match s.toList with
  | ['-', '-'] => .divider
  | '-' :: '-' :: rest =>
    match Text.splitFirst ['='] rest with
    | some (name, value) => .long (String.ofList name) (some (String.ofList value))
    | none => .long (String.ofList rest) none
  | '-' :: letter :: rest => .short letter rest
  | _ => .plain

/-- The value that is attached to a letter, with or without an equals sign. -/
def attached? : List Char → Option String
  | [] => none
  | '=' :: value => some (String.ofList value)
  | value => some (String.ofList value)

/-- What follows the dash of a negative number: digits with at most one point and then at most one exponent, neither
    of them in front, and the exponent not at the end. -/
def looksNumeric (s : List Char) : Bool :=
  let mantissa := s.takeWhile (· ≠ 'e')
  let places := mantissa.filter (· = '.')
  let digits := mantissa.filter (· ≠ '.')
  digits.all Char.isDigit && places.length ≤ 1 && mantissa.head? ≠ some '.' && !s.isEmpty &&
    match s.dropWhile (· ≠ 'e') with
    | _ :: exponent => !mantissa.isEmpty && !exponent.isEmpty && exponent.all Char.isDigit
    | [] => true

/-! ### Values -/

/-- What the words have given so far. -/
structure Given where
  db : Option String := none
  format : Option OutputForm := none
  base : Option String := none
  noViews : Bool := false
  version : Option Int32 := none
  operand : Option String := none

/-- The form that a word names. -/
def formOf? : String → Option OutputForm
  | "table" => some .table
  | "json" => some .json
  | "toon" => some .toon
  | _ => none

/-- The version that a word denotes. -/
def versionOf? (word : String) : Option Int32 :=
  (Text.integer? word.toList).bind fun i =>
    if Int32.minValue.toInt ≤ i ∧ i ≤ Int32.maxValue.toInt then some (Int32.ofInt i) else none

/-- Judges a value: an option is given once, and its value is one that it takes. -/
def Given.assign (given : Given) (switch : Switch) (value : String) : Except UsageError Given :=
  match switch with
  | .db => if given.db.isSome then .error .repeated else .ok { given with db := some value }
  | .base => if given.base.isSome then .error .repeated else .ok { given with base := some value }
  | .format =>
    if given.format.isSome then .error .repeated
    else
      match formOf? value with
      | some form => .ok { given with format := some form }
      | none => .error .invalidValue
  | .version =>
    if given.version.isSome then .error .repeated
    else
      match versionOf? value with
      | some version => .ok { given with version := some version }
      | none => .error .invalidNumber
  | .noViews | .help | .programVersion => .error .unexpectedValue

/-- Carries out a switch that takes no value. -/
def Given.raise (given : Given) : Switch → Except UsageError Given
  | .noViews => if given.noViews then .error .repeated else .ok { given with noViews := true }
  | .help => .error .helpRequest
  | .programVersion => .error .versionRequest
  | .db | .format | .base | .version => .error .invalidValue

/-! ### Reading -/

/-- How far the words have been read. -/
structure Progress where
  given : Given := {}
  /-- An option that is not judged yet, with its value if that has come. -/
  pending : Option (Switch × Option String) := none
  /-- A divider has come. -/
  divided : Bool := false

namespace Progress

/-- The option that waits for the next word. -/
def awaits? (p : Progress) : Option Switch :=
  match p.pending with
  | some (switch, none) => if p.divided then none else some switch
  | _ => none

/-- Judges the option that is not judged yet. -/
def settle (p : Progress) : Except UsageError Progress :=
  match p.pending with
  | none => .ok p
  | some (_, none) => .error .invalidValue
  | some (switch, some value) => do
    let given ← p.given.assign switch value
    pure { p with given := given, pending := none }

/-- Takes a switch that a word names, with the value that is attached to it. -/
def name (p : Progress) (switch : Switch) (value : Option String) : Except UsageError Progress := do
  if switch.isOption then
    let p ← p.settle
    match value with
    | some value =>
      let given ← p.given.assign switch value
      pure { p with given := given }
    | none => pure { p with pending := some (switch, none) }
  else
    let p ← p.settle
    let given ← p.given.raise switch
    pure { p with given := given }

/-- Takes an operand. -/
def operand (p : Progress) (level : Level) (word : String) : Except UsageError Progress :=
  if level.takesOperand && p.given.operand.isNone then do
    let p ← p.settle
    pure { p with given := { p.given with operand := some word } }
  else if level = .program && !(p.divided && isCommandWord word) then .error .unknownCommand
  else .error .unknownArgument

/-- Takes a plain word, which is the value that is awaited or an operand. -/
def plain (p : Progress) (level : Level) (word : String) : Except UsageError Progress :=
  match p.awaits? with
  | some switch => .ok { p with pending := some (switch, some word) }
  | none => p.operand level word

/-- Takes a word that is not the name of a command. -/
def word (p : Progress) (level : Level) (s : String) : Except UsageError Progress :=
  if p.divided then p.operand level s
  else
    match Word.ofString s with
    | .divider => .ok { p with divided := true }
    | .long name value =>
      match level.long? name with
      | some switch =>
        if value.isSome && !switch.isOption then .error .unexpectedValue else p.name switch value
      | none => .error .unknownArgument
    | .short letter rest =>
      if p.awaits? = some .version && looksNumeric (letter :: rest) then p.plain level s
      else
        match level.short? letter with
        | some switch => p.name switch (if switch.isOption then attached? rest else none)
        | none => .error .unknownArgument
    | .plain => p.plain level s

/-- Takes the words of a command. -/
def words (level : Level) : Progress → List String → Except UsageError Given
  | p, [] => p.settle.map Progress.given
  | p, s :: rest => do
    let p ← p.word level s
    words level p rest

end Progress

/-- The command that a name and what was given behind it make. -/
def commandOf (name : CommandName) (given : Given) : Except UsageError Command :=
  match name, given.operand, given.version with
  | .tables, _, _ => .ok (.tables given.base given.noViews)
  | .columns, some table, _ => .ok (.columns table)
  | .plan, some base, some version => .ok (.plan base version)
  | _, _, _ => .error .missingArgument

/-- What a request for help comes to. The words behind it have to name a command, which has no commands below. -/
def helpOn : List String → UsageError
  | [] => .helpRequest
  | [word] => if isCommandWord word then .helpRequest else .unknownCommand
  | _ => .unknownCommand

/-- The invocation made of what is given before and behind the name of a command. What stands behind counts. -/
def invocation (before behind : Given) (command : Command) : Invocation :=
  ⟨behind.db.or before.db, (behind.format.or before.format).getD .table, command⟩

/-- Reads the words before the name of a command, then those behind it. -/
def readFrom : Progress → List String → Except UsageError Invocation
  | p, [] => do
    let p ← p.settle
    if p.given.db.isNone && p.given.format.isNone then throw .nothingGiven else throw .missingCommand
  | p, s :: rest =>
    if !p.divided && p.awaits?.isNone && s = helpWord then .error (helpOn rest)
    else
      match if p.divided || p.awaits?.isSome then none else CommandName.ofWord? s with
      | some name => do
        let behind ← Progress.words (.command name) {} rest
        let command ← commandOf name behind
        let p ← p.settle
        pure (invocation p.given behind command)
      | none => do
        let p ← p.word .program s
        readFrom p rest

/-- Reads the words behind the name of the program. -/
def parse (words : List String) : Except UsageError Invocation := readFrom {} words

end CommandLine

end TypedTables

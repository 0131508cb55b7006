import TypedTables.Text.Digits

/-!
# Times in names

The time in the name of a retired table: a date, a `T`, and a time of day to the microsecond, each number in a fixed
count of places. -/

namespace TypedTables

/-- A date and a time of day. Each part fits the places it is written in. -/
structure Timestamp where
  year : Nat
  month : Nat
  day : Nat
  hour : Nat
  minute : Nat
  second : Nat
  micro : Nat
  year_lt : year < 10000 := by decide
  month_lt : month < 100 := by decide
  day_lt : day < 100 := by decide
  hour_lt : hour < 100 := by decide
  minute_lt : minute < 100 := by decide
  second_lt : second < 100 := by decide
  micro_lt : micro < 1000000 := by decide

/-- The written form of a time. -/
def Timestamp.text (t : Timestamp) : String :=
  Text.padded 4 t.year ++ "-" ++ Text.padded 2 t.month ++ "-" ++ Text.padded 2 t.day ++ "T" ++
    Text.padded 2 t.hour ++ ":" ++ Text.padded 2 t.minute ++ ":" ++ Text.padded 2 t.second ++ "." ++
    Text.padded 6 t.micro

end TypedTables

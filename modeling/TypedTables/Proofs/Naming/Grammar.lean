import TypedTables.Proofs.Naming.Ownership
import TypedTables.Proofs.Text.Marker

/-!
# What names are made of

Each role has its own way of putting a name together (`Spells`). A name is read as the role that spells it, and there is
one for every name (`classify_eq_iff`). So what is read is in the name, and what is in the name is read but for zeros in
front of a version's digits and the version in a temporary name (`classify_written`). -/

namespace TypedTables.Naming

variable {base name text table stamp marker : String} {number : Int32} {version : Option Int32} {digits : List Char}

/-! ### Marks in a text -/

/-- The text starts so. -/
def Starts (start text : String) : Prop := start.toList <+: text.toList

/-- The part stands somewhere in the text. -/
def Occurs (part text : String) : Prop := part.toList <:+: text.toList

instance (start text : String) : Decidable (Starts start text) :=
  inferInstanceAs (Decidable (start.toList <+: text.toList))

instance (part text : String) : Decidable (Occurs part text) :=
  inferInstanceAs (Decidable (part.toList <:+: text.toList))

theorem Starts.append {start : String} (h : Starts start text) (rest : String) : Starts start (text ++ rest) := by
  rw [Starts, String.toList_append]
  exact h.trans (List.prefix_append _ _)

theorem Occurs.append {part : String} (h : Occurs part text) (rest : String) : Occurs part (text ++ rest) := by
  rw [Occurs, String.toList_append]
  exact h.trans (List.prefix_append _ _).isInfix

theorem dropStart?_eq_some {start rest : String} : Text.dropStart? start text = some rest ↔ text = start ++ rest := by
  simp [Text.dropStart?, Text.stripStart?_eq_some, ← String.toList_inj]

theorem dropStart?_eq_none {start : String} : Text.dropStart? start text = none ↔ ¬Starts start text := by
  rw [Text.dropStart?, Option.map_eq_none_iff, Text.stripStart?_eq_none_iff, Starts]

theorem cutFirst_eq_none : Text.cutFirst marker text = none ↔ ¬Occurs marker text := by
  rw [Text.cutFirst, Option.map_eq_none_iff, Text.splitFirst_eq_none_iff, Occurs]

/-- What is in front of the first colon decides whether a text is temporary. -/
theorem starts_colon_iff (rest : String) :
    Starts temporaryStart (text ++ ":" ++ rest) ↔ Starts temporaryStart (text ++ ":") := by
  have plain : ':' ∉ "migrate".toList := by decide
  have parts : temporaryStart.toList = "migrate".toList ++ [':'] := rfl
  simp only [Starts, parts, String.toList_append]
  rw [List.append_assoc]
  exact Text.prefix_append_cons_iff plain

/-- A word between two colons. -/
def Bracketed (marker : String) : Prop := ∃ word, ':' ∉ word ∧ marker.toList = ':' :: (word ++ [':'])

theorem bracketed_index : Bracketed indexMarker := ⟨"indexes".toList, by decide, rfl⟩

theorem bracketed_backup : Bracketed backupMarker := ⟨"backup".toList, by decide, rfl⟩

theorem Bracketed.occurs_colon_iff (h : Bracketed marker) (rest : String) :
    Occurs marker (text ++ ":" ++ rest) ↔ Occurs marker (text ++ ":") ∨ Occurs marker (":" ++ rest) := by
  obtain ⟨word, plain, parts⟩ := h
  simp only [Occurs, parts, String.toList_append]
  rw [List.append_assoc]
  exact Text.infix_append_cons_iff plain

theorem Bracketed.cutFirst_eq_some (h : Bracketed marker) {before after : String} :
    Text.cutFirst marker text = some (before, after) ↔
      text = before ++ marker ++ after ∧ ¬Occurs marker (before ++ ":") := by
  obtain ⟨word, plain, parts⟩ := h
  have split : Text.splitFirst marker.toList text.toList = some (before.toList, after.toList) ↔
      text.toList = before.toList ++ (marker.toList ++ after.toList) ∧
        ¬marker.toList <:+: before.toList ++ [':'] := by
    rw [parts]
    exact Text.splitFirst_bracketed_iff plain
  simp only [Text.cutFirst, Occurs, Option.map_eq_some_iff, Prod.mk.injEq]
  constructor
  · rintro ⟨⟨front, back⟩, found, rfl, rfl⟩
    simpa [← String.toList_inj] using split.mp (by simpa using found)
  · intro shape
    exact ⟨(before.toList, after.toList), split.mpr (by simpa [← String.toList_inj] using shape), by simp⟩

theorem versioned_eq (base : String) (number : Int32) :
    versioned base number = base ++ ":" ++ ("v" ++ toString number.toInt) := by
  simp [versioned, versionMarker, ← String.toList_inj]

theorem retired_eq (text stamp : String) : retired text stamp = text ++ ":" ++ ("backup:" ++ stamp) := by
  simp [retired, backupMarker, ← String.toList_inj]

theorem index_eq (table index : String) : Naming.index table index = table ++ ":" ++ ("indexes:" ++ index) := by
  simp [Naming.index, indexMarker, ← String.toList_inj]

/-! ### Versions -/

/-- The text ends in a version's digits. -/
def VersionShaped (text : String) : Prop :=
  ∃ front digits, Numeral.IsDigits digits ∧ Nat.ofDigitChars 10 digits 0 ≤ Int32.maxValue.toNatClampNeg ∧
    text = front ++ versionMarker ++ String.ofList digits

/-- A base with a version's digits, or without where it has none itself. -/
inductive Numbered : String → Option Int32 → String → Prop where
  | plain {base : String} (unshaped : ¬VersionShaped base) : Numbered base none base
  | version {base : String} {digits : List Char} {number : Int32} (denotes : Denotes digits number) :
      Numbered base (some number) (base ++ versionMarker ++ String.ofList digits)

theorem Denotes.small (h : Denotes digits number) :
    Nat.ofDigitChars 10 digits 0 ≤ Int32.maxValue.toNatClampNeg := by
  have greatest : Int32.maxValue.toNatClampNeg = 2147483647 := rfl
  have bound := Int32.toInt_lt number
  have value := h.2
  omega

theorem Denotes.versionShaped (h : Denotes digits number) (front : String) :
    VersionShaped (front ++ versionMarker ++ String.ofList digits) := ⟨front, digits, h.1, h.small, rfl⟩

theorem VersionShaped.exists_denotes (h : VersionShaped text) :
    ∃ front digits number, Denotes digits number ∧ text = front ++ versionMarker ++ String.ofList digits := by
  obtain ⟨front, digits, shape, small, same⟩ := h
  exact ⟨front, digits, Int32.ofNat _, ⟨shape, (toInt_ofNat small).symm⟩, same⟩

theorem Denotes.not_mem {c : Char} (h : Denotes digits number) (other : c.isDigit = false) : c ∉ digits := by
  intro among
  rw [h.1.2 c among] at other
  cases other

theorem splitVersion_digits (denotes : Denotes digits number) (base : String) :
    splitVersion (base ++ versionMarker ++ String.ofList digits) = (base, some number) := by
  have marker : versionMarker.toList = ':' :: ['v'] := rfl
  have colon : ':' ∉ ['v'] ++ digits := by simp [denotes.not_mem]
  have last : Text.splitLast (':' :: ['v']) (['v'] ++ digits) = none :=
    Text.splitLast_eq_none List.mem_cons_self colon
  have cut : Text.splitLast versionMarker.toList (base ++ versionMarker ++ String.ofList digits).toList =
      some (base.toList, digits) := by
    rw [String.toList_append, String.toList_append, String.toList_ofList, List.append_assoc, marker]
    exact Text.splitLast_marker last base.toList
  simp only [splitVersion, cut, digitsVersion?_iff.mpr denotes, String.ofList_toList]

theorem splitVersion_of_unshaped (unshaped : ¬VersionShaped text) : splitVersion text = (text, none) := by
  unfold splitVersion
  split
  · next front digits cut =>
    cases read : digitsVersion? digits with
    | none => rfl
    | some number =>
      have same : text = String.ofList front ++ versionMarker ++ String.ofList digits := by
        simpa [← String.toList_inj] using Text.splitLast_eq cut
      exact absurd (same ▸ (digitsVersion?_iff.mp read).versionShaped _) unshaped
  · rfl

theorem splitVersion_eq_iff : splitVersion text = (base, version) ↔ Numbered base version text := by
  constructor
  · intro split
    by_cases shaped : VersionShaped text
    · obtain ⟨front, digits, number, denotes, rfl⟩ := shaped.exists_denotes
      rw [splitVersion_digits denotes] at split
      cases split
      exact .version denotes
    · rw [splitVersion_of_unshaped shaped] at split
      cases split
      exact .plain shaped
  · rintro (unshaped | denotes)
    · exact splitVersion_of_unshaped unshaped
    · exact splitVersion_digits denotes base

theorem versionShaped_iff : VersionShaped text ↔ (splitVersion text).2.isSome := by
  constructor
  · intro shaped
    obtain ⟨front, digits, number, denotes, rfl⟩ := shaped.exists_denotes
    rw [splitVersion_digits denotes]
    rfl
  · intro found
    by_contra unshaped
    rw [splitVersion_of_unshaped unshaped] at found
    cases found

instance (text : String) : Decidable (VersionShaped text) := decidable_of_iff _ versionShaped_iff.symm

theorem numbered_splitVersion (text : String) : Numbered (splitVersion text).1 (splitVersion text).2 text :=
  splitVersion_eq_iff.mp rfl

/-! ### Roles -/

/-- How a name is put together for a role. Each mark is the first of its kind, and no mark that is read before it is in
    the name. -/
inductive Spells : TableRole → String → Prop where
  | temporary {base text : String} {version : Option Int32} (numbered : Numbered base version text) :
      Spells (.temporary base) (Naming.temporary text)
  | index {table index : String} (unstarted : ¬Starts temporaryStart (table ++ ":"))
      (first : ¬Occurs indexMarker (table ++ ":")) : Spells (.index table index) (Naming.index table index)
  | backup {base text stamp : String} {version : Option Int32} (numbered : Numbered base version text)
      (unstarted : ¬Starts temporaryStart (text ++ ":")) (unindexed : ¬Occurs indexMarker (retired text stamp))
      (first : ¬Occurs backupMarker (text ++ ":")) :
      Spells (.backup base version stamp) (retired text stamp)
  | active {base text : String} {version : Option Int32} (numbered : Numbered base version text)
      (unstarted : ¬Starts temporaryStart text) (unindexed : ¬Occurs indexMarker text)
      (unretired : ¬Occurs backupMarker text) :
      Spells (.active base version) text

theorem starts_index_iff (table index : String) :
    Starts temporaryStart (Naming.index table index) ↔ Starts temporaryStart (table ++ ":") := by
  rw [index_eq, starts_colon_iff]

theorem starts_retired_iff (text stamp : String) :
    Starts temporaryStart (retired text stamp) ↔ Starts temporaryStart (text ++ ":") := by
  rw [retired_eq, starts_colon_iff]

theorem spells_classify (name : String) : Spells (classify name) name := by
  cases start : Text.dropStart? temporaryStart name with
  | some rest =>
    obtain rfl := dropStart?_eq_some.mp start
    rw [classify, start]
    exact .temporary (numbered_splitVersion rest)
  | none =>
    have unstarted := dropStart?_eq_none.mp start
    cases index : Text.cutFirst indexMarker name with
    | some parts =>
      obtain ⟨table, last⟩ := parts
      obtain ⟨rfl, first⟩ := bracketed_index.cutFirst_eq_some.mp index
      rw [classify, start, index]
      exact .index (mt (starts_index_iff _ _).mpr unstarted) first
    | none =>
      have unindexed := cutFirst_eq_none.mp index
      cases backup : Text.cutFirst backupMarker name with
      | some parts =>
        obtain ⟨text, stamp⟩ := parts
        obtain ⟨rfl, first⟩ := bracketed_backup.cutFirst_eq_some.mp backup
        rw [classify, start, index, backup]
        exact .backup (numbered_splitVersion text) (mt (starts_retired_iff _ _).mpr unstarted) unindexed first
      | none =>
        rw [classify, start, index, backup]
        exact .active (numbered_splitVersion name) unstarted unindexed (cutFirst_eq_none.mp backup)

theorem Spells.classify_eq {role : TableRole} (h : Spells role name) : classify name = role := by
  cases h with
  | @temporary base text version numbered =>
    have start : Text.dropStart? temporaryStart (Naming.temporary text) = some text := dropStart?_eq_some.mpr rfl
    simp only [classify, start, splitVersion_eq_iff.mpr numbered]
  | @index table last unstarted first =>
    have start := dropStart?_eq_none.mpr (mt (starts_index_iff table last).mp unstarted)
    have index : Text.cutFirst indexMarker (Naming.index table last) = some (table, last) :=
      bracketed_index.cutFirst_eq_some.mpr ⟨rfl, first⟩
    simp only [classify, start, index]
  | @backup base text stamp version numbered unstarted unindexed first =>
    have start := dropStart?_eq_none.mpr (mt (starts_retired_iff text stamp).mp unstarted)
    have backup : Text.cutFirst backupMarker (retired text stamp) = some (text, stamp) :=
      bracketed_backup.cutFirst_eq_some.mpr ⟨rfl, first⟩
    simp only [classify, start, cutFirst_eq_none.mpr unindexed, backup, splitVersion_eq_iff.mpr numbered]
  | active numbered unstarted unindexed unretired =>
    simp only [classify, dropStart?_eq_none.mpr unstarted, cutFirst_eq_none.mpr unindexed,
      cutFirst_eq_none.mpr unretired, splitVersion_eq_iff.mpr numbered]

/-- A name is read as the one role that spells it. -/
theorem classify_eq_iff {role : TableRole} : classify name = role ↔ Spells role name :=
  ⟨fun h => h ▸ spells_classify name, Spells.classify_eq⟩

/-! ### Zeros in front -/

/-- A zero in front of further digits. -/
def LeadsWithZero (digits : List Char) : Prop := ∃ rest, rest ≠ [] ∧ digits = '0' :: rest

theorem not_leadsWithZero_toDigits (n : Nat) : ¬LeadsWithZero (Nat.toDigits 10 n) := by
  rintro ⟨rest, nonempty, written⟩
  have shape : Numeral.IsDigits rest := by
    refine ⟨nonempty, fun c hc => (Numeral.isDigits_toDigits n).2 c ?_⟩
    rw [written]
    exact List.mem_cons_of_mem _ hc
  have value : Nat.ofDigitChars 10 rest 0 = n := by
    have zero := Text.ofDigitChars_zeros_append 1 rest
    rw [List.replicate_one, List.singleton_append, ← written, Nat.ofDigitChars_ten_toDigits] at zero
    exact zero.symm
  -- Without the zero the digits are those of the number still, which are more.
  obtain ⟨zeros, again⟩ := Text.exists_zeros shape
  rw [value, written] at again
  have length := congrArg List.length again
  simp at length
  omega

theorem Denotes.eq_toString_iff (h : Denotes digits number) :
    digits = (toString number.toInt).toList ↔ ¬LeadsWithZero digits := by
  obtain ⟨numbered, zeros, written⟩ := digitsVersion?_eq_some.mp (digitsVersion?_iff.mpr h)
  obtain ⟨n, -, -, own⟩ := exists_digits numbered
  rw [own] at written ⊢
  constructor
  · rintro rfl
    exact not_leadsWithZero_toDigits n
  · intro plain
    cases zeros with
    | zero => simpa using written
    | succ zeros =>
      refine absurd ⟨List.replicate zeros '0' ++ Nat.toDigits 10 n, ?_, ?_⟩ plain
      · simp [Nat.toDigits_ne_nil]
      · rw [written, List.replicate_succ, List.cons_append]

theorem Denotes.versioned_iff (h : Denotes digits number) :
    base ++ versionMarker ++ String.ofList digits = versioned base number ↔ ¬LeadsWithZero digits := by
  rw [← h.eq_toString_iff, versioned, String.append_right_inj, ← String.toList_inj, String.toList_ofList]

/-! ### What is read -/

/-- The name is what the role is written as. A version can have zeros in front of its digits, and a temporary name a
    version that the role does not show. -/
def Written (name : String) : TableRole → Prop
  | .index table index => name = Naming.index table index ∧ ¬Occurs indexMarker table
  | .backup base none stamp => name = retired base stamp
  | .backup base (some number) stamp =>
    ∃ digits, Denotes digits number ∧ name = retired (base ++ versionMarker ++ String.ofList digits) stamp ∧
      (name = retired (versioned base number) stamp ↔ ¬LeadsWithZero digits)
  | .active base none => base = name
  | .active base (some number) =>
    (∃ digits, Denotes digits number ∧ name = base ++ versionMarker ++ String.ofList digits ∧
      (name = versioned base number ↔ ¬LeadsWithZero digits)) ∧ version? base name = some number
  | .temporary base =>
    name = temporary base ∨
      ∃ digits, Numeral.IsDigits digits ∧ Nat.ofDigitChars 10 digits 0 ≤ Int32.maxValue.toNatClampNeg ∧
        name = temporary (base ++ versionMarker ++ String.ofList digits)

theorem Denotes.retired_iff (h : Denotes digits number) :
    retired (base ++ versionMarker ++ String.ofList digits) stamp = retired (versioned base number) stamp ↔
      ¬LeadsWithZero digits := by
  rw [← h.versioned_iff, retired, retired, String.append_left_inj, String.append_left_inj]

/-- Reading a name adds no text and drops none but what `Written` lists. -/
theorem classify_written (name : String) : Written name (classify name) := by
  have spelt := spells_classify name
  generalize classify name = role at spelt ⊢
  cases spelt with
  | temporary numbered =>
    cases numbered with
    | plain => exact Or.inl rfl
    | version denotes => exact Or.inr ⟨_, denotes.1, denotes.small, rfl⟩
  | index unstarted first => exact ⟨rfl, fun within => first (within.append ":")⟩
  | backup numbered =>
    cases numbered with
    | plain => rfl
    | version denotes => exact ⟨_, denotes, rfl, denotes.retired_iff⟩
  | active numbered =>
    cases numbered with
    | plain => rfl
    | version denotes => exact ⟨⟨_, denotes, rfl, denotes.versioned_iff⟩, version?_iff.mpr ⟨_, denotes, rfl⟩⟩

/-- Neither role shows the zeros, and the second not even the version. -/
example : classify "t:v007:backup:x" = .backup "t" (some 7) "x" ∧ classify "migrate:t:v007" = .temporary "t" := by
  decide +kernel

end TypedTables.Naming

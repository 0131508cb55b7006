import TypedTables.Proofs.Naming.Clean
import TypedTables.Proofs.Naming.Collision

/-!
# Names that are read

A base without a colon is clean unless it is called like the start of a temporary name, and a time has no marker in it.
So a name is read as what it was made for, again with one exception: what has `migrate:` in front is read as temporary,
and so are the versions and backups of the base `migrate` (`classify_name`). -/

namespace TypedTables

/-- A time is made of digits and four other characters. -/
theorem Timestamp.not_mem_text {c : Char} (digit : c.isDigit = false) (other : c ∉ ['-', 'T', ':', '.'])
    (time : Timestamp) : c ∉ time.text.toList := by
  have number (width n : Nat) : c ∉ (Text.padded width n).toList := fun hc => by
    rw [(Text.isDigits_padded width n).2 c hc] at digit
    cases digit
  simp only [List.mem_cons, List.not_mem_nil, or_false, not_or] at other
  simp [Timestamp.text, number, other]

namespace Naming

theorem unshaped_of_not_mem {text : String} {c : Char} (hc : c ∈ versionMarker.toList) (hs : c ∉ text.toList) :
    ¬VersionShaped text := by
  rintro ⟨front, digits, -, -, rfl⟩
  simp only [String.toList_append, List.mem_append, not_or] at hs
  exact hs.1.2 hc

/-! ### Bases without a colon -/

namespace Base

theorem unshaped (base : Base) : ¬VersionShaped base.text :=
  unshaped_of_not_mem (c := ':') (by decide) base.plain

theorem count_colon (base : Base) : base.text.toList.count ':' = 0 := List.count_eq_zero.mpr base.plain

theorem count_colon_append (base : Base) : (base.text ++ ":").toList.count ':' ≤ 1 := by
  rw [String.toList_append, List.count_append, base.count_colon]
  decide

/-- What stands before the first colon is the base. -/
theorem clean {base : Base} (other : base ≠ migrating) : Clean base.text where
  unstarted := by
    rintro ⟨rest, same⟩
    have plain : ∀ c ∈ base.text.toList, decide (c ≠ ':') = true := fun c hc =>
      decide_eq_true fun same => base.plain (same ▸ hc)
    have front := congrArg (List.takeWhile (· ≠ ':')) same
    rw [String.toList_append, List.takeWhile_append_of_pos plain] at front
    refine other (Base.ext (String.toList_injective ?_))
    simpa [temporaryStart, migrating] using front.symm
  unindexed := bracketed_index.not_occurs base.count_colon_append
  unretired := bracketed_backup.not_occurs base.count_colon_append

end Base

/-! ### Names of designations -/

namespace Designation

/-- What is retired has the text of a time. -/
def Timed : Designation → Prop
  | retired _ stamp => ∃ time : Timestamp, stamp = time.text
  | _ => True

/-- What the name of a table is read as. -/
def shown : Designation → TableRole
  | current base => .active base.text none
  | version base number _ =>
    if base = migrating then .temporary ("v" ++ toString number.toInt) else .active base.text (some number)
  | retired base stamp =>
    if base = migrating then .temporary ("backup:" ++ stamp) else .backup base.text none stamp
  | temporary base => .temporary base.text

theorem classify_current (base : Base) : classify (current base).name = .active base.text none := by
  have few : base.text.toList.count ':' ≤ 1 := base.count_colon ▸ Nat.zero_le 1
  have unstarted : ¬Starts temporaryStart base.text := fun start => base.plain (start.subset (by decide))
  exact classify_eq_iff.mpr (.active (.plain base.unshaped) unstarted (bracketed_index.not_occurs few)
    (bracketed_backup.not_occurs few))

/-- A name is read as what it is, but for what looks temporary. -/
theorem classify_name (d : Designation) (timed : d.Timed) : classify d.name = d.shown := by
  cases d with
  | current base => exact classify_current base
  | version base number numbered =>
    by_cases own : base = migrating
    · subst own
      have digits := (denotes_toString numbered).not_mem (c := ':') rfl
      have unshaped : ¬VersionShaped ("v" ++ toString number.toInt) := by
        refine unshaped_of_not_mem (c := ':') (by decide) ?_
        rw [String.toList_append, List.mem_append, not_or]
        exact ⟨by decide, digits⟩
      rw [name, versioned_eq, shown, if_pos rfl]
      exact classify_temporary unshaped
    · rw [name, shown, if_neg own]
      exact (classify_versioned_iff numbered).mpr (Base.clean own)
  | retired base stamp =>
    obtain ⟨time, rfl⟩ := timed
    by_cases own : base = migrating
    · subst own
      have unshaped : ¬VersionShaped ("backup:" ++ time.text) := by
        refine unshaped_of_not_mem (c := 'v') (by decide) ?_
        rw [String.toList_append, List.mem_append, not_or]
        exact ⟨by decide, time.not_mem_text rfl (by decide)⟩
      rw [name, retired_eq, shown, if_pos rfl]
      exact classify_temporary unshaped
    · have stamped : ¬Occurs indexMarker (":" ++ time.text) := by
        refine not_occurs_of_not_mem (c := 'x') (by decide) ?_
        rw [String.toList_append, List.mem_append, not_or]
        exact ⟨by decide, time.not_mem_text rfl (by decide)⟩
      rw [name, shown, if_neg own]
      exact (Base.clean own).classify_retired base.unshaped stamped
  | temporary base => exact classify_temporary base.unshaped

end Designation

end Naming

end TypedTables

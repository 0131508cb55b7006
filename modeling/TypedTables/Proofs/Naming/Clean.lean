import TypedTables.Proofs.Naming.Grammar

/-!
# Bases that are read back

A base can hold text that looks like a mark, and a mark can begin in the base and end in what stands behind it. Only the
colon behind a base can belong to both, so the marks to look for are those of the base with a colon behind it. A base
without any is read back from every name that it is given, and a base with one from no name of a version
(`classify_named`). -/

namespace TypedTables.Naming

variable {base text marker stamp : String} {number : Int32}

/-- No mark stands in the base, nor begins in it and ends in the colon behind it. -/
structure Clean (base : String) : Prop where
  unstarted : ¬Starts temporaryStart (base ++ ":")
  unindexed : ¬Occurs indexMarker (base ++ ":")
  unretired : ¬Occurs backupMarker (base ++ ":")

theorem clean_iff : Clean base ↔ ¬Starts temporaryStart (base ++ ":") ∧ ¬Occurs indexMarker (base ++ ":") ∧
    ¬Occurs backupMarker (base ++ ":") :=
  ⟨fun h => ⟨h.unstarted, h.unindexed, h.unretired⟩, fun h => ⟨h.1, h.2.1, h.2.2⟩⟩

instance (base : String) : Decidable (Clean base) := decidable_of_iff _ clean_iff.symm

/-! ### What a name adds to the base -/

theorem not_occurs_of_not_mem {part : String} {c : Char} (hc : c ∈ part.toList) (other : c ∉ text.toList) :
    ¬Occurs part text := fun within => other (within.subset hc)

/-- A marker in brackets takes two colons. -/
theorem Bracketed.not_occurs (h : Bracketed marker) (one : text.toList.count ':' ≤ 1) : ¬Occurs marker text := by
  intro within
  obtain ⟨word, -, parts⟩ := h
  have colons := within.sublist.count_le ':'
  rw [parts, List.count_cons_self, List.count_append, List.count_singleton_self] at colons
  omega

theorem starts_versioned_iff : Starts temporaryStart (versioned base number) ↔ Starts temporaryStart (base ++ ":") := by
  rw [versioned_eq, starts_colon_iff]

theorem Bracketed.occurs_versioned_iff (h : Bracketed marker) (numbered : unversioned < number) :
    Occurs marker (versioned base number) ↔ Occurs marker (base ++ ":") := by
  have one : (":" ++ ("v" ++ toString number.toInt)).toList.count ':' ≤ 1 := by
    have none := List.count_eq_zero.mpr ((denotes_toString numbered).not_mem (c := ':') rfl)
    rw [String.toList_append, String.toList_append, List.count_append, List.count_append, none]
    decide
  rw [versioned_eq, h.occurs_colon_iff]
  simp only [h.not_occurs one, or_false]

/-- No index marker ends in the colon behind a version's digits. -/
theorem occurs_versioned_colon_iff (numbered : unversioned < number) :
    Occurs indexMarker (versioned base number ++ ":") ↔ Occurs indexMarker (base ++ ":") := by
  have behind : ¬Occurs indexMarker (":" ++ ("v" ++ toString number.toInt ++ ":")) := by
    refine not_occurs_of_not_mem (c := 'x') (by decide) ?_
    have none := (denotes_toString numbered).not_mem (c := 'x') rfl
    simp only [String.toList_append, List.mem_append, not_or]
    exact ⟨by decide, ⟨by decide, none⟩, by decide⟩
  rw [versioned_eq, String.append_assoc, bracketed_index.occurs_colon_iff]
  simp only [behind, or_false]

theorem occurs_retired_iff :
    Occurs indexMarker (retired base stamp) ↔ Occurs indexMarker (base ++ ":") ∨ Occurs indexMarker (":" ++ stamp) := by
  have word : ¬Occurs indexMarker (":backup" ++ ":") :=
    not_occurs_of_not_mem (c := 'x') (by decide) (by decide)
  have parts : ":" ++ ("backup:" ++ stamp) = ":backup" ++ ":" ++ stamp := by simp [← String.toList_inj]
  rw [retired_eq, bracketed_index.occurs_colon_iff, parts, bracketed_index.occurs_colon_iff]
  simp only [word, false_or]

/-! ### Names of a base -/

theorem numbered_versioned (base : String) (numbered : unversioned < number) :
    Numbered base (some number) (versioned base number) := by
  have spelt : versioned base number = base ++ versionMarker ++ String.ofList (toString number.toInt).toList := by
    rw [String.ofList_toList, versioned]
  rw [spelt]
  exact .version (denotes_toString numbered)

theorem classify_versioned_iff (numbered : unversioned < number) :
    classify (versioned base number) = .active base (some number) ↔ Clean base := by
  rw [classify_eq_iff]
  constructor
  · rintro (_ | _ | _ | ⟨-, unstarted, unindexed, unretired⟩)
    exact ⟨mt starts_versioned_iff.mpr unstarted, mt (bracketed_index.occurs_versioned_iff numbered).mpr unindexed,
      mt (bracketed_backup.occurs_versioned_iff numbered).mpr unretired⟩
  · intro clean
    exact .active (numbered_versioned base numbered) (mt starts_versioned_iff.mp clean.unstarted)
      (mt (bracketed_index.occurs_versioned_iff numbered).mp clean.unindexed)
      (mt (bracketed_backup.occurs_versioned_iff numbered).mp clean.unretired)

namespace Clean

theorem classify_index (clean : Clean base) (numbered : unversioned < number) (index : String) :
    classify (Naming.index (versioned base number) index) = .index (versioned base number) index := by
  have unstarted : ¬Starts temporaryStart (versioned base number ++ ":") := by
    rw [versioned_eq, String.append_assoc, starts_colon_iff]
    exact clean.unstarted
  exact classify_eq_iff.mpr (.index unstarted (mt (occurs_versioned_colon_iff numbered).mp clean.unindexed))

theorem classify_base (clean : Clean base) (unshaped : ¬VersionShaped base) : classify base = .active base none :=
  classify_eq_iff.mpr <| .active (.plain unshaped) (fun start => clean.unstarted (start.append ":"))
    (fun within => clean.unindexed (within.append ":")) fun within => clean.unretired (within.append ":")

theorem classify_retired (clean : Clean base) (unshaped : ¬VersionShaped base)
    (stamped : ¬Occurs indexMarker (":" ++ stamp)) : classify (retired base stamp) = .backup base none stamp := by
  have unindexed : ¬Occurs indexMarker (retired base stamp) := by
    rw [occurs_retired_iff, not_or]
    exact ⟨clean.unindexed, stamped⟩
  exact classify_eq_iff.mpr (.backup (.plain unshaped) clean.unstarted unindexed clean.unretired)

end Clean

theorem classify_temporary (unshaped : ¬VersionShaped base) : classify (temporary base) = .temporary base :=
  classify_eq_iff.mpr (.temporary (.plain unshaped))

/-- A clean base is read back from the names of its versions, their indexes, its unversioned table and its backups; for
    the names of versions it has to be clean. A base that does not end like a version is read back from the name of its
    temporary table, clean or not. -/
theorem classify_named (base : String) :
    (∀ number, unversioned < number →
        (classify (versioned base number) = .active base (some number) ↔ Clean base)) ∧
      (Clean base → ∀ number index, unversioned < number →
        classify (Naming.index (versioned base number) index) = .index (versioned base number) index) ∧
      (Clean base → ¬VersionShaped base →
        classify base = .active base none ∧
          ∀ stamp, ¬Occurs indexMarker (":" ++ stamp) → classify (retired base stamp) = .backup base none stamp) ∧
      (¬VersionShaped base → classify (temporary base) = .temporary base) := by
  refine ⟨fun number numbered => classify_versioned_iff numbered,
    fun clean number index numbered => clean.classify_index numbered index,
    fun clean unshaped => ⟨clean.classify_base unshaped, fun stamp stamped => ?_⟩, classify_temporary⟩
  exact clean.classify_retired unshaped stamped

/-- A base that ends in the mark of a version, an index that looks like two, and a time that looks like a version with
    a backup. -/
theorem classify_marked :
    (Clean "t:v" ∧ ¬VersionShaped "t:v" ∧ unversioned < 3 ∧ ¬Occurs indexMarker (":" ++ "v1:backup:2")) ∧
      classify (versioned "t:v" 3) = .active "t:v" (some 3) ∧
      classify (Naming.index (versioned "t:v" 3) "by:indexes:age") = .index "t:v:v3" "by:indexes:age" ∧
      classify "t:v" = .active "t:v" none ∧
      classify (retired "t:v" "v1:backup:2") = .backup "t:v" none "v1:backup:2" ∧
      classify (temporary "t:v") = .temporary "t:v" := by
  have clean : Clean "t:v" := by decide +kernel
  have unshaped : ¬VersionShaped "t:v" := by decide +kernel
  have numbered : unversioned < 3 := by decide
  have stamped : ¬Occurs indexMarker (":" ++ "v1:backup:2") := by decide +kernel
  have spelt : versioned "t:v" 3 = "t:v:v3" := by decide +kernel
  obtain ⟨versions, indexes, others, temporaries⟩ := classify_named "t:v"
  obtain ⟨plain, backups⟩ := others clean unshaped
  refine ⟨⟨clean, unshaped, numbered, stamped⟩, (versions 3 numbered).mpr clean, ?_, plain, backups _ stamped,
    temporaries unshaped⟩
  rw [indexes clean 3 _ numbered, spelt]

/-- The colon behind the base completes a mark. -/
example : ¬Clean "t:backup" ∧ classify (versioned "t:backup" 1) = .backup "t" none "v1" := by decide +kernel

end TypedTables.Naming

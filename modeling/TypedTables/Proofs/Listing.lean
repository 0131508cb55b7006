import TypedTables.Listing

/-!
# Groups of tables

The groups of a listing stand in the order of their bases, so each base has one at most. A group is there for every base
that a listed table has, and holds these tables as they follow each other in the catalog. So the groups share the wanted
tables out among them, and asking for one base gives the group that the base has when all are listed
(`ofCatalog_partitions`). -/

namespace TypedTables.Listing

variable {groups : List TableGroup} {table : TableInfo} {base : String}

def Ordered (groups : List TableGroup) : Prop := groups.Pairwise fun group other => group.base < other.base

/-- The tables of all groups of the base. -/
def under (base : String) (groups : List TableGroup) : List TableInfo :=
  groups.flatMap fun group => if group.base = base then group.tables else []

/-! ### One table -/

theorem mem_bases_file : base ∈ (file table groups).map TableGroup.base ↔
    base = table.base ∨ base ∈ groups.map TableGroup.base := by
  induction groups with
  | nil => simp [file]
  | cons group groups ih =>
    unfold file
    split
    · next same => simp [same]
    split
    · simp
    · simp only [List.map_cons, List.mem_cons, ih]
      exact or_left_comm

theorem ordered_cons_iff {group : TableGroup} :
    Ordered (group :: groups) ↔ (∀ base ∈ groups.map TableGroup.base, group.base < base) ∧ Ordered groups := by
  rw [Ordered, List.pairwise_cons, List.forall_mem_map]
  rfl

theorem Ordered.file (h : Ordered groups) : Ordered (file table groups) := by
  induction groups with
  | nil => exact List.pairwise_singleton _ _
  | cons group groups ih =>
    obtain ⟨first, rest⟩ := ordered_cons_iff.mp h
    unfold Listing.file
    split
    · exact ordered_cons_iff.mpr ⟨first, rest⟩
    next other =>
    split
    · next before =>
      refine ordered_cons_iff.mpr ⟨fun base hb => ?_, h⟩
      rcases List.mem_cons.mp hb with rfl | hb
      · exact before
      · exact String.lt_trans before (first base hb)
    · next behind =>
      -- Neither the first base nor before it, so the table's base comes behind it.
      refine ordered_cons_iff.mpr ⟨fun base hb => ?_, ih rest⟩
      rcases mem_bases_file.mp hb with rfl | hb
      · exact String.not_le.mp fun le => other (String.le_antisymm (String.not_lt.mp behind) le).symm
      · exact first base hb

theorem under_eq_nil (none : base ∉ groups.map TableGroup.base) : under base groups = [] := by
  refine List.flatMap_eq_nil_iff.mpr fun group hg => if_neg fun same => none ?_
  exact same ▸ List.mem_map_of_mem hg

theorem under_cons (group : TableGroup) :
    under base (group :: groups) = (if group.base = base then group.tables else []) ++ under base groups :=
  List.flatMap_cons

/-- A base that stands before all groups has none. -/
theorem under_eq_nil_of_lt (before : ∀ other ∈ groups.map TableGroup.base, base < other) : under base groups = [] :=
  under_eq_nil fun present => String.lt_irrefl base (before base present)

/-- A table is put behind those of its base. -/
theorem under_file (h : Ordered groups) :
    under base (file table groups) = under base groups ++ if table.base = base then [table] else [] := by
  induction groups with
  | nil => simp [file, under]
  | cons group groups ih =>
    obtain ⟨first, rest⟩ := ordered_cons_iff.mp h
    unfold file
    split
    · next same =>
      -- No other group has the base, so nothing of it stands behind the table.
      rw [under_cons, under_cons, same]
      by_cases own : group.base = base
      · subst own
        simp [under_eq_nil_of_lt first]
      · simp [own]
    split
    · next before =>
      rw [under_cons]
      by_cases own : table.base = base
      · have all : ∀ other ∈ (group :: groups).map TableGroup.base, table.base < other := fun other ho => by
          rcases List.mem_cons.mp ho with rfl | ho
          · exact before
          · exact String.lt_trans before (first other ho)
        subst own
        simp [under_eq_nil_of_lt all]
      · simp [own]
    · rw [under_cons, under_cons, ih rest, List.append_assoc]

/-- A base has one group at most, so this one holds all of its tables. -/
theorem under_of_mem {group : TableGroup} (h : Ordered groups) (hg : group ∈ groups) :
    under group.base groups = group.tables := by
  induction groups with
  | nil => cases hg
  | cons other groups ih =>
    obtain ⟨first, rest⟩ := ordered_cons_iff.mp h
    rw [under_cons]
    rcases List.mem_cons.mp hg with rfl | hg
    · rw [if_pos rfl, under_eq_nil_of_lt first, List.append_nil]
    · have apart : other.base ≠ group.base := fun same =>
        String.lt_irrefl other.base (same ▸ first group.base (List.mem_map_of_mem hg))
      rw [if_neg apart, ih rest hg, List.nil_append]

theorem tables_file :
    ((file table groups).flatMap TableGroup.tables).Perm (table :: groups.flatMap TableGroup.tables) := by
  induction groups with
  | nil => exact .refl _
  | cons group groups ih =>
    unfold file
    split
    · -- The table stands behind those of its base, and in front of those of the other groups.
      rw [List.flatMap_cons, List.flatMap_cons, List.append_assoc]
      exact List.perm_middle
    split
    · exact .refl _
    · rw [List.flatMap_cons, List.flatMap_cons]
      exact (ih.append_left _).trans List.perm_middle

theorem filter_file_other (other : table.base ≠ base) :
    (file table groups).filter (·.base = base) = groups.filter (·.base = base) := by
  induction groups with
  | nil => simp [file, other]
  | cons group groups ih =>
    unfold file
    split
    · next same => simp [← same, other]
    split
    · rw [List.filter_cons_of_neg (by simpa using other)]
    · rw [List.filter_cons, List.filter_cons, ih]

theorem filter_file (h : Ordered groups) :
    (file table groups).filter (·.base = table.base) = file table (groups.filter (·.base = table.base)) := by
  induction groups with
  | nil => simp [file]
  | cons group groups ih =>
    obtain ⟨first, rest⟩ := ordered_cons_iff.mp h
    by_cases same : table.base = group.base
    · simp [file, same]
    have dropped : (group :: groups).filter (·.base = table.base) = groups.filter (·.base = table.base) :=
      List.filter_cons_of_neg (by simpa using Ne.symm same)
    rw [dropped, file, if_neg same]
    split
    · next before =>
      -- All bases stand behind that of the table, which has no group yet.
      have none : groups.filter (·.base = table.base) = [] := by
        refine List.filter_eq_nil_iff.mpr fun other ho own => ?_
        have behind := String.lt_trans before (first other.base (List.mem_map_of_mem ho))
        exact String.lt_irrefl _ (of_decide_eq_true own ▸ behind)
      rw [List.filter_cons_of_pos (by simp), dropped, none, file]
    · rw [List.filter_cons_of_neg (by simpa using Ne.symm same), ih rest]

/-! ### All tables -/

/-- The groups are those of the tables. -/
structure Files (tables : List TableInfo) (groups : List TableGroup) : Prop where
  ordered : Ordered groups
  bases : ∀ base, base ∈ groups.map TableGroup.base ↔ base ∈ tables.map TableInfo.base
  under : ∀ base, under base groups = tables.filter (·.base = base)

variable {tables : List TableInfo}

theorem Files.nil : Files [] [] := ⟨.nil, fun _ => Iff.rfl, fun _ => rfl⟩

theorem Files.file (h : Files tables groups) (table : TableInfo) : Files (tables ++ [table]) (file table groups) where
  ordered := h.ordered.file
  bases base := by simp [-List.mem_map, mem_bases_file, h.bases, or_comm]
  under base := by
    rw [under_file h.ordered, h.under, List.filter_append]
    by_cases own : table.base = base <;> simp [own]

theorem Files.foldl (h : Files tables groups) (more : List TableInfo) :
    Files (tables ++ more) (more.foldl (fun groups table => Listing.file table groups) groups) := by
  induction more generalizing tables groups with
  | nil => rwa [List.append_nil]
  | cons table more ih =>
    rw [List.append_cons]
    exact ih (h.file table)

theorem files_ofCatalog (onlyBase : Option String) (noViews : Bool) (catalog : List TableInfo) :
    Files (catalog.filter (keeps onlyBase noViews)) (ofCatalog onlyBase noViews catalog).groups := Files.nil.foldl _

theorem Files.tables_of_mem (h : Files tables groups) {group : TableGroup} (hg : group ∈ groups) :
    group.tables = tables.filter (·.base = group.base) := by
  rw [← h.under, under_of_mem h.ordered hg]

theorem Files.tables_ne_nil (h : Files tables groups) {group : TableGroup} (hg : group ∈ groups) :
    group.tables ≠ [] := by
  obtain ⟨table, ht, same⟩ := List.mem_map.mp ((h.bases group.base).mp (List.mem_map_of_mem hg))
  rw [h.tables_of_mem hg]
  exact List.ne_nil_of_mem (List.mem_filter.mpr ⟨ht, decide_eq_true same⟩)

theorem tables_foldl (tables : List TableInfo) (groups : List TableGroup) :
    ((tables.foldl (fun groups table => file table groups) groups).flatMap TableGroup.tables).Perm
      (tables ++ groups.flatMap TableGroup.tables) := by
  induction tables generalizing groups with
  | nil => exact .refl _
  | cons table tables ih =>
    refine (ih (file table groups)).trans ?_
    exact (tables_file.append_left tables).trans List.perm_middle

theorem filter_foldl (h : Ordered groups) (base : String) (tables : List TableInfo) :
    (tables.foldl (fun groups table => file table groups) groups).filter (·.base = base) =
      (tables.filter (·.base = base)).foldl (fun groups table => file table groups)
        (groups.filter (·.base = base)) := by
  induction tables generalizing groups with
  | nil => rfl
  | cons table tables ih =>
    rw [List.foldl_cons, ih h.file]
    by_cases own : table.base = base
    · subst own
      rw [filter_file h, List.filter_cons_of_pos (by simp), List.foldl_cons]
    · rw [filter_file_other own, List.filter_cons_of_neg (by simpa using own)]

theorem count_eq (listing : Listing) : listing.count = (listing.groups.flatMap TableGroup.tables).length := by
  have each (groups : List TableGroup) (n : Nat) :
      groups.foldl (fun n group => n + group.tables.length) n = n + (groups.flatMap TableGroup.tables).length := by
    induction groups generalizing n with
    | nil => rfl
    | cons group groups ih => rw [List.foldl_cons, ih, List.flatMap_cons, List.length_append, Nat.add_assoc]
  exact (each listing.groups 0).trans (Nat.zero_add _)

/-! ### The wanted tables -/

/-- The table is no view where views are left out, and belongs to the base that was asked for. -/
def Wanted (onlyBase : Option String) (noViews : Bool) (table : TableInfo) : Prop :=
  (noViews = true → table.kind ≠ .view) ∧ ∀ base ∈ onlyBase, (Naming.classify table.name).base = base

instance (onlyBase : Option String) (noViews : Bool) : DecidablePred (Wanted onlyBase noViews) := fun _ =>
  inferInstanceAs (Decidable (_ ∧ _))

theorem keeps_iff {onlyBase : Option String} {noViews : Bool} :
    keeps onlyBase noViews table = true ↔ Wanted onlyBase noViews table := by
  have views : (!(noViews && table.kind = .view)) = true ↔ (noViews = true → table.kind ≠ .view) := by
    cases noViews <;> simp
  have bases : onlyBase.all (· = table.base) = true ↔
      ∀ base ∈ onlyBase, (Naming.classify table.name).base = base := by
    rw [Option.all_eq_true]
    exact forall₂_congr fun base _ => decide_eq_true_iff.trans eq_comm
  rw [keeps, Bool.and_eq_true, views, bases, Wanted]

/-- The groups share the tables out among them by their bases. -/
structure Partitions (tables : List TableInfo) (groups : List TableGroup) : Prop where
  increasing : groups.Pairwise fun group other => group.base < other.base
  inhabited : ∀ group ∈ groups, group.tables ≠ []
  /-- Every table is in the groups as often as it is in the catalog, and none besides. -/
  shared : (groups.flatMap TableGroup.tables).Perm tables
  /-- The tables of a group follow each other as they do in the catalog. -/
  tables : ∀ group ∈ groups, group.tables = tables.filter fun table => (Naming.classify table.name).base = group.base

/-- The wanted tables of a catalog are listed once each, under their bases. Those of one base are listed as they are
    when all bases are. -/
theorem ofCatalog_partitions (onlyBase : Option String) (noViews : Bool) (catalog : List TableInfo) :
    Partitions (catalog.filter (Wanted onlyBase noViews)) (ofCatalog onlyBase noViews catalog).groups ∧
      (ofCatalog onlyBase noViews catalog).count = catalog.countP (Wanted onlyBase noViews) ∧
      ∀ base, (ofCatalog (some base) noViews catalog).groups =
        (ofCatalog none noViews catalog).groups.filter (·.base = base) := by
  have kept : catalog.filter (keeps onlyBase noViews) = catalog.filter (Wanted onlyBase noViews) :=
    List.filter_congr fun table _ => Bool.eq_iff_iff.mpr (keeps_iff.trans decide_eq_true_iff.symm)
  have files := files_ofCatalog onlyBase noViews catalog
  have shared := tables_foldl (catalog.filter (keeps onlyBase noViews)) []
  rw [List.flatMap_nil, List.append_nil] at shared
  rw [kept] at files
  refine ⟨⟨files.ordered, fun _ => files.tables_ne_nil, kept ▸ shared, fun group hg => ?_⟩, ?_, fun base => ?_⟩
  · exact files.tables_of_mem hg
  · rw [count_eq, List.countP_eq_length_filter, ← kept]
    exact shared.length_eq
  · have one : catalog.filter (keeps (some base) noViews) =
        (catalog.filter (keeps none noViews)).filter (·.base = base) := by
      rw [List.filter_filter]
      refine List.filter_congr fun table _ => ?_
      simp [keeps, Bool.and_comm, eq_comm]
    rw [ofCatalog, ofCatalog, one]
    exact (filter_foldl .nil base _).symm

end TypedTables.Listing

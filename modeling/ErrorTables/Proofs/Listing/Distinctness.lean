import ErrorTables.Proofs.Listing.RoundTrip
import Mathlib.Data.List.Nodup

/-! When the symbols of a listing are distinct. A symbol joins a name and a tag by an underscore,
which both of them may hold, so that a longer name can take over the start of a tag. Whatever the
numbers of a listing, its symbols are those that are read back.
-/

namespace ErrorTables.Listing

open Text

-----------------------------------------------------------------------------------------
-- Joined names and tags
-----------------------------------------------------------------------------------------

/-- A tag of the first group starts with what the name of the second group has behind that of the
first one, and goes on with a tag of the second group: they share a symbol.
-/
def Overlap (first second : Group) : Prop :=
  ∃ middle, second.name = first.name ++ "_" ++ middle
    ∧ ∃ entry ∈ first.entries, ∃ other ∈ second.entries,
      entry.tag = middle ++ "_" ++ other.tag

section Joins

variable {name other tag tag' : String} {first second : Group} {groups : List Group}

/-- A longer name takes over the start of the tag, from the underscore on. -/
theorem join_of_longer {rest : List Char} (longer : other.toList = name.toList ++ rest)
    (split : '_' :: tag.toList = rest ++ '_' :: tag'.toList)
    : (name = other ∧ tag = tag')
      ∨ ∃ middle, other = name ++ "_" ++ middle ∧ tag = middle ++ "_" ++ tag' := by
  rcases List.cons_eq_append_iff.mp split with ⟨rfl, same⟩ | ⟨middle, rfl, behind⟩
  · left
    rw [List.append_nil] at longer
    exact ⟨String.toList_inj.mp longer.symm, (String.toList_inj.mp (List.cons.inj same).2).symm⟩
  · right
    refine ⟨String.ofList middle, ?_, ?_⟩
    · rw [← String.toList_inj, longer]
      simp
    · rw [← String.toList_inj, behind]
      simp

/-- Names that are joined with tags to one text are the same, or one of them goes on with the start
of the other one's tag.
-/
theorem joined_eq_iff
    : name ++ "_" ++ tag = other ++ "_" ++ tag'
      ↔ (name = other ∧ tag = tag')
        ∨ (∃ middle, other = name ++ "_" ++ middle ∧ tag = middle ++ "_" ++ tag')
        ∨ ∃ middle, name = other ++ "_" ++ middle ∧ tag' = middle ++ "_" ++ tag := by
  constructor
  · intro same
    have chars : name.toList ++ '_' :: tag.toList = other.toList ++ '_' :: tag'.toList := by
      simpa using congrArg String.toList same
    rcases List.append_eq_append_iff.mp chars with ⟨rest, longer, split⟩ | ⟨rest, longer, split⟩
    · exact (join_of_longer longer split).imp_right .inl
    · rcases join_of_longer longer split with ⟨rfl, rfl⟩ | shorter
      · exact .inl ⟨rfl, rfl⟩
      · exact .inr (.inr shorter)
  · rintro (⟨rfl, rfl⟩ | ⟨middle, rfl, rfl⟩ | ⟨middle, rfl, rfl⟩) <;> simp [String.append_assoc]

/-- Groups of different names share a symbol exactly if they overlap one way or the other. -/
theorem disjoint_symbols_iff (apart : first.name ≠ second.name)
    : List.Disjoint (symbols [first]) (symbols [second])
      ↔ ¬ Overlap first second ∧ ¬ Overlap second first := by
  simp only [symbols_cons, symbols_nil, List.append_nil, List.disjoint_left]
  constructor
  · intro disjoint
    constructor
    · rintro ⟨middle, longer, entry, found, other, found', same⟩
      refine disjoint (List.mem_map_of_mem found) (List.mem_map.mpr ⟨other, found', ?_⟩)
      exact (joined_eq_iff.mpr (.inr (.inl ⟨middle, longer, same⟩))).symm
    · rintro ⟨middle, longer, entry, found, other, found', same⟩
      refine disjoint (List.mem_map_of_mem found') (List.mem_map.mpr ⟨entry, found, ?_⟩)
      exact joined_eq_iff.mpr (.inr (.inl ⟨middle, longer, same⟩))
  · rintro ⟨none, none'⟩ symbol member member'
    obtain ⟨entry, found, rfl⟩ := List.mem_map.mp member
    obtain ⟨other, found', same⟩ := List.mem_map.mp member'
    rcases joined_eq_iff.mp same.symm with ⟨same, -⟩ | ⟨middle, longer, same⟩
      | ⟨middle, longer, same⟩
    · exact apart same
    · exact none ⟨middle, longer, entry, found, other, found', same⟩
    · exact none' ⟨middle, longer, other, found', entry, found, same⟩

theorem Overlap.ne_name (h : Overlap first second) : first.name ≠ second.name := by
  obtain ⟨middle, longer, -⟩ := h
  intro same
  have lengths := congrArg String.length (same.trans longer)
  simp only [String.length_append] at lengths
  have one : "_".length = 1 := rfl
  omega

/-- The symbols of groups with distinct names are distinct exactly if no two groups overlap. -/
theorem nodup_symbols_iff (apart : (groups.map (·.name)).Nodup)
    (tagged : ∀ group ∈ groups, (group.entries.map (·.tag)).Nodup)
    : (symbols groups).Nodup
      ↔ ∀ first ∈ groups, ∀ second ∈ groups, ¬ Overlap first second := by
  have differ := List.pairwise_map.mp apart
  rw [symbols, List.nodup_flatMap]
  constructor
  · rintro ⟨-, disjoint⟩ first member second member' overlap
    have symmetric : Std.Symm fun first second : Group =>
        List.Disjoint (symbols [first]) (symbols [second]) :=
      ⟨fun _ _ disjoint => disjoint.symm⟩
    have each : groups.Pairwise fun first second =>
        List.Disjoint (symbols [first]) (symbols [second]) :=
      disjoint.imp fun {first second} disjoint => by simpa using disjoint
    have distinct : first ≠ second := fun same => overlap.ne_name (congrArg Group.name same)
    have none := (disjoint_symbols_iff overlap.ne_name).mp
      (each.forall member member' distinct)
    exact none.1 overlap
  · intro none
    refine ⟨fun group member => ?_, differ.imp_of_mem ?_⟩
    · have tags := (tagged group member).map fun tag tag' same =>
        (String.append_right_inj (group.name ++ "_")).mp same
      rwa [List.map_map] at tags
    · intro first second member member' apart
      have disjoint := (disjoint_symbols_iff apart).mpr
        ⟨none first member second member', none second member' first member⟩
      simpa using disjoint

end Joins

section Reading

variable {first : Int} {symbols : List String} {pairs : List (String × Int)}

/-- A listing is split into its lines. -/
theorem splitFeeds_listingText (named : ∀ symbol ∈ symbols, IsSymbol symbol)
    : splitFeeds (unifyBreaks (listingText first symbols).toList)
      = (numbered first symbols).map fun entry => (numberedLine entry).toList := by
  have quiet : '\r' ∉ (listingText first symbols).toList := by
    induction symbols generalizing first with
    | nil => simp [listingText]
    | cons symbol rest ih =>
        obtain ⟨here, later⟩ := List.forall_mem_cons.mp named
        rw [listingText, numbered_cons, List.map_cons, toList_closeLines_cons, ← listingText]
        have line := @not_mem_numberedLine symbol first here '\r' (by decide) (by decide)
        simp [line, ih later]
  have still : unifyBreaks (listingText first symbols).toList
      = (listingText first symbols).toList := by
    simpa using @unifyBreaks_append_of_not_mem _ [] quiet
  rw [still, listingText, splitFeeds_closeLines (noFeed_lines named), List.map_map]
  rfl

/-- Lines that can be read give their symbols, by induction on the symbols. -/
theorem map_fst_readLines (named : ∀ symbol ∈ symbols, IsSymbol symbol)
    (read : readLines ((numbered first symbols).map fun entry => (numberedLine entry).toList)
      = .ok pairs)
    : pairs.map (·.1) = symbols := by
  induction symbols generalizing first pairs with
  | nil =>
      obtain rfl : [] = pairs := Except.ok.inj read
      rfl
  | cons symbol rest ih =>
      obtain ⟨here, later⟩ := List.forall_mem_cons.mp named
      rw [numbered_cons, List.map_cons] at read
      have line := @readLine_numberedLine_eq symbol first [] allBlank_nil here
      rw [List.nil_append] at line
      cases value : Numeral.read .decimal (String.ofList ([' '] ++ (Numeral.decimal first).toList))
        with
      | error fault =>
          rw [readLines, line, value] at read
          contradiction
      | ok number =>
          rw [value] at line
          rw [readLines_cons line] at read
          cases more : readLines ((numbered (first + 1) rest).map fun entry =>
            (numberedLine entry).toList) with
          | error fault =>
              rw [more] at read
              contradiction
          | ok others =>
              rw [more] at read
              obtain rfl := Except.ok.inj read
              rw [List.map_cons, ih later more]

/-- A listing in a file is loaded as its symbols and numbers, unless there are more of them than a
number that can be read; and whatever is loaded from it, the symbols are those of the listing.
-/
theorem load_listingText {files : FileSystem} {path : Path}
    (named : ∀ symbol ∈ symbols, IsSymbol symbol)
    (held : files.read path = .ok (listingText 1 symbols).toUTF8)
    : (symbols.length < 10 ^ Numeral.maxDecimalDigits →
        load files path = .ok (numbered 1 symbols))
      ∧ ∀ pairs, load files path = .ok pairs → pairs.map (·.1) = symbols := by
  rw [load_eq held]
  constructor
  · intro fits
    have short : ∀ entry ∈ numbered 1 symbols,
        entry.2.natAbs < 10 ^ Numeral.maxDecimalDigits := by
      intro entry member
      obtain ⟨position, inside, rfl⟩ := List.mem_mapIdx.mp member
      simp only
      omega
    have whole : BlanksInserted (listingText 1 symbols).toList (listingText 1 symbols).toList :=
      .refl (noFeed_lines named)
    rw [readLines_numbered named short whole]
    rfl
  · intro pairs loaded
    rw [splitFeeds_listingText named] at loaded
    cases read : readLines ((numbered 1 symbols).map fun entry => (numberedLine entry).toList) with
    | error fault =>
        rw [read] at loaded
        contradiction
    | ok found =>
        rw [read] at loaded
        obtain rfl := Except.ok.inj loaded
        exact map_fst_readLines named read

end Reading

end ErrorTables.Listing

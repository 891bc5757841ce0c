import ErrorTables.Proofs.Listing.Distinctness
import ErrorTables.Proofs.Run.FoundGroups

/-! The symbols that a run lists. Nothing compares the symbols of one group with those of another,
so that groups of different names can still share a symbol, which is then listed twice.
-/

namespace ErrorTables.Run

open Definition
open Listing (IsSymbol Overlap listingText numbered symbols)

section Whole

variable {inputs : List Path} {options : Options} {settings : Settings} {now : Moment}
variable {files : FileSystem} {summary : Summary} {path : Path} {opened : Session}

/-- A run that lists and succeeds leaves a line for each entry that its inputs yield. -/
theorem listing_of_succeeded (listing : options.listPath = some path)
    (succeeded : (run inputs options settings now files).result = .ok summary)
    : ∃ opened, Opens options settings now files opened
      ∧ let found := opened.found (inputs.map .process)
        summary.groups = found.map (fun (source, group) => .ofGroup source group)
        ∧ (run inputs options settings now files).files.read path
          = .ok (listingText 1 (symbols (found.map (·.2)))).toUTF8 := by
  obtain ⟨opened, last, opens, processed, ended, rfl⟩ := opens_of_succeeded succeeded
  obtain ⟨nothing, location, lists⟩ := lists_of_opens listing opens
  have noEnter : .enter ∉ inputs.map Step.process := by simp
  have noExit : .exit ∉ inputs.map Step.process := by simp
  have alone : opened.LeftAlone path (inputs.map .process) := by
    intro before changed after split
    have member : .change changed ∈ inputs.map Step.process := by simp [split]
    simp at member
  obtain ⟨lists', records⟩ := lists.performAll noEnter noExit alone
  rw [Session.performAll_of_forEach_ok processed] at lists' records
  obtain ⟨listed, kept⟩ := lists'.exit
  refine ⟨opened, opens, ?_, ?_⟩
  · rw [kept, records, nothing, List.nil_append]
  · rw [ended]
    exact listed.holds

/-- The symbols that inputs yield are ones of word characters. -/
theorem isSymbol_of_mem_symbols {symbol : String}
    (member : symbol ∈ symbols ((opened.found (inputs.map .process)).map (·.2)))
    : IsSymbol symbol := by
  obtain ⟨group, found, inside⟩ := List.mem_flatMap.mp member
  obtain ⟨pair, yielded, rfl⟩ := List.mem_map.mp found
  obtain ⟨entry, listed, rfl⟩ := List.mem_map.mp inside
  have writable := Session.writable_of_mem_found yielded
  exact Listing.isSymbol_of_isName writable.name (writable.entries entry listed).tag

/-- A run that lists and succeeds records the groups that its inputs yield, and their symbols are
read back from the listing, numbered from one as far as the numbers can be read. If the groups have
distinct names, the symbols are distinct exactly if no two groups overlap.
-/
theorem listed_symbols_distinct_iff (listing : options.listPath = some path)
    (succeeded : (run inputs options settings now files).result = .ok summary)
    (apart : (summary.groups.map (·.name)).Nodup)
    : ∃ opened, Opens options settings now files opened
      ∧ let found := opened.found (inputs.map .process)
        let groups := found.map (·.2)
        let loaded := Listing.load (run inputs options settings now files).files path
        summary.groups = found.map (fun (source, group) => .ofGroup source group)
        ∧ ((symbols groups).length < 10 ^ Numeral.maxDecimalDigits →
          loaded = .ok (numbered 1 (symbols groups)))
        ∧ ∀ pairs, loaded = .ok pairs →
          pairs.map (·.1) = symbols groups
          ∧ ((pairs.map (·.1)).Nodup
            ↔ ∀ first ∈ groups, ∀ second ∈ groups, ¬ Overlap first second) := by
  obtain ⟨opened, opens, records, held⟩ := listing_of_succeeded listing succeeded
  refine ⟨opened, opens, ?_⟩
  intro found groups loaded
  have named : ∀ symbol ∈ symbols groups, IsSymbol symbol := fun _ => isSymbol_of_mem_symbols
  obtain ⟨numbers, symbols_eq⟩ := Listing.load_listingText named held
  have names : (groups.map (·.name)).Nodup := by
    rw [records, List.map_map] at apart
    rwa [List.map_map]
  have tagged : ∀ group ∈ groups, (group.entries.map (·.tag)).Nodup := by
    intro group member
    obtain ⟨pair, yielded, rfl⟩ := List.mem_map.mp member
    exact (Session.writable_of_mem_found yielded).tags
  refine ⟨records, numbers, fun pairs read => ⟨symbols_eq pairs read, ?_⟩⟩
  rw [symbols_eq pairs read]
  exact Listing.nodup_symbols_iff names tagged

end Whole

/-- Inputs with groups of which one has a name that goes on behind that of the other one. -/
def joinedNames : FileSystem := ⟨[
  (["x"], .file "a=1\"\"\x7b\nb_c\n\x7d".toUTF8),
  (["y"], .file "a_b=2\"\"\x7b\nd\n\x7d".toUTF8),
  (["z"], .file "a_b=2\"\"\x7b\nc\n\x7d".toUTF8)]⟩

/-- The session that is to list the entries of these inputs. -/
def joinedSession : Session where
  options := { listPath := some ⟨"", ["l"]⟩ }
  settings := { timestamp := some "now" }
  timestamp := "now"
  files := joinedNames

/-- The session once its listing is open. -/
def joinedOpened : Session := {
  joinedSession with
  files := joinedNames.put ["l"] (.file .empty)
  summary := { listPath := some "l" }
  writer := some ⟨.file ["l"] "", 1⟩ }

/-- The groups of the first two inputs. -/
def joinedFound : List (String × Group) := [
  ("x", { name := "a", base := 1, entries := [⟨"b_c", "", 2⟩], source := some "x", line := 1 }),
  ("y", { name := "a_b", base := 2, entries := [⟨"d", "", 2⟩], source := some "y", line := 1 })]

/-- Groups that could overlap by their names do not do so by their tags. -/
theorem listed_symbols_distinct_iff_near_miss
    : let outcome := run [⟨"", ["x"]⟩, ⟨"", ["y"]⟩] joinedSession.options joinedSession.settings
        { date := ⟨2024, 1, 31⟩ } joinedNames
      (∃ summary, outcome.result = .ok summary
        ∧ summary.groups = joinedFound.map fun (source, group) => .ofGroup source group)
      ∧ Listing.load outcome.files ⟨"", ["l"]⟩ = .ok [("a_b_c", 1), ("a_b_d", 2)]
      ∧ ∀ first ∈ joinedFound.map (·.2), ∀ second ∈ joinedFound.map (·.2),
        ¬ Overlap first second := by
  intro outcome
  have ended : outcome.result = .ok {
      files := ["x", "y"], listPath := some "l", listed := 2
      groups := joinedFound.map fun (source, group) => .ofGroup source group } := by
    simp only [outcome]
    cbv
  have entered : joinedSession.enter = (joinedOpened, .ok ()) := by cbv
  have found : joinedOpened.found [.process ⟨"", ["x"]⟩, .process ⟨"", ["y"]⟩] = joinedFound := by
    cbv
  obtain ⟨opened, ⟨fresh, started, entered'⟩, -, numbers, distinct⟩ :=
    listed_symbols_distinct_iff rfl ended (by decide)
  obtain rfl : fresh = joinedSession := Session.eq_of_start started
  obtain rfl : opened = joinedOpened := (Prod.mk.inj (entered'.symm.trans entered)).1
  simp only [List.map_cons, List.map_nil, found] at numbers distinct
  have loaded := numbers (Nat.lt_of_lt_of_le (by decide) (Nat.le_self_pow (by decide) 10))
  exact ⟨⟨_, ended, rfl⟩, loaded, (distinct _ loaded).2.mp (by decide)⟩

/-- A run over groups of different names that gives one symbol two numbers: the name of the second
group takes over the start of the tag of the first one.
-/
theorem run_lists_symbol_twice
    : let inputs : List Path := [⟨"", ["x"]⟩, ⟨"", ["z"]⟩]
      let outcome := run inputs joinedSession.options joinedSession.settings
        { date := ⟨2024, 1, 31⟩ } joinedNames
      outcome.result.map (·.groups.map (·.name)) = .ok ["a", "a_b"]
      ∧ (∀ input ∈ inputs, joinedNames.locate input ≠ joinedNames.locate ⟨"", ["l"]⟩)
      ∧ Listing.load outcome.files ⟨"", ["l"]⟩ = .ok [("a_b_c", 1), ("a_b_c", 2)]
      ∧ ["a", "a_b"].Nodup ∧ ¬ ["a_b_c", "a_b_c"].Nodup := by
  intro inputs outcome
  have place (name : String) (plain : name = "x" ∨ name = "z" ∨ name = "l")
      : joinedNames.locate ⟨"", [name]⟩ = .ok [name] := by
    rcases plain with rfl | rfl | rfl <;> cbv
  refine ⟨?_, ?_, ?_, by simp, by simp⟩
  · simp only [outcome, inputs]
    cbv
  · simp [inputs, place]
  · simp only [outcome, inputs]
    cbv

end ErrorTables.Run

import ErrorTables.Proofs.Listing.Writing

/-! Listings on streams that refuse lines.
A stream may refuse any line, for lack of room or because the number of the line is too long to be
written out. The caller goes on with the next group all the same; the lines that were accepted
count on without a gap, and a call that was refused has listed the entries in front of the refused
one.
-/

namespace ErrorTables.Listing

variable {σ ε : Type}

/-- The writer has written the listing of symbols, whatever its stream accepts from now on. -/
abbrev Writer.Lists (stream : Stream σ ε) (before : Writer σ) (symbols : List String)
    (after : Writer σ)
    : Prop :=
  Writer.Extends stream (fun _ => True) before symbols after

/-- The writer after calls for groups one after the other. A call that is refused a line does not
keep the others from being made.
-/
def Writer.writeOn (stream : Stream σ ε) (writer : Writer σ) (groups : List Group) : Writer σ :=
  groups.foldl (fun writer group => (writer.writeGroup stream group).1) writer

/-- What a call for a group lists and returns: the entries and their number, or those in front of an
entry whose line the stream refuses, and why. The refused line bears the number that is still next.
-/
inductive Writer.Answers (stream : Stream σ ε) (group : Group) (after : Writer σ)
    : List String → Except ε Nat → Prop
  | returned : Answers stream group after (symbols [group]) (.ok group.count)
  | refused {done failing later state error} (split : group.entries = done ++ failing :: later)
    (refusal : stream.write state (line group.name failing.tag after.next)
      = (after.stream, .error error))
    : Answers stream group after (symbols [{ group with entries := done }]) (.error error)

section Calls

variable {stream : Stream σ ε} {writer : Writer σ}

/-- A text that is refused leaves what the stream holds. -/
theorem Stream.content_of_refused {state next : σ} {text : String} {error : ε}
    (refused : stream.write state text = (next, .error error))
    : stream.content next = stream.content state := by
  have content := stream.content_write state text
  rwa [refused] at content

/-- Entries are listed up to the first one whose line is refused, by induction on the entries. -/
theorem Writer.writeEntries_lists (stream : Stream σ ε) (writer : Writer σ) (group : String)
    (entries : List Entry)
    : ∃ done rest after result,
        entries = done ++ rest
        ∧ writer.writeEntries stream group entries = (after, result)
        ∧ writer.Lists stream (done.map fun entry => group ++ "_" ++ entry.tag) after
        ∧ ((rest = [] ∧ result = .ok ())
          ∨ ∃ failing later state error, rest = failing :: later ∧ result = .error error
            ∧ stream.write state (line group failing.tag after.next)
              = (after.stream, .error error)) := by
  induction entries generalizing writer with
  | nil => exact ⟨[], [], writer, .ok (), rfl, rfl, .refl trivial, .inl ⟨rfl, rfl⟩⟩
  | cons entry rest ih =>
      rcases written : stream.write writer.stream (line group entry.tag writer.next) with
        ⟨state, error | _⟩
      · refine ⟨[], entry :: rest, { writer with stream := state }, .error error, rfl, ?_, ?_, ?_⟩
        · rw [Writer.writeEntries, written]
        · refine ⟨trivial, ?_, by simp⟩
          simpa [listingText] using Stream.content_of_refused written
        · exact .inr ⟨entry, rest, writer.stream, error, rfl, rfl, written⟩
      · obtain ⟨done, others, after, result, rfl, onward, lists, ends⟩ := ih ⟨state, writer.next + 1⟩
        refine ⟨entry :: done, others, after, result, rfl, ?_, ?_, ends⟩
        · rw [Writer.writeEntries, written]
          exact onward
        · have first : writer.Lists stream [group ++ "_" ++ entry.tag] ⟨state, writer.next + 1⟩ :=
            .line trivial (Stream.content_of_accepted written)
          exact first.trans lists

/-- A call for a group lists what it answers for. -/
theorem Writer.writeGroup_lists (stream : Stream σ ε) (writer : Writer σ) (group : Group)
    : ∃ added, writer.Lists stream added (writer.writeGroup stream group).1
      ∧ Writer.Answers stream group (writer.writeGroup stream group).1 added
        (writer.writeGroup stream group).2 := by
  obtain ⟨done, rest, after, result, split, written, lists, ends⟩ :=
    writer.writeEntries_lists stream group.name group.entries
  have reached : writer.writeGroup stream group = (after, result.map fun _ => group.count) := by
    rw [Writer.writeGroup, written]
  rw [reached]
  refine ⟨_, lists, ?_⟩
  rcases ends with ⟨rfl, rfl⟩ | ⟨failing, later, state, error, rfl, rfl, refusal⟩
  · rw [List.append_nil] at split
    have listed : done.map (fun entry => group.name ++ "_" ++ entry.tag) = symbols [group] := by
      simp [split]
    exact listed ▸ .returned
  · have listed : done.map (fun entry => group.name ++ "_" ++ entry.tag)
        = symbols [{ group with entries := done }] := by
      simp
    exact listed ▸ .refused split refusal

/-- Calls one after the other leave one listing, by induction on the groups. -/
theorem Writer.writeOn_lists (stream : Stream σ ε) (writer : Writer σ) (groups : List Group)
    : ∃ listed, writer.Lists stream listed (writer.writeOn stream groups) := by
  induction groups generalizing writer with
  | nil => exact ⟨[], .refl trivial⟩
  | cons group rest ih =>
      obtain ⟨added, first, -⟩ := writer.writeGroup_lists stream group
      obtain ⟨listed, others⟩ := ih (writer.writeGroup stream group).1
      exact ⟨added ++ listed, first.trans others⟩

end Calls

/-- A counter that survives refusals. Whatever lines the stream has refused to the calls for earlier
groups, it holds one line for each symbol listed so far, numbered on from the start up to the number
that is next. A call for one more group adds a line for each of its entries and returns their number,
or adds the lines of the entries in front of one that the stream refuses; in both cases the lines
are numbered on from those before.
-/
theorem writeGroup_counts_on (stream : Stream σ ε) (state : σ) (start : Int) (earlier : List Group)
    (group : Group)
    : let reached := Writer.writeOn stream ⟨state, start⟩ earlier
      let after := (reached.writeGroup stream group).1
      ∃ listed added,
        stream.content reached.stream = stream.content state ++ listingText start listed
        ∧ reached.next = start + listed.length
        ∧ stream.content after.stream = stream.content state ++ listingText start (listed ++ added)
        ∧ after.next = start + (listed ++ added).length
        ∧ Writer.Answers stream group after added (reached.writeGroup stream group).2 := by
  intro reached after
  obtain ⟨listed, before⟩ := Writer.writeOn_lists stream ⟨state, start⟩ earlier
  obtain ⟨added, call, answers⟩ := reached.writeGroup_lists stream group
  have whole := before.trans call
  exact ⟨listed, added, before.content, before.next, whole.content, whole.next, answers⟩

/-- A stream in memory that refuses the writes at which its plan says so. -/
def refusing : Stream (String × List Bool) Unit where
  content := Prod.fst
  write := fun (held, plan) text =>
    if plan.headD false then ((held, plan.tail), .error ())
    else ((held ++ text, plan.tail), .ok ())
  content_write := by
    intro ⟨held, plan⟩ text
    cases plan with
    | nil => rfl
    | cons refuses rest => cases refuses <;> rfl

example
    : let codes : Group := { name := "g", base := 1, entries := [⟨"A", "", 2⟩, ⟨"B", "", 3⟩] }
      let other : Group := { name := "h", base := 1, entries := [⟨"C", "", 2⟩] }
      let first := Writer.writeGroup refusing ⟨("", [false, true, true, false]), 9⟩ codes
      let last := Writer.writeOn refusing first.1 [codes, other]
      first.2 = .error () ∧ first.1.next = 10
      ∧ refusing.content last.stream = "g_A = 9\nh_C = 10\n" ∧ last.next = 11 := by
  decide

end ErrorTables.Listing

import ErrorTables.Proofs.Text.LineSplitting

/-! Line ends and how they are written.
A line feed, a carriage return, and both together are read as the same line end. Each line end of a
text may be written in any of these ways without a change to its lines, as long as no two of them
run together into one.
-/

namespace ErrorTables.Text

/-- The ways to write a line end. -/
inductive LineEnd where
  | feed
  | carriageReturn
  | pair
  deriving DecidableEq, Repr

namespace LineEnd

/-- The characters of a line end. -/
def chars : LineEnd → List Char
  | feed => ['\n']
  | carriageReturn => ['\r']
  | pair => ['\r', '\n']

/-- The line end does not run together with what follows it: it is no carriage return in front of a
line feed.
-/
def Apart (ending : LineEnd) (rest : List Char) : Prop :=
  ending = carriageReturn → rest.head? ≠ some '\n'

end LineEnd

/-- The second text is the first one with any of its line ends written in other ways. A carriage
return in front of a line feed is one line end with it, in either text: it is none of its own in the
first one, and it does not come to stand there in the second one.
-/
inductive Respelled : List Char → List Char → Prop
  | nil : Respelled [] []
  | char {c text other} (feed : c ≠ '\n') (returned : c ≠ '\r') (rest : Respelled text other)
    : Respelled (c :: text) (c :: other)
  | lineEnd {old new : LineEnd} {text other} (was : old.Apart text) (is : new.Apart other)
    (rest : Respelled text other)
    : Respelled (old.chars ++ text) (new.chars ++ other)

section Reading

variable {c : Char} {text other rest : List Char} {ending : LineEnd}

-----------------------------------------------------------------------------------------
-- One line end
-----------------------------------------------------------------------------------------

/-- Only a carriage return can run together with what follows it. -/
theorem LineEnd.apart_of_ne (differs : ending ≠ carriageReturn) : ending.Apart rest :=
  fun same => (differs same).elim

/-- A carriage return that stands apart has no line feed behind it. -/
theorem LineEnd.Apart.alone (apart : LineEnd.carriageReturn.Apart rest)
    : ∀ tail, '\r' = '\r' → rest = '\n' :: tail → False := by
  rintro tail - rfl
  exact apart rfl rfl

/-- A line end that stands apart ends a line, however it is written. -/
theorem splitLines_lineEnd (apart : ending.Apart rest)
    : splitLines (ending.chars ++ rest) = [] :: splitLines rest := by
  cases ending with
  | feed | pair => rfl
  | carriageReturn => exact splitLines.eq_3 '\r' rest apart.alone

/-- A line end that stands apart becomes a line feed, however it is written. -/
theorem unifyBreaks_lineEnd (apart : ending.Apart rest)
    : unifyBreaks (ending.chars ++ rest) = '\n' :: unifyBreaks rest := by
  cases ending with
  | feed | pair => rfl
  | carriageReturn => exact unifyBreaks.eq_3 '\r' rest apart.alone

-----------------------------------------------------------------------------------------
-- Texts with their line ends
-----------------------------------------------------------------------------------------

/-- Every text is made of characters that belong to no line end, and of line ends that stand apart.
-/
@[elab_as_elim]
theorem lineEnds_induction {motive : List Char → Prop} (nil : motive [])
    (char : ∀ c rest, c ≠ '\n' → c ≠ '\r' → motive rest → motive (c :: rest))
    (lineEnd : ∀ (ending : LineEnd) rest, ending.Apart rest → motive rest
      → motive (ending.chars ++ rest))
    (text : List Char)
    : motive text := by
  induction text using unifyBreaks.induct with
  | case1 => exact nil
  | case2 rest ih => exact lineEnd .pair rest (LineEnd.apart_of_ne (by decide)) ih
  | case3 c rest alone ih =>
      by_cases feed : c = '\n'
      · subst feed
        exact lineEnd .feed rest (LineEnd.apart_of_ne (by decide)) ih
      by_cases returned : c = '\r'
      · subst returned
        refine lineEnd .carriageReturn rest (fun _ first => ?_) ih
        obtain ⟨tail, followed⟩ := List.head?_eq_some_iff.mp first
        exact alone tail rfl followed
      · exact char c rest feed returned ih

/-- Unifying the breaks of a text writes its line ends in another way. -/
theorem respelled_unifyBreaks (text : List Char) : Respelled text (unifyBreaks text) := by
  induction text using lineEnds_induction with
  | nil => exact .nil
  | char c rest feed returned ih =>
      rw [unifyBreaks_cons returned]
      exact .char feed returned ih
  | lineEnd ending rest apart ih =>
      rw [unifyBreaks_lineEnd apart]
      have alone : LineEnd.feed.Apart (unifyBreaks rest) := LineEnd.apart_of_ne (by decide)
      exact .lineEnd apart alone ih

/-- Writing line ends in other ways does not show once the breaks are unified, by induction on what
is written in another way.
-/
theorem Respelled.unifyBreaks_eq (respelled : Respelled text other)
    : unifyBreaks text = unifyBreaks other := by
  induction respelled with
  | nil => rfl
  | char _ returned _ ih => rw [unifyBreaks_cons returned, unifyBreaks_cons returned, ih]
  | lineEnd was is _ ih => rw [unifyBreaks_lineEnd was, unifyBreaks_lineEnd is, ih]

/-- Texts that become the same when their breaks are unified differ in the writing of line ends at
most, by induction on the first one. What it starts with decides what the second one starts with.
-/
theorem respelled_of_unifyBreaks_eq (same : unifyBreaks text = unifyBreaks other)
    : Respelled text other := by
  induction text using lineEnds_induction generalizing other with
  | nil =>
      cases other using lineEnds_induction with
      | nil => exact .nil
      | char d more _ returned =>
          rw [unifyBreaks_cons returned] at same
          contradiction
      | lineEnd ending more apart =>
          rw [unifyBreaks_lineEnd apart] at same
          contradiction
  | char c rest feed returned ih =>
      rw [unifyBreaks_cons returned] at same
      cases other using lineEnds_induction with
      | nil => contradiction
      | char d more _ returned =>
          rw [unifyBreaks_cons returned, List.cons.injEq] at same
          obtain ⟨rfl, same⟩ := same
          exact .char feed returned (ih same)
      | lineEnd ending more apart =>
          rw [unifyBreaks_lineEnd apart, List.cons.injEq] at same
          exact (feed same.1).elim
  | lineEnd old rest was ih =>
      rw [unifyBreaks_lineEnd was] at same
      cases other using lineEnds_induction with
      | nil => contradiction
      | char d more feed returned =>
          rw [unifyBreaks_cons returned, List.cons.injEq] at same
          exact (feed same.1.symm).elim
      | lineEnd new more is =>
          rw [unifyBreaks_lineEnd is, List.cons.injEq] at same
          exact .lineEnd was is (ih same.2)

/-- Texts differ in the writing of line ends at most exactly if they become the same when their
breaks are unified.
-/
theorem respelled_iff : Respelled text other ↔ unifyBreaks text = unifyBreaks other :=
  ⟨Respelled.unifyBreaks_eq, respelled_of_unifyBreaks_eq⟩

instance (text other : List Char) : Decidable (Respelled text other) :=
  decidable_of_iff _ respelled_iff.symm

/-- The lines of a text do not depend on how its line ends are written, by induction on what is
written in another way.
-/
theorem Respelled.splitLines_eq (respelled : Respelled text other)
    : splitLines text = splitLines other := by
  induction respelled with
  | nil => rfl
  | char _ returned _ ih => rw [splitLines_cons returned, splitLines_cons returned, ih]
  | lineEnd was is _ ih => rw [splitLines_lineEnd was, splitLines_lineEnd is, ih]

end Reading

end ErrorTables.Text

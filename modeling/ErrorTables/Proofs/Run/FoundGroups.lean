import ErrorTables.Proofs.Definition.Loading
import ErrorTables.Proofs.Definition.RoundTrip
import ErrorTables.Proofs.Run.ListingSession

/-! The groups that inputs yield. They are what definitions say, so that their names and tags are
ones, and a run that succeeds has gone through all inputs that yield them.
-/

namespace ErrorTables.Run.Session

open Definition

variable {session last : Session} {inputs : List Path} {pair : String × Group}

/-- What inputs yield could be written down as a definition. -/
theorem writable_of_mem_found (member : pair ∈ session.found (inputs.map .process))
    : Definition.Group.Writable pair.2 := by
  induction inputs generalizing session with
  | nil => simp [found] at member
  | cons path rest ih =>
      rcases List.mem_append.mp member with here | later
      · unfold yield at here
        cases loaded : load session.files path with
        | error problem => simp [loaded] at here
        | ok groups =>
            simp only [loaded] at here
            obtain ⟨group, listed, rfl⟩ := List.mem_map.mp here
            obtain ⟨text, -, parsed⟩ := load_eq_ok_iff.mp loaded
            exact (representable_of_parseText parsed).each group listed
      · exact ih later

theorem isName_of_mem_found (member : pair ∈ session.found (inputs.map .process))
    : Text.isName pair.2.name.toList = true :=
  (writable_of_mem_found member).name

/-- Inputs that are all processed are so whether or not a failure would end the run. -/
theorem performAll_of_forEach_ok (done : forEach processFile session inputs = (last, .ok ()))
    : session.performAll (inputs.map .process) = last := by
  induction inputs generalizing session with
  | nil => exact (Prod.mk.inj done).1
  | cons path rest ih =>
      rw [forEach] at done
      rcases processed : session.processFile path with ⟨next, failure | _⟩
      · simp [processed] at done
      · rw [processed] at done
        rw [List.map_cons, performAll_cons, perform, processed]
        exact ih done

end ErrorTables.Run.Session

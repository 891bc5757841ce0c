import ErrorTables.Proofs.Definition.Loading
import ErrorTables.Proofs.FileSystem.Names
import ErrorTables.Proofs.Run.HeaderProgress

/-! The logs of a session that writes headers, over steps that may fail. A group is recorded before
its headers are written and a header is announced after it is written, so that what is announced is
all headers of the recorded groups but those that a failure kept from being written.
-/

namespace ErrorTables.Run

open Definition FileSystem Header

-----------------------------------------------------------------------------------------
-- What is logged
-----------------------------------------------------------------------------------------

/-- Groups as they are recorded, each with the paths that are announced for it. -/
abbrev WriteLog := List (GroupRecord × List Path)

/-- A step over an input, with the session that it begins in. -/
structure Stage where
  session : Session
  input : Path

namespace Stage

/-- How the step ends. -/
def result (stage : Stage) : Except Failure Unit :=
  (stage.session.processFile stage.input).2

end Stage

namespace Session

/-- The second session is the first one with more in its logs, and with changes at the announced
paths only.
-/
def AddsLog (before : Session) (log : WriteLog) (after : Session) : Prop :=
  ∃ writes, writes.map (·.1) = log.flatMap (·.2)
    ∧ Advances before (log.map (·.1)) writes after

section Steps

variable {session before between after next : Session} {log log' : WriteLog} {failure : Failure}
variable {source : String} {group : Group} {artifact : Artifact} {input : Path}

theorem AddsLog.refl (session : Session) : AddsLog session [] session :=
  ⟨[], rfl, .refl session⟩

theorem AddsLog.trans (first : AddsLog before log between) (second : AddsLog between log' after)
    : AddsLog before (log ++ log') after := by
  obtain ⟨writes, paths, advances⟩ := first
  obtain ⟨writes', paths', advances'⟩ := second
  refine ⟨writes ++ writes', ?_, ?_⟩
  · rw [List.map_append, List.flatMap_append, paths, paths']
  · rw [List.map_append]
    exact advances.trans advances'

end Steps

-----------------------------------------------------------------------------------------
-- Sequences of steps
-----------------------------------------------------------------------------------------

end Session

end ErrorTables.Run

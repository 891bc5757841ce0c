import ErrorTables.Definition.File
import ErrorTables.Proofs.Text.LineEnds

/-! Line ends in definition files. A text is read line by line, so that its groups and its first
error do not depend on how the line ends are written. A file is read with all line ends alike, which
is one of these ways.
-/

namespace ErrorTables.Definition

open Text

section Endings

variable {source : Option String} {text other content : String} {files : FileSystem} {path : Path}

/-- What a text defines is up to its lines. -/
theorem parseText_congr (same : splitLines text.toList = splitLines other.toList)
    : parseText source text = parseText source other := by
  rw [parseText, parseText, same]

/-- The text of a file has the lines of its content, though some breaks are written anew. -/
theorem splitLines_fileText (content : String)
    : splitLines (fileText content).toList = splitLines content.toList := by
  rw [fileText, String.toList_ofList]
  exact (respelled_unifyBreaks content.toList).splitLines_eq.symm

/-- What a file defines is what its content defines, as it stands. -/
theorem load_of_read (held : files.read path = .ok content.toUTF8)
    : load files path = (parseText (some path.toString) content).mapError .parse := by
  simp only [load, held, Utf8.decode_toUTF8, parseText_congr (splitLines_fileText content)]

/-- For every file of well-formed UTF-8, what is loaded is what its text defines, with the same
groups or the same error at the same line, though the file is read with all line ends alike. For all
texts that differ in the writing of their line ends, the same groups are read or the same error is
found at the same line, and so it is for the files that hold them.
-/
theorem parseText_respelled
    : (∀ (files : FileSystem) (path : Path) (bytes : ByteArray) (valid : bytes.IsValidUTF8),
        files.read path = .ok bytes
        → load files path
          = (parseText (some path.toString) (.fromUTF8 bytes valid)).mapError .parse)
      ∧ (∀ (source : Option String) (text other : String), Respelled text.toList other.toList
        → parseText source other = parseText source text)
      ∧ ∀ (files edited : FileSystem) (path : Path) (text other : String),
        Respelled text.toList other.toList → files.read path = .ok text.toUTF8
        → edited.read path = .ok other.toUTF8 → load edited path = load files path := by
  have alike (source : Option String) (text other : String)
      (respelled : Respelled text.toList other.toList)
      : parseText source other = parseText source text :=
    parseText_congr respelled.splitLines_eq.symm
  refine ⟨fun files path bytes valid held => load_of_read held, alike, ?_⟩
  intro files edited path text other respelled held rewritten
  rw [load_of_read held, load_of_read rewritten, alike _ _ _ respelled]

/-- A table with line ends of all three kinds, and a line separator. -/
def mixedTable : String := "g = 1 \"\" \x7b\r\nA x\u2028B y\r\r\x7d\n"

/-- The table with each of its line ends written in another way. -/
def rewrittenTable : String := "g = 1 \"\" \x7b\nA x\u2028B y\r\n\n\x7d\r"

/-- The table has one group and five lines, the fourth one empty, before and after its line ends are
written in other ways, and in a file as well.
-/
theorem parseText_respelled_mixed
    : let group : Group :=
        { name := "g", base := 1, line := 1, source := some "a"
          entries := [⟨"A", "x", 2⟩, ⟨"B", "y", 3⟩] }
      let files (text : String) : FileSystem := ⟨[(["a"], .file text.toUTF8)]⟩
      let path : Path := ⟨"", ["a"]⟩
      Respelled mixedTable.toList rewrittenTable.toList
      ∧ (files mixedTable).read path = .ok mixedTable.toUTF8
      ∧ (files rewrittenTable).read path = .ok rewrittenTable.toUTF8
      ∧ parseText (some "a") mixedTable = .ok [group]
      ∧ parseText (some "a") rewrittenTable = .ok [group]
      ∧ load (files mixedTable) path = .ok [group]
      ∧ load (files rewrittenTable) path = .ok [group] := by
  intro group files path
  have respelled : Respelled mixedTable.toList rewrittenTable.toList := by decide
  have held : (files mixedTable).read path = .ok mixedTable.toUTF8 := by cbv
  have rewritten : (files rewrittenTable).read path = .ok rewrittenTable.toUTF8 := by cbv
  have parsed : parseText (some "a") mixedTable = .ok [group] := rfl
  obtain ⟨loads, parses, reloads⟩ := parseText_respelled
  have loaded : load (files mixedTable) path = .ok [group] := by
    rw [loads _ _ _ mixedTable.isValidUTF8 held]
    exact congrArg (Except.mapError .parse) parsed
  refine ⟨respelled, held, rewritten, parsed, ?_, loaded, ?_⟩
  · rw [parses _ _ _ respelled, parsed]
  · rw [reloads _ _ _ _ _ respelled held rewritten, loaded]

-- A carriage return that comes to stand in front of a line feed takes a line away, and the error
-- behind it moves.
example
    : ¬ Respelled "\n\n\x7d".toList "\r\n\x7d".toList
      ∧ parseText none "\n\n\x7d" = .error ⟨.strayClosing, none, 3⟩
      ∧ parseText none "\r\n\x7d" = .error ⟨.strayClosing, none, 2⟩ :=
  ⟨by decide, rfl, rfl⟩

end Endings

end ErrorTables.Definition

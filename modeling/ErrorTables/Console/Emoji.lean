import ErrorTables.Console.EmojiTable
import ErrorTables.Text.Blank
import ErrorTables.Text.LowerCase

/-!
Emoji by their short names. A name between two colons is replaced by its emoji; it may ask for the
textual or the pictorial variant. What is no name stays as it is.
-/

namespace ErrorTables.Console

open Text

/-- The emoji of a name in a list of names and emoji that take turns. -/
def lookUpEmoji (name : List Char) : List (List Char) → Option (List Char)
  | key :: emoji :: rest => if key = name then some emoji else lookUpEmoji name rest
  | _ => none

/-- The emoji of a name in lower case. -/
def emoji? (name : List Char) : Option (List Char) :=
  lookUpEmoji name (splitBlanks emojiTable.toList)

/-- The endings of names that choose a variant, and the character that marks the variant. -/
def emojiVariants : List (List Char × Char) :=
  [("-emoji".toList, '\ufe0f'), ("-text".toList, '\ufe0e')]

/-- A name without the ending that chooses a variant, and the mark of the variant. -/
def splitVariant (name : List Char) : List Char × List Char :=
  match emojiVariants.find? fun variant => variant.1.isSuffixOf name with
  | some (ending, mark) => (name.take (name.length - ending.length), [mark])
  | none => (name, [])

/-- What stands for a name between colons. -/
def emojiOrName (name : List Char) : List Char :=
  let (key, mark) := splitVariant name
  match emoji? (lower key) with
  | some emoji => emoji ++ mark
  | none => ':' :: name ++ [':']

/-- The character neither closes a name nor is barred from it. -/
def isNameChar (c : Char) : Bool :=
  !(c == ':' || isBlank c)

/-- The text with its names of emoji replaced. A colon is used by one name at most. -/
def replaceEmoji (text : List Char) : List Char :=
  match text with
  | [] => []
  | c :: rest =>
      if c == ':' && (rest.dropWhile isNameChar).head? == some ':' then
        emojiOrName (rest.takeWhile isNameChar) ++ replaceEmoji (rest.dropWhile isNameChar).tail
      else c :: replaceEmoji rest
termination_by text.length
decreasing_by
  · have shorter := (List.dropWhile_sublist isNameChar (l := rest)).length_le
    simp only [List.length_tail, List.length_cons]
    omega
  · simp

end ErrorTables.Console

/-!
# Parts of a text

`holds`, `startsWith` and `endsWith` say where a word stands in a text, and `removeAll` takes every
occurrence of a word out of it.
-/

namespace RecordQuery.Text

/-- The text begins with the word. -/
def startsWith (s word : List Char) : Bool := word.isPrefixOf s

/-- The text ends with the word. -/
def endsWith (s word : List Char) : Bool := word.isSuffixOf s

/-- The word stands somewhere in the text. -/
def holds : List Char → List Char → Bool
  | [], word => word.isEmpty
  | c :: s, word => word.isPrefixOf (c :: s) || holds s word

/-- The text without a number of characters at its front and then without the word, wherever it
stands; occurrences are taken from the left and do not overlap. -/
def removeAfter (word : List Char) : Nat → List Char → List Char
  | _, [] => []
  | skip + 1, _ :: s => removeAfter word skip s
  | 0, c :: s =>
    if word.isPrefixOf (c :: s) then removeAfter word (word.length - 1) s
    else c :: removeAfter word 0 s

/-- The text without the word, wherever it stands. -/
def removeAll (word s : List Char) : List Char := removeAfter word 0 s

end RecordQuery.Text

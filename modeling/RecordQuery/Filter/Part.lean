import RecordQuery.Operator

/-!
# The parts of a filter

A filter is a row of terms with connectives between them. `Mark.ofText?` walks along a text and
tells the connectives from the characters of terms: a connective stands between blanks or the ends
of the text, and outside quotes. A quote opens at the front or behind a blank, an opening
parenthesis or a comma, and closes at the end or before a blank, a closing parenthesis or a comma.
`Part.ofText` gathers the marks to parts; where a quote stays open, no quote counts.
-/

namespace RecordQuery.Filter

open Text

/-- A character of a term, or a connective. -/
inductive Mark where
  /-- A character. -/
  | letter (c : Char)
  /-- A connective. -/
  | connective (k : Connective)
  deriving DecidableEq

/-- A part of a filter. -/
inductive Part where
  /-- A term, without blanks at its ends. -/
  | term (s : List Char)
  /-- A connective. -/
  | connective (k : Connective)
  deriving DecidableEq

/-- A quote. -/
def isQuote (c : Char) : Bool := c = '\x27' || c = '\x22'

/-- The neighbour of a word is a blank, or there is none. -/
def isEdge : Option Char → Bool
  | none => true
  | some c => isBlank c

/-- A quote behind this character opens. -/
def opensBehind : Option Char → Bool
  | none => true
  | some c => isBlank c || c = '(' || c = ','

/-- A quote before this character closes. -/
def closesBefore : Option Char → Bool
  | none => true
  | some c => isBlank c || c = ')' || c = ','

/-- The word stands at the front of a text, in letters of either case, and a blank or nothing stands
on either side of it. -/
def standsAt (before : Option Char) (s word : List Char) : Bool :=
  (s.take word.length).map Char.toLower = word && isEdge before && isEdge (s.drop word.length).head?

/-- The connective at the front of a text, with the length of its word. -/
def connectiveAt? (before : Option Char) (s : List Char) : Option (Connective × Nat) :=
  (Connective.words.find? fun entry => standsAt before s entry.1).map fun entry =>
    (entry.2, entry.1.length)

/-- Where a walk along a text stands. -/
structure Position where
  /-- The character before. -/
  before : Option Char
  /-- The quote that is open. -/
  quote : Option Char
  /-- The number of characters ahead that belong to a connective. -/
  ahead : Nat

/-- The front of a text, outside quotes. -/
def Position.front : Position := ⟨none, none, 0⟩

/-- The marks of a text from a position on, unless the text ends inside a quote. Quotes count only
if `quotes` is true. -/
def Mark.from? (quotes : Bool) : Position → List Char → Option (List Mark)
  | p, [] => if p.quote.isSome then none else some []
  | ⟨_, quote, ahead + 1⟩, c :: s => from? quotes ⟨some c, quote, ahead⟩ s
  | ⟨_, some q, 0⟩, c :: s =>
    let still := if c = q ∧ closesBefore s.head? then none else some q
    (from? quotes ⟨some c, still, 0⟩ s).map (.letter c :: ·)
  | ⟨before, none, 0⟩, c :: s =>
    if quotes ∧ isQuote c ∧ opensBehind before then
      (from? quotes ⟨some c, some c, 0⟩ s).map (.letter c :: ·)
    else
      match connectiveAt? before (c :: s) with
      | some (k, length) => (from? quotes ⟨some c, none, length - 1⟩ s).map (.connective k :: ·)
      | none => (from? quotes ⟨some c, none, 0⟩ s).map (.letter c :: ·)

/-- The marks of a text, unless it ends inside a quote. -/
def Mark.ofText? (quotes : Bool) (s : List Char) : Option (List Mark) := from? quotes .front s

/-- The parts with a term in front, unless it is blank. -/
def Part.consTerm (term : List Char) (parts : List Part) : List Part :=
  let s := trim term
  if s.isEmpty then parts else .term s :: parts

/-- The characters up to the first connective, and the parts from it on. -/
def Part.gather : List Mark → List Char × List Part
  | [] => ([], [])
  | .letter c :: marks => (c :: (gather marks).1, (gather marks).2)
  | .connective k :: marks => ([], .connective k :: consTerm (gather marks).1 (gather marks).2)

/-- The parts of a row of marks. -/
def Part.ofMarks (marks : List Mark) : List Part :=
  consTerm (gather marks).1 (gather marks).2

/-- The parts of a text. -/
def Part.ofText (quotes : Bool) (s : List Char) : List Part :=
  ofMarks (((Mark.ofText? quotes s).or (Mark.ofText? false s)).getD [])

/-- The word of a connective in small letters. -/
def connectiveWord (k : Connective) : List Char :=
  ((Connective.words.find? (·.2 = k)).map (·.1)).getD []

/-- The text of a part. -/
def Part.text : Part → List Char
  | term s => s
  | connective k => connectiveWord k

end RecordQuery.Filter

import Wobbly.CodePoint

/-! Text for a terminal. For a plain one, control characters other than the usual blanks
are dropped, and so is every control sequence that the escape character opens: a short
one ends with its final letter, one that carries a text at its terminator. A sequence
that never ends takes the rest of the text with it.

Filling puts a word on the current line while it fits and opens the next one otherwise;
a word too wide for a whole line is cut into pieces that fit. Width is counted in
columns, and control sequences take none. Blanks at the end of a line are dropped. -/
namespace Wobbly.Text

namespace Plain

-- Behind the escape character stands a punctuation mark, a terminal command, a command for
-- the device with its numbers and marks, or a text that a terminator or the bell ends.
inductive Place where
  | ground
  | escape
  | mark
  | command
  | device
  | deviceNumber
  | deviceMark
  | payload
  | title
  deriving DecidableEq

def isControl (char : Char) : Bool := decide (char.toNat < 0x20 ∨ char.toNat = 0x7F)

def isLayout (char : Char) : Bool := ['\t', '\n', '\x0c', '\r'].contains char

def isCancel (char : Char) : Bool := ['\x18', '\x1a'].contains char

def between (low high : Nat) (char : Char) : Bool :=
  decide (low ≤ char.toNat ∧ char.toNat ≤ high)

/-- A payload is read byte by byte, so its one-byte terminator also counts
inside the encoding of a longer character. -/
def holdsTerminator (char : Char) : Bool := (CodePoint.ofChar char).bytes.contains 0x9C

def Place.obeysLayout : Place → Bool
  | .escape | .mark | .command => true
  | _ => false

def Place.after (place : Place) (char : Char) : Place :=
  match place with
  | .ground => .ground
  | .escape =>
    if between 0x20 0x2F char then .mark
    else if char = '[' then .command
    else if char = ']' then .title
    else if char = 'P' then .device
    else if ['X', '^', '_'].contains char then .payload
    else if between 0x30 0x7E char then .ground
    else .escape
  | .mark => if between 0x30 0x7E char then .ground else .mark
  | .command => if between 0x40 0x7E char then .ground else .command
  | .device =>
    if between 0x20 0x2F char then .deviceMark
    else if between 0x30 0x3F char then .deviceNumber
    else if between 0x40 0x7E char then .payload
    else .device
  | .deviceNumber =>
    if between 0x20 0x2F char then .deviceMark
    else if between 0x3C 0x7E char then .payload
    else .deviceNumber
  | .deviceMark => if between 0x30 0x7E char then .payload else .deviceMark
  | .payload => if holdsTerminator char then .ground else .payload
  | .title => if char = '\x07' then .ground else .title

-- A sequence that a layout character cuts into is over, or it is taken up again at the
-- next control character.
inductive Interruption where
  | dropped
  | resumed
  deriving DecidableEq

structure Cursor where
  place : Place
  held : Place
  deriving DecidableEq

namespace Cursor

def start : Cursor := ⟨.ground, .ground⟩

def hold (interruption : Interruption) (place : Place) : Cursor :=
  match interruption with
  | .dropped => start
  | .resumed => ⟨.ground, place⟩

def step (interruption : Interruption) (cursor : Cursor) (char : Char) : Cursor × Bool :=
  if char = '\x1b' then (⟨.escape, .ground⟩, false)
  else if isCancel char then (start, false)
  else if cursor.place = .ground then
    if 0x80 ≤ char.toNat then (start, true)
    else if isLayout char || !isControl char then (cursor, true)
    else (⟨cursor.held, .ground⟩, false)
  else if cursor.place.obeysLayout && isLayout char then
    (hold interruption cursor.place, true)
  else (⟨cursor.place.after char, .ground⟩, false)

end Cursor

def shownFrom (interruption : Interruption) (cursor : Cursor) : List Char → List Char
  | [] => []
  | char :: rest =>
    let (next, shown) := cursor.step interruption char
    if shown then char :: shownFrom interruption next rest
    else shownFrom interruption next rest

def shown (interruption : Interruption) (text : String) : String :=
  .ofList (shownFrom interruption .start text.toList)

def firstLine (text : String) : String :=
  let chars := text.toList
  let line := chars.takeWhile (· ≠ '\n')
  .ofList (if line.length < chars.length ∧ line.getLast? = some '\r' then line.dropLast else line)

end Plain

namespace Fill

structure Cell where
  char : Char
  columns : Nat
  deriving DecidableEq

inductive Reach where
  | text
  | opened
  | numbers
  | title (last : Char)
  deriving DecidableEq

def Reach.after (reach : Reach) (char : Char) : Reach :=
  match reach with
  | .text => if char = '\x1b' then .opened else .text
  | .opened => if char = '[' then .numbers else if char = ']' then .title char else .text
  | .numbers => if 0x40 ≤ char.toNat ∧ char.toNat ≤ 0x7E then .text else .numbers
  | .title last =>
    if char = '\x07' ∨ (last = '\x1b' ∧ char = '\\') then .text else .title char

def Reach.cell (reach : Reach) (char : Char) : Cell :=
  ⟨char, if reach = .text then columns char else 0⟩

def cells : Reach → List Char → List Cell
  | _, [] => []
  | reach, char :: rest => reach.cell char :: cells (reach.after char) rest

-- A blank inside a control sequence takes no column and divides no words.
def Cell.isBlank (cell : Cell) : Bool := decide (cell = ⟨' ', 1⟩)

structure Word where
  cells : List Cell
  blanks : Nat
  deriving DecidableEq

def Word.columns (word : Word) : Nat :=
  word.cells.foldr (fun cell total => cell.columns + total) 0

def attach (cell : Cell) : List Word → List Word
  | [] => if cell.isBlank then [⟨[], 1⟩] else [⟨[cell], 0⟩]
  | word :: rest =>
    if !cell.isBlank then ⟨cell :: word.cells, word.blanks⟩ :: rest
    else if word.cells.isEmpty then ⟨[], word.blanks + 1⟩ :: rest
    else ⟨[], 1⟩ :: word :: rest

def words (text : List Cell) : List Word := text.foldr attach []

/-- Cuts a word into pieces of at most `limit` columns. `used` columns are taken
by the cells of the current piece, which are in `piece`, latest first. -/
def cut (limit blanks used : Nat) (piece : List Cell) : List Cell → List Word
  | [] => [⟨piece.reverse, blanks⟩]
  | cell :: rest =>
    if 0 < used ∧ limit < used + cell.columns then
      ⟨piece.reverse, 0⟩ :: cut limit blanks cell.columns [cell] rest
    else cut limit blanks (used + cell.columns) (cell :: piece) rest

/-- Splits words into lines. `used` columns of the current line are taken, its
words are in `current`, latest first, and `room` gives the columns of a line. -/
def lines (room : Nat → Nat) (number used : Nat) (current : List Word) :
    List Word → List (List Word)
  | [] => [current.reverse]
  | word :: rest =>
    if room number < used + word.columns ∧ !current.isEmpty then
      current.reverse :: lines room (number + 1) (word.columns + word.blanks) [word] rest
    else lines room number (used + word.columns + word.blanks) (word :: current) rest

def render : List Word → List Char
  | [] => []
  | [last] => last.cells.map Cell.char
  | word :: rest => word.cells.map Cell.char ++ List.replicate word.blanks ' ' ++ render rest

/-- The lines of a text without line breaks. An empty word in front lets even
the first line stay empty where a word fits only on the next one. -/
def paragraph (room : Nat → Nat) (text : String) : List (List Word) :=
  let pieces := (words (cells .text text.toList)).flatMap fun word =>
    cut (room 1) word.blanks 0 [] word.cells
  lines room 0 0 [] (⟨[], 0⟩ :: pieces)

def fill (width : Nat) (first rest : String) (text : String) : List String :=
  let lead (number : Nat) : String := if number = 0 then first else rest
  let room (number : Nat) : Nat := width - (lead number).length
  ((text.splitOn "\n").flatMap (paragraph room)).mapIdx fun number line =>
    lead number ++ .ofList (render line)

end Fill
end Wobbly.Text

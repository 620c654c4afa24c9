import Wobbly.CodePoint

/-! Text in which any code point may be spelled by its number. An escape opens
with a backslash, a `u` and a brace, and closes at the very next closing brace;
between them stand hex digits. Everything else stands for itself, so a backslash
needs no escape of its own. The leftmost bad escape decides the error. -/
namespace Wobbly.Text.Escape

def opener : List Char := ['\\', 'u', '\x7b']

def closer : Char := '\x7d'

def untilCloser? : List Char → Option (List Char × List Char)
  | [] => none
  | char :: rest =>
    if char = closer then some ([], rest)
    else (untilCloser? rest).map fun parts => (char :: parts.1, parts.2)

theorem until_closer_shorter (text inside after : List Char)
    (found : untilCloser? text = some (inside, after)) : after.length < text.length := by
  induction text generalizing inside with
  | nil => simp [untilCloser?] at found
  | cons char rest ih =>
      simp only [untilCloser?] at found
      split at found
      · cases found; simp
      · cases later : untilCloser? rest with
        | none => simp [later] at found
        | some parts =>
            simp only [later, Option.map_some, Option.some.injEq, Prod.mk.injEq] at found
            have shorter := ih parts.1 (by rw [later, ← found.2])
            simp only [List.length_cons]
            omega

/-- The code point that the digits of one escape spell. Numbers of more than
32 bits count as bad digits and not as code points out of range. -/
def spelled (digits : List Char) : Except EscapeError CodePoint :=
  if digits.isEmpty then .error (.invalidDigits "")
  else
    match Hex.value? digits with
    | none => .error (.invalidDigits (.ofList digits))
    | some value =>
      if 0x100000000 ≤ value then .error (.invalidDigits (.ofList digits))
      else
        match CodePoint.check value with
        | .ok point => .ok point
        | .error error => .error (.outOfRange error)

def byteLength (text : List Char) : Nat :=
  text.foldr (fun char total => char.utf8Size + total) 0

def readFrom (offset : Nat) (text : List Char) : Except EscapeError (List CodePoint) :=
  match text with
  | [] => .ok []
  | '\\' :: 'u' :: '\x7b' :: rest =>
    match found : untilCloser? rest with
    | none => .error (.unterminated offset)
    | some (digits, after) =>
      have := until_closer_shorter rest digits after found
      match spelled digits with
      | .error error => .error error
      | .ok point =>
        (readFrom (offset + 3 + byteLength digits + 1) after).map fun points => point :: points
  | char :: rest =>
    (readFrom (offset + char.utf8Size) rest).map fun points => .ofChar char :: points
termination_by text.length
decreasing_by all_goals simp only [List.length_cons]; omega

def read (text : String) : Except EscapeError (List CodePoint) := readFrom 0 text.toList

end Wobbly.Text.Escape

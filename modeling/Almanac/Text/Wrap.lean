import Almanac.Text.Blank
import Almanac.Text.Digit

/-!
# Filling text into lines

Help texts are filled into lines of a given width. Runs of blanks become single spaces and the
ends are trimmed. The text is then cut into pieces: words, the spaces between them, and the
parts of a hyphenated word, each part ending in its hyphen. A hyphen divides a word only when
two letters, or a letter, a hyphen and a letter, stand before it, and a letter, an optional
hyphen and a letter follow it.

Lines are filled greedily with whole pieces. A space that would begin a line other than the first
is dropped, and so is a space that ends a line. A piece longer than the whole width is broken:
the line takes as much of it as fits, and it is cut after its last hyphen in that part when
something other than hyphens stands before that hyphen.
-/

namespace Almanac

namespace Text

/-- Whether a character counts as a letter for dividing words: an ASCII letter, the underscore,
or any character beyond ASCII that is no digit. -/
def isWordLetter (c : Char) : Bool := c.isAlpha || c == '_' || (c.toNat > 127 && !isDigit c)

/-- Whether the blanks of this character class are collapsed: the ASCII blanks. -/
def isAsciiBlank (c : Char) : Bool :=
  c == ' ' || c == '\t' || c == '\n' || c == '\r' || c == '\x0b' || c == '\x0c'

/-- The text with runs of ASCII blanks made single spaces and the ends trimmed. -/
def collapseBlanks (text : String) : String :=
  let rec go : List Char → Bool → List Char
    | [], _ => []
    | c :: rest, afterBlank =>
      if isAsciiBlank c then (if afterBlank then go rest true else ' ' :: go rest true)
      else c :: go rest false
  trimBlank (String.ofList (go text.toList false))

/-- Whether a hyphen at this place divides the word: `before` holds the characters before it,
nearest first, and `after` those after it. -/
def dividesAt (before after : List Char) : Bool :=
  let behind := match before with
    | a :: b :: rest =>
      (isWordLetter a && isWordLetter b) ||
        (match rest with
         | c :: _ => isWordLetter a && b == '-' && isWordLetter c
         | [] => false)
    | _ => false
  let ahead := match after with
    | a :: '-' :: b :: _ => isWordLetter a && isWordLetter b
    | a :: b :: _ => isWordLetter a && isWordLetter b
    | _ => false
  behind && ahead

/-- The parts of a word, each hyphen that divides it closing a part. `before` holds the
characters already passed, nearest first, and `part` the current part, reversed. -/
def wordParts : List Char → List Char → List Char → List (List Char)
  | [], _, part => if part.isEmpty then [] else [part.reverse]
  | c :: rest, before, part =>
    if c == '-' && dividesAt before rest then
      (c :: part).reverse :: wordParts rest (c :: before) []
    else wordParts rest (c :: before) (c :: part)

/-- The words of a text of single spaces. -/
def spaceWords (cs : List Char) : List (List Char) :=
  (cs.splitOn ' ')

/-- The pieces of a collapsed text: word parts and single spaces. -/
def pieces (text : String) : List (List Char) :=
  let words := (spaceWords text.toList).map fun w => wordParts w [] []
  (words.intersperse [[' ']]).flatten

/-- The split of a piece longer than a line: the part that goes on the line and the rest. -/
def breakLong (piece : List Char) (room : Nat) : List Char × List Char :=
  let front := piece.take room
  -- the last hyphen within the room, if something other than hyphens stands before it
  let hyphen := (front.zipIdx.filter fun (c, _) => c == '-').getLast?.map (·.2)
  let cut := match hyphen with
    | some h => if h > 0 && (piece.take h).any (· != '-') then h + 1 else room
    | none => room
  (piece.take cut, piece.drop cut)

/-- Takes the pieces that fit on a line after `used` characters; gives the line's pieces and
the rest. -/
def fill (width : Nat) : List (List Char) → Nat → List (List Char) × List (List Char)
  | [], _ => ([], [])
  | p :: rest, used =>
    if used + p.length ≤ width then
      let (line, left) := fill width rest (used + p.length)
      (p :: line, left)
    else ([], p :: rest)

/-- The lines of pieces filled into a width; `fuel` bounds the number of lines. -/
def wrapPieces (width : Nat) : Nat → Bool → List (List Char) → List String
  | 0, _, _ => []
  | _, _, [] => []
  | fuel + 1, first, ps =>
    let ps := match ps with
      | [' '] :: rest => if first then ps else rest
      | _ => ps
    let (line, rest) := fill width ps 0
    let used := line.foldl (fun n p => n + p.length) 0
    let (line, rest) := match rest with
      | p :: more =>
        if p.length > width then
          let room := if width < 1 then 1 else width - used
          let (front, back) := breakLong p room
          (line ++ [front], if back.isEmpty then more else back :: more)
        else (line, rest)
      | [] => (line, rest)
    let line := match line.getLast? with
      | some [' '] => line.dropLast
      | _ => line
    let text := String.ofList line.flatten
    let lines := if line.isEmpty then [] else [text]
    lines ++ wrapPieces width fuel (first && line.isEmpty) rest

/-- The lines of a text filled into a width. -/
def wrap (text : String) (width : Nat) : List String :=
  let ps := pieces (collapseBlanks text)
  wrapPieces width (ps.foldl (fun n p => n + p.length + 1) 1) true ps

example : wrap "case-insensitive text search" 54 = ["case-insensitive text search"] := by
  decide +kernel
example : wrap "Print a table of Easter-dependent dates (Carnival, Ash Wednesday, Easter, ...)." 54 =
    ["Print a table of Easter-dependent dates (Carnival, Ash", "Wednesday, Easter, ...)."] := by
  decide +kernel

end Text

end Almanac

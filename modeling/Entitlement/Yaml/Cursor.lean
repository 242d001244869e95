/-!
A place in a YAML text: what is left to read, and where that stands. Lines end at a line feed, a
carriage return, the two together, or one of three breaks beyond ASCII.
-/

namespace Entitlement.Yaml

def isAllowed (c : Char) : Bool :=
  let n := c.toNat
  n == 0x09 || n == 0x0A || n == 0x0D || (0x20 ≤ n && n ≤ 0x7E) || n == 0x85 ||
    (0xA0 ≤ n && n ≤ 0xD7FF) || (0xE000 ≤ n && n ≤ 0xFFFD) || 0x10000 ≤ n

def isBreak (c : Char) : Bool :=
  c == '\n' || c == '\r' || c == '\u0085' || c == '\u2028' || c == '\u2029'

def isSpace (c : Char) : Bool := c == ' ' || c == '\t'

def isWordChar (c : Char) : Bool := c.isAlphanum || c == '-' || c == '_'

def endsWord : Option Char → Bool
  | none => true
  | some c => isSpace c || isBreak c

def byteLength (cs : List Char) : Nat := cs.foldl (fun n c => n + c.utf8Size) 0

structure Cursor where
  rest : List Char
  index : Nat := 0
  line : Nat := 0
  column : Nat := 0

namespace Cursor

def peek (cursor : Cursor) (ahead : Nat) : Option Char := cursor.rest[ahead]?

def sees (cursor : Cursor) (c : Char) : Bool := cursor.rest.head? == some c

def atEnd (cursor : Cursor) : Bool := cursor.rest.isEmpty

def skip (cursor : Cursor) (count : Nat) : Cursor where
  rest := cursor.rest.drop count
  index := cursor.index + byteLength (cursor.rest.take count)
  line := cursor.line
  column := cursor.column + count

def takeWhile (cursor : Cursor) (test : Char → Bool) : List Char × Cursor :=
  let taken := cursor.rest.takeWhile test
  (taken, cursor.skip taken.length)

def skipWhile (cursor : Cursor) (test : Char → Bool) : Cursor := (cursor.takeWhile test).2

/-- Moves past a line break. What it stands for is a line feed, except that the separators of lines
and paragraphs stand for themselves. -/
def takeBreak? (cursor : Cursor) : Option (Char × Cursor) :=
  let next (taken rest : List Char) : Cursor :=
    { rest, index := cursor.index + byteLength taken, line := cursor.line + 1, column := 0 }
  match cursor.rest with
  | '\r' :: '\n' :: rest => some ('\n', next ['\r', '\n'] rest)
  | c :: rest =>
    if c == '\u2028' || c == '\u2029' then some (c, next [c] rest)
    else if isBreak c then some ('\n', next [c] rest)
    else none
  | [] => none

/-- Past a byte-order mark, which may stand at the start of any line and takes up a column. -/
def skipMark (cursor : Cursor) : Cursor :=
  if cursor.column == 0 && cursor.sees '\ufeff' then cursor.skip 1 else cursor

/-- Blanks and a comment up to the end of the line, and the break there. -/
def finishLine? (cursor : Cursor) : Option Cursor :=
  let cursor := cursor.skipWhile isSpace
  let cursor := if cursor.sees '#' then cursor.skipWhile (! isBreak ·) else cursor
  match cursor.takeBreak? with
  | some (_, next) => some next
  | none => if cursor.atEnd then some cursor else none

def seesMarker (cursor : Cursor) (c : Char) : Bool :=
  cursor.column == 0 && cursor.rest.take 3 == [c, c, c] && endsWord (cursor.peek 3)

def seesDocumentMarker (cursor : Cursor) : Bool := cursor.seesMarker '-' || cursor.seesMarker '.'

end Cursor

end Entitlement.Yaml

import Entitlement.Text
import Entitlement.Yaml.Number

/-!
Writing texts as YAML scalars. A text is written as it is where it reads back as the same text.
Otherwise it is quoted, or written as a block if it has several lines.
-/

namespace Entitlement.Yaml

inductive Style where
  | plain | single | double | literal
deriving DecidableEq

def isPrintable (c : Char) : Bool :=
  let n := c.toNat
  n == 0x0A || (0x20 ≤ n && n ≤ 0x7E) || (0xA0 ≤ n && n ≤ 0xD7FF) || (0xE000 ≤ n && n ≤ 0xFFFD && n ≠ 0xFEFF) ||
    0x10000 ≤ n

def reservedWords : List String :=
  ["null", "Null", "NULL", "~", "true", "True", "TRUE", "false", "False", "FALSE"]

/-- A text that would not read as a text if it were not quoted, or not for every reader. -/
def isAmbiguous (s : String) : Bool := s.isEmpty || reservedWords.contains s || isNumber s || isPadded s

def isLeadingIndicator (c : Char) : Bool :=
  isFlowIndicator c || [0x23, 0x26, 0x2A, 0x21, 0x7C, 0x3E, 0x27, 0x22, 0x25, 0x40, 0x60].contains c.toNat

/-- A character in its place among its neighbours, that would end a plain scalar or begin another
kind of node. -/
def isMarkup (before after : Option Char) (c : Char) : Bool :=
  if before.isNone then
    isLeadingIndicator c || ((c == '?' || c == ':' || c == '-') && endsWord after)
  else (c == ':' && endsWord after) || (c == '#' && endsWord before)

/-- Whether some character, with the one before it and the one after it, passes the test. -/
def anyInPlace (test : Option Char → Option Char → Char → Bool) : Option Char → List Char → Bool
  | _, [] => false
  | before, c :: rest => test before rest.head? c || anyInPlace test (some c) rest

/-- What the characters of a text allow. -/
structure Shape where
  plain : Bool
  single : Bool
  literal : Bool

def shapeOf (s : String) : Shape :=
  let cs := s.toList
  let edge (test : Char → Bool) : Bool := cs.head?.any test || cs.getLast?.any test
  let special := cs.any (! isPrintable ·)
  let spaceBeforeBreak := anyInPlace (fun _ after c => c == ' ' && after.any isBreak) none cs
  let spaceAfterBreak := anyInPlace (fun before _ c => c == ' ' && before.any isBreak) none cs
  let markup := cs.take 3 == ['-', '-', '-'] || cs.take 3 == ['.', '.', '.'] || anyInPlace isMarkup none cs
  let quotable := !special && !spaceBeforeBreak
  { plain := quotable && !markup && !edge (· == ' ') && !cs.any isBreak
    single := quotable && !spaceAfterBreak
    literal := quotable && cs.getLast? ≠ some ' ' }

def styleOf (s : String) : Style :=
  let shape := shapeOf s
  if s.contains '\n' then (if shape.literal then .literal else .double)
  else if shape.plain && !isAmbiguous s then .plain
  else if shape.single then .single
  else .double

def upperHex (width n : Nat) : List Char := (Text.hexPadded width n).toList.map Char.toUpper

def doubleQuoted (c : Char) : List Char :=
  if isPrintable c && !isBreak c && c ≠ '"' && c ≠ '\\' then [c]
  else
    match escapes.find? fun (letter, char) => char == c && letter ≠ '\t' && letter ≠ '/' with
    | some (letter, _) => ['\\', letter]
    | none =>
      let n := c.toNat
      if n ≤ 0xFF then '\\' :: 'x' :: upperHex 2 n
      else if n ≤ 0xFFFF then '\\' :: 'u' :: upperHex 4 n
      else '\\' :: 'U' :: upperHex 8 n

/-- Lines after a break start at the indentation, empty ones apart. -/
def indentLines (indent : Nat) : Bool → List Char → List Char
  | _, [] => []
  | atStart, c :: rest =>
    if isBreak c then c :: indentLines indent true rest
    else
      let before := if atStart then List.replicate indent ' ' else []
      before ++ c :: indentLines indent false rest

/-- A quote inside single quotes is written twice. -/
def doubleQuotes (cs : List Char) : List Char := cs.flatMap fun c => if c == '\'' then [c, c] else [c]

/-- What the header of a literal block says: that it begins with a blank, and how it ends. -/
def literalHeader (cs : List Char) : List Char :=
  let breaks := (cs.reverse.takeWhile isBreak).length
  let start := if cs.head?.any fun c => c == ' ' || isBreak c then ['2'] else []
  let ending :=
    if breaks == 0 then ['-'] else if breaks == 1 && 1 < cs.length then [] else ['+']
  '|' :: start ++ ending

/-- A text as the value of a key, from the colon to the end of the line. The lines of a text that
spans several are indented. -/
def writeValue (indent : Nat) (s : String) : String :=
  let cs := s.toList
  let lines (cs : List Char) : List Char := indentLines indent false cs
  let closing := if cs.getLast?.any isBreak then List.replicate indent ' ' else []
  String.ofList <| match styleOf s with
  | .plain => ' ' :: cs ++ ['\n']
  | .single => " '".toList ++ lines (doubleQuotes cs) ++ closing ++ "'\n".toList
  | .double => " \"".toList ++ cs.flatMap doubleQuoted ++ "\"\n".toList
  | .literal =>
    ' ' :: literalHeader cs ++ ['\n'] ++ indentLines indent true cs
      ++ (if cs.getLast?.any isBreak then [] else ['\n'])

end Entitlement.Yaml

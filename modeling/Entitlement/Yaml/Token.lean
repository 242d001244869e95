import Entitlement.Text
import Entitlement.Yaml.Cursor

/-!
The tokens of a YAML text, and those that take one scalar, one tag or one directive. A tag is written with escapes
of single bytes, so it need not be a text.
-/

namespace Entitlement.Yaml

/-! ### Tags -/

structure Tag where
  bytes : List UInt8
deriving DecidableEq

namespace Tag

def ofText (s : String) : Tag := ⟨s.toList.flatMap String.utf8EncodeChar⟩

def text? (tag : Tag) : Option String := String.fromUTF8? ⟨tag.bytes.toArray⟩

def null : Tag := ofText "tag:yaml.org,2002:null"

/-- The word that a tag names after its exclamation mark; a mark alone names itself. Tags without a
mark name none. -/
def word? (tag : Tag) : Option String := do
  match (← tag.text?).toList with
  | ['!'] => return "!"
  | '!' :: word => return String.ofList word
  | _ => none

/-- A zero byte ends a piece of a tag. -/
def upToZero (bytes : List UInt8) : List UInt8 := bytes.takeWhile (· != 0)

end Tag

/-! ### Tokens -/

inductive Token where
  | version (major minor : Nat)
  /-- A handle, and the bytes that begin the tags written with it. -/
  | tagDirective (handle : String) (start : List UInt8)
  | documentStart
  | documentEnd
  | blockSequenceStart
  | blockMappingStart
  | blockEnd
  | flowSequenceStart
  | flowSequenceEnd
  | flowMappingStart
  | flowMappingEnd
  | blockEntry
  | flowEntry
  | key
  | value
  | alias (name : String)
  | anchor (name : String)
  | tag (handle : String) (suffix : List UInt8)
  | scalar (plain : Bool) (text : String)
deriving DecidableEq

inductive Gap where
  | nothing
  | spaces (text : List Char)
  /-- A line break, and the breaks of the empty lines after it. -/
  | lines (first : Char) (more : List Char)

namespace Gap

/-- A single line feed is folded to a space; with empty lines after it, only theirs are kept. -/
def text : Gap → List Char
  | nothing => []
  | spaces text => text
  | lines first more =>
    if first ≠ '\n' then first :: more else if more.isEmpty then [' '] else more

/-- The gap spans more than one line. -/
def isBroken : Gap → Bool
  | lines .. => true
  | nothing | spaces _ => false

/-- The breaks of empty lines, where a tab left of `indent` is refused. -/
def emptyLines (indent : Int) : Nat → Cursor → Option (List Char × Cursor)
  | 0, _ => none
  | fuel + 1, cursor => do
    let (blanks, next) := cursor.takeWhile isSpace
    let tabs := blanks.zipIdx.any fun (c, i) => c == '\t' && (cursor.column + i : Int) < indent
    if tabs then none
    else
      match next.takeBreak? with
      | none => return ([], next)
      | some (c, next) => do
        let (more, next) ← emptyLines indent fuel next
        return (c :: more, next)

def scan (indent : Int) (cursor : Cursor) : Option (Gap × Cursor) := do
  let (blanks, next) := cursor.takeWhile isSpace
  match next.takeBreak? with
  | none => return (if blanks.isEmpty then nothing else spaces blanks, next)
  | some (c, next) => do
    let (more, next) ← emptyLines indent (next.rest.length + 1) next
    return (lines c more, next)

end Gap

/-! ### Quoted scalars -/

/-- What a character stands for after a backslash. -/
def escapes : List (Char × Char) := [
  ('0', '\x00'), ('a', '\x07'), ('b', '\x08'), ('t', '\t'), ('\t', '\t'), ('n', '\n'), ('v', '\x0b'),
  ('f', '\x0c'), ('r', '\r'), ('e', '\x1b'), (' ', ' '), ('"', '"'), ('/', '/'), ('\\', '\\'),
  ('N', '\u0085'), ('_', '\u00a0'), ('L', '\u2028'), ('P', '\u2029')]

/-- How many hexadecimal digits follow the letter of a numeric escape. -/
def codeWidth? : Char → Option Nat
  | 'x' => some 2
  | 'u' => some 4
  | 'U' => some 8
  | _ => none

def charOf? (n : Nat) : Option Char := if n.isValidChar then some (Char.ofNat n) else none

/-- The character that the escape at the cursor stands for. -/
def scanEscape? (cursor : Cursor) : Option (Char × Cursor) := do
  let c ← cursor.peek 1
  match codeWidth? c with
  | some width =>
    let digits := (cursor.rest.drop 2).take width
    if digits.length = width then
      let char ← charOf? (← Text.readDigits? 16 digits)
      return (char, cursor.skip (2 + width))
    else none
  | none =>
    let (_, char) ← escapes.find? (·.1 == c)
    return (char, cursor.skip 2)

/-- The characters up to white space or the closing quote. The flag says that an escaped line break
was met, after which the blanks of the next line do not count. -/
def scanWord (quote : Char) : Nat → Cursor → Option (List Char × Bool × Cursor)
  | 0, _ => none
  | fuel + 1, cursor =>
    match cursor.rest with
    | [] => some ([], false, cursor)
    | c :: rest =>
      if isSpace c || isBreak c then some ([], false, cursor)
      else if c == quote then
        if quote == '\'' && rest.head? == some '\'' then do
          let (text, broken, next) ← scanWord quote fuel (cursor.skip 2)
          return ('\'' :: text, broken, next)
        else some ([], false, cursor)
      else if quote == '"' && c == '\\' then
        match (cursor.skip 1).takeBreak? with
        | some (_, next) => some ([], true, next)
        | none => do
          let (char, next) ← scanEscape? cursor
          let (text, broken, next) ← scanWord quote fuel next
          return (char :: text, broken, next)
      else do
        let (text, broken, next) ← scanWord quote fuel (cursor.skip 1)
        return (c :: text, broken, next)

def scanQuotedRest (quote : Char) : Nat → Cursor → Option (List Char × Cursor)
  | 0, _ => none
  | fuel + 1, cursor => do
    if cursor.seesDocumentMarker || cursor.atEnd then none
    else
      let (word, broken, next) ← scanWord quote (cursor.rest.length + 1) cursor
      if next.sees quote then return (word, next.skip 1)
      else if broken then
        let (more, next) ← Gap.emptyLines 0 (next.rest.length + 1) next
        let (text, next) ← scanQuotedRest quote fuel next
        return (word ++ more ++ text, next)
      else
        let (gap, next) ← Gap.scan 0 next
        let (text, next) ← scanQuotedRest quote fuel next
        return (word ++ gap.text ++ text, next)

def scanQuoted (quote : Char) (cursor : Cursor) : Option (Token × Cursor) := do
  let (text, next) ← scanQuotedRest quote (cursor.rest.length + 1) (cursor.skip 1)
  return (.scalar false (String.ofList text), next)

/-! ### Plain scalars -/

def isFlowIndicator (c : Char) : Bool := c == ',' || c == '[' || c == ']' || c == '\x7b' || c == '\x7d'

/-- A colon ends a plain scalar before white space; within brackets, so do commas and brackets. -/
def endsPlain (inFlow : Bool) (c : Char) (next : Option Char) : Bool :=
  (c == ':' && endsWord next) || (inFlow && isFlowIndicator c)

/-- Within brackets a colon may not stand before an indicator inside a plain scalar. -/
def misplacedColon (inFlow : Bool) (c : Char) (next : Option Char) : Bool :=
  inFlow && c == ':' && next.any fun d => isFlowIndicator d || d == '?'

/-- The characters of a plain scalar up to white space. -/
def scanPlainWord (inFlow : Bool) : List Char → Option (List Char)
  | [] => some []
  | c :: rest =>
    if endsWord (some c) then some []
    else if misplacedColon inFlow c rest.head? then none
    else if endsPlain inFlow c rest.head? then some []
    else do return c :: (← scanPlainWord inFlow rest)

structure PlainText where
  text : List Char
  broken : Bool
  next : Cursor

/-- The rest of a plain scalar after a gap. The lines of the scalar are indented at least as far as
`indent`, unless it stands within brackets. -/
def scanPlainRest (inFlow : Bool) (indent : Int) : Nat → Gap → Cursor → Option PlainText
  | 0, _, _ => none
  | fuel + 1, gap, cursor => do
    if cursor.seesDocumentMarker || cursor.sees '#' then return ⟨[], gap.isBroken, cursor⟩
    else
      let word ← scanPlainWord inFlow cursor.rest
      if word.isEmpty then return ⟨[], gap.isBroken, cursor⟩
      else
        let (after, next) ← Gap.scan indent (cursor.skip word.length)
        let text := gap.text ++ word
        match after with
        | .nothing => return ⟨text, false, next⟩
        | .spaces _ | .lines .. =>
          if !inFlow && (next.column : Int) < indent then return ⟨text, after.isBroken, next⟩
          else
            let rest ← scanPlainRest inFlow indent fuel after next
            return ⟨text ++ rest.text, rest.broken, rest.next⟩

/-- A plain scalar; the flag says whether it was followed by a line break. -/
def scanPlain (inFlow : Bool) (indent : Int) (cursor : Cursor) : Option (Token × Bool × Cursor) := do
  let found ← scanPlainRest inFlow indent (cursor.rest.length + 1) .nothing cursor
  return (.scalar true (String.ofList found.text), found.broken, found.next)

/-! ### Block scalars -/

/-- What becomes of the line breaks at the end of a block scalar. -/
inductive Chomping where
  | strip | clip | keep
deriving DecidableEq

/-- The header of a block scalar: how its end is chomped, and its indentation if it is given. -/
def scanBlockHeader (cursor : Cursor) : Option (Chomping × Option Nat × Cursor) :=
  let chomping? (cursor : Cursor) : Option Chomping :=
    match cursor.rest.head? with
    | some '+' => some .keep
    | some '-' => some .strip
    | _ => none
  let digit? (cursor : Cursor) : Option Nat :=
    (cursor.rest.head?.filter Char.isDigit).map (·.toNat - 48)
  match chomping? cursor, digit? cursor with
  | some chomping, _ =>
    let next := cursor.skip 1
    match digit? next with
    | some 0 => none
    | some n => some (chomping, some n, next.skip 1)
    | none => some (chomping, none, next)
  | none, some 0 => none
  | none, some n =>
    let next := cursor.skip 1
    match chomping? next with
    | some chomping => some (chomping, some n, next.skip 1)
    | none => some (.clip, some n, next)
  | none, none => some (.clip, none, cursor)

/-- Skips the indentation of empty lines and takes their breaks. Without a known indentation it also
finds the widest one. -/
def scanBlockBreaks (indent : Option Nat) : Nat → Nat → Cursor → Option (List Char × Nat × Cursor)
  | 0, _, _ => none
  | fuel + 1, widest, cursor => do
    let spaces := (cursor.rest.takeWhile (· == ' ')).length
    let count := match indent with
      | some n => min spaces (n - cursor.column)
      | none => spaces
    let next := cursor.skip count
    let widest := max widest next.column
    if next.sees '\t' && indent.all (next.column < ·) then none
    else
      match next.takeBreak? with
      | none => return ([], widest, next)
      | some (c, next) => do
        let (more, widest, next) ← scanBlockBreaks indent fuel widest next
        return (c :: more, widest, next)

structure BlockText where
  text : List Char
  /-- The last line break of the text, if its last line has one. -/
  last : List Char
  /-- The breaks of the empty lines after it. -/
  trailing : List Char
  next : Cursor

/-- The lines of a block scalar. `last` is the break before the cursor, `breaks` those of the empty
lines after it, and `blank` says that the line before began with white space. -/
def scanBlockLines (literal : Bool) (indent : Nat) (last breaks : List Char) (blank : Bool) :
    Nat → Cursor → Option BlockText
  | 0, _ => none
  | fuel + 1, cursor => do
    if cursor.column == indent && !cursor.atEnd then
      let startsBlank := cursor.rest.head?.any isSpace
      let folded := !literal && last == ['\n'] && !blank && !startsBlank
      let joint := if folded then (if breaks.isEmpty then [' '] else breaks) else last ++ breaks
      let (line, next) := cursor.takeWhile (! isBreak ·)
      let (last, next) := match next.takeBreak? with
        | some (c, next) => ([c], next)
        | none => ([], next)
      let (breaks, _, next) ← scanBlockBreaks (some indent) (next.rest.length + 1) 0 next
      let found ← scanBlockLines literal indent last breaks startsBlank fuel next
      return { found with text := joint ++ line ++ found.text }
    else return ⟨[], last, breaks, cursor⟩

def scanBlock (literal : Bool) (outer : Int) (cursor : Cursor) : Option (Token × Cursor) := do
  let (chomping, given, next) ← scanBlockHeader (cursor.skip 1)
  let next ← next.finishLine?
  let given := given.map fun n => if 0 ≤ outer then outer.toNat + n else n
  let (breaks, widest, next) ← scanBlockBreaks given (next.rest.length + 1) 0 next
  let indent := given.getD (max widest (max (outer + 1) 1).toNat)
  let found ← scanBlockLines literal indent [] breaks false (next.rest.length + 1) next
  let ending := match chomping with
    | .strip => []
    | .clip => found.last
    | .keep => found.last ++ found.trailing
  return (.scalar false (String.ofList (found.text ++ ending)), found.next)

/-! ### Anchors, tags and directives -/

/-- The name of an anchor or an alias, which ends at white space or an indicator. -/
def scanName (cursor : Cursor) : Option (String × Cursor) :=
  let (name, next) := (cursor.skip 1).takeWhile isWordChar
  let ends := endsWord next.rest.head? ||
    next.rest.head?.any fun c => [0x3F, 0x3A, 0x2C, 0x5D, 0x7D, 0x25, 0x40, 0x60].contains c.toNat
  if name.isEmpty || !ends then none else some (String.ofList name, next)

/-- How many bytes a character takes up whose first byte is given. -/
def widthOf? (first : Nat) : Option Nat :=
  if first < 0x80 then some 1
  else if first / 0x20 == 6 then some 2
  else if first / 0x10 == 14 then some 3
  else if first / 8 == 30 then some 4
  else none

/-- The bytes written by escapes of two hexadecimal digits. As many belong together as the first
says; whether they are a character does not matter. -/
def scanUriEscape? (cursor : Cursor) : Option (List UInt8 × Cursor) := do
  let byte? (i : Nat) : Option Nat :=
    match cursor.rest.drop (3 * i) with
    | '%' :: a :: b :: _ => Text.readDigits? 16 [a, b]
    | _ => none
  let first ← byte? 0
  let width ← widthOf? first
  let more ← (List.range (width - 1)).mapM fun i => (byte? (i + 1)).filter (· / 0x40 == 2)
  return ((first :: more).map Nat.toUInt8, cursor.skip (3 * width))

/-- The bytes of a URI; `full` says whether commas and brackets are among its characters. -/
def scanUri (full : Bool) : Nat → Cursor → Option (List UInt8 × Cursor)
  | 0, _ => none
  | fuel + 1, cursor =>
    match cursor.rest with
    | [] => some ([], cursor)
    | c :: _ =>
      let plain := isWordChar c || ";/?:@&=+$.!~*'()".toList.contains c || (full && ",[]".toList.contains c)
      if c == '%' then do
        let (bytes, next) ← scanUriEscape? cursor
        let (more, next) ← scanUri full fuel next
        return (bytes ++ more, next)
      else if plain then do
        let (more, next) ← scanUri full fuel (cursor.skip 1)
        return (c.toNat.toUInt8 :: more, next)
      else some ([], cursor)

def scanUriFrom (full : Bool) (cursor : Cursor) : Option (List UInt8 × Cursor) :=
  scanUri full (cursor.rest.length + 1) cursor

/-- A handle: an exclamation mark, word characters and another mark if there is one. -/
def scanHandle (cursor : Cursor) : Option (List Char × Cursor) :=
  if cursor.sees '!' then
    let (name, next) := (cursor.skip 1).takeWhile isWordChar
    if next.sees '!' then some ('!' :: name ++ ['!'], next.skip 1) else some ('!' :: name, next)
  else none

def endsTag (inFlow : Bool) (cursor : Cursor) : Bool :=
  endsWord cursor.rest.head? || (inFlow && cursor.sees ',')

/-- A tag. One without a handle of its own has the handle of a single mark, and a mark alone is a tag
as it stands. -/
def scanTag (inFlow : Bool) (cursor : Cursor) : Option (Token × Cursor) := do
  let (handle, suffix, next) ←
    if cursor.peek 1 == some '<' then do
      let (uri, next) ← scanUriFrom true (cursor.skip 2)
      if uri.isEmpty || !next.sees '>' then none else some ([], Tag.upToZero uri, next.skip 1)
    else do
      let (handle, next) ← scanHandle cursor
      let (uri, next) ← scanUriFrom false next
      if 2 ≤ handle.length && handle.getLast? == some '!' then
        if uri.isEmpty then none else some (handle, Tag.upToZero uri, next)
      else
        let suffix := Tag.upToZero ((Tag.ofText (String.ofList (handle.drop 1))).bytes ++ uri)
        if suffix.isEmpty then some ([], (Tag.ofText "!").bytes, next) else some (['!'], suffix, next)
  if endsTag inFlow next then return (.tag (String.ofList handle) suffix, next) else none

def scanNumber (cursor : Cursor) : Option (Nat × Cursor) :=
  let (digits, next) := cursor.takeWhile Char.isDigit
  if digits.isEmpty || 9 < digits.length then none
  else some (digits.foldl (fun n c => n * 10 + (c.toNat - 48)) 0, next)

/-- A directive: the version of YAML or what a handle of tags stands for. -/
def scanDirective (cursor : Cursor) : Option (Token × Cursor) := do
  let (name, next) := (cursor.skip 1).takeWhile isWordChar
  if !endsWord next.rest.head? then none
  else
    let next := next.skipWhile isSpace
    if name == "YAML".toList then
      let (major, next) ← scanNumber next
      if !next.sees '.' then none
      else
        let (minor, next) ← scanNumber (next.skip 1)
        return (.version major minor, ← next.finishLine?)
    else if name == "TAG".toList then
      let (handle, next) ← scanHandle next
      if (handle.length != 1 && handle.getLast? != some '!') || !next.rest.head?.any isSpace then none
      else
        let (start, next) ← scanUriFrom true (next.skipWhile isSpace)
        if start.isEmpty || !endsWord next.rest.head? then none
        else return (.tagDirective (String.ofList handle) (Tag.upToZero start), ← next.finishLine?)
    else none

end Entitlement.Yaml

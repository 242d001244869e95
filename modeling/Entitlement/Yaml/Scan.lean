import Entitlement.Yaml.Token

/-!
From a YAML text to its tokens. Indentation opens and closes blocks. What may turn out to be a key is
known only at the colon after it: until then it is a candidate, and the token of the key is put before
it afterwards.
-/

namespace Entitlement.Yaml

/-- A place where a key may have begun. -/
structure Candidate where
  position : Nat
  cursor : Cursor
  /-- At this indentation only a key may stand, so the colon has to follow. -/
  required : Bool

structure Scan where
  cursor : Cursor
  tokens : Array Token := #[]
  /-- The column of the innermost block; outside of any block it is -1. -/
  indent : Int := -1
  outer : List Int := []
  keyAllowed : Bool := true
  candidate : Option Candidate := none
  /-- The candidates around the brackets that are open, innermost first. -/
  enclosing : List (Option Candidate) := []

namespace Scan

def inFlow (scan : Scan) : Bool := !scan.enclosing.isEmpty

def push (scan : Scan) (token : Token) : Scan := { scan with tokens := scan.tokens.push token }

/-- Adds a token that takes up some characters of the line. -/
def pushSkipping (scan : Scan) (token : Token) (count : Nat) : Scan :=
  { scan with tokens := scan.tokens.push token, cursor := scan.cursor.skip count }

/-- A key takes no more than one line and 1024 bytes. -/
def isStale (cursor : Cursor) (candidate : Candidate) : Bool :=
  candidate.cursor.line < cursor.line || candidate.cursor.index + 1024 < cursor.index

def dropStale (cursor : Cursor) : Option Candidate → Option (Option Candidate)
  | some candidate =>
    if isStale cursor candidate then (if candidate.required then none else some none)
    else some (some candidate)
  | none => some none

/-- Drops the candidates that can no longer be keys. -/
def dropStaleCandidates (scan : Scan) : Option Scan := do
  let candidate ← dropStale scan.cursor scan.candidate
  let enclosing ← scan.enclosing.mapM (dropStale scan.cursor)
  return { scan with candidate, enclosing }

def dropCandidate (scan : Scan) : Option Scan :=
  if scan.candidate.any (·.required) then none else some { scan with candidate := none }

/-- A key may begin here, where one is allowed. -/
def noteCandidate (scan : Scan) : Option Scan := do
  if scan.keyAllowed then
    let scan ← scan.dropCandidate
    let required := !scan.inFlow && scan.indent == scan.cursor.column
    return { scan with candidate := some ⟨scan.tokens.size, scan.cursor, required⟩ }
  else return scan

/-- Opens a block at a column that is further in. Its first token goes to a position. -/
def openBlock (scan : Scan) (column : Nat) (position : Nat) (token : Token) : Scan :=
  if !scan.inFlow && scan.indent < column then
    { scan with
      indent := column
      outer := scan.indent :: scan.outer
      tokens := scan.tokens.insertIdxIfInBounds position token }
  else scan

/-- Closes the blocks that are further in than the column. -/
def closeBlocks (scan : Scan) (column : Int) : Scan :=
  if scan.inFlow then scan else go scan.outer scan
where
  go : List Int → Scan → Scan
    | [], scan => scan
    | indent :: outer, scan =>
      if column < scan.indent then
        go outer { scan with indent, outer, tokens := scan.tokens.push .blockEnd }
      else scan

/-- Moves on to the next token, past byte-order marks, blanks, comments and line breaks. Outside of brackets a tab may
not stand where a key is allowed. -/
def toNextToken : Nat → Scan → Scan
  | 0, scan => scan
  | fuel + 1, scan =>
    let tabs := scan.inFlow || !scan.keyAllowed
    let cursor := scan.cursor.skipMark.skipWhile fun c => c == ' ' || (tabs && c == '\t')
    let cursor := if cursor.sees '#' then cursor.skipWhile (! isBreak ·) else cursor
    match cursor.takeBreak? with
    | some (_, cursor) =>
      toNextToken fuel { scan with cursor, keyAllowed := scan.keyAllowed || !scan.inFlow }
    | none => { scan with cursor }

/-- Leaves all blocks, before a directive, a document marker or the end. -/
def leaveBlocks (scan : Scan) : Option Scan := do
  let scan ← (scan.closeBlocks (-1)).dropCandidate
  return { scan with keyAllowed := false }

def directive (scan : Scan) : Option Scan := do
  let scan ← scan.leaveBlocks
  let (token, cursor) ← scanDirective scan.cursor
  return { scan.push token with cursor }

def documentMarker (scan : Scan) (token : Token) : Option Scan := do
  return (← scan.leaveBlocks).pushSkipping token 3

def openFlow (scan : Scan) (token : Token) : Option Scan := do
  let scan ← scan.noteCandidate
  return { scan.pushSkipping token 1 with
    candidate := none, enclosing := scan.candidate :: scan.enclosing, keyAllowed := true }

def closeFlow (scan : Scan) (token : Token) : Option Scan := do
  let scan ← scan.dropCandidate
  let scan := { scan.pushSkipping token 1 with keyAllowed := false }
  match scan.enclosing with
  | candidate :: enclosing => return { scan with candidate, enclosing }
  | [] => return scan

def flowEntry (scan : Scan) : Option Scan := do
  return { (← scan.dropCandidate).pushSkipping .flowEntry 1 with keyAllowed := true }

/-- Opens a block at the cursor, where a key is allowed. -/
def openHere (scan : Scan) (token : Token) : Option Scan :=
  if scan.inFlow then some scan
  else if scan.keyAllowed then some (scan.openBlock scan.cursor.column scan.tokens.size token)
  else none

def blockEntry (scan : Scan) : Option Scan := do
  let scan ← (← scan.openHere .blockSequenceStart).dropCandidate
  return { scan.pushSkipping .blockEntry 1 with keyAllowed := true }

def explicitKey (scan : Scan) : Option Scan := do
  let scan ← (← scan.openHere .blockMappingStart).dropCandidate
  return { scan.pushSkipping .key 1 with keyAllowed := !scan.inFlow }

/-- A colon makes a key of the candidate, or else stands for a value without a key. -/
def value (scan : Scan) : Option Scan := do
  match scan.candidate with
  | some candidate =>
    let scan := { scan with
      tokens := scan.tokens.insertIdxIfInBounds candidate.position .key, candidate := none }
    let scan := scan.openBlock candidate.cursor.column candidate.position .blockMappingStart
    return { scan.pushSkipping .value 1 with keyAllowed := false }
  | none =>
    let scan ← scan.openHere .blockMappingStart
    return { scan.pushSkipping .value 1 with keyAllowed := !scan.inFlow }

/-- A token that may be a key, or begin one. -/
def content (scan : Scan) (read : Cursor → Option (Token × Cursor)) : Option Scan := do
  let scan ← scan.noteCandidate
  let (token, cursor) ← read scan.cursor
  return { scan.push token with cursor, keyAllowed := false }

def named (make : String → Token) (cursor : Cursor) : Option (Token × Cursor) :=
  (scanName cursor).map fun (name, next) => (make name, next)

def blockScalar (scan : Scan) (literal : Bool) : Option Scan := do
  let scan ← scan.dropCandidate
  let (token, cursor) ← scanBlock literal scan.indent scan.cursor
  return { scan.push token with cursor, keyAllowed := true }

def plainScalar (scan : Scan) : Option Scan := do
  let scan ← scan.noteCandidate
  let (token, broken, cursor) ← scanPlain scan.inFlow (scan.indent + 1) scan.cursor
  return { scan.push token with cursor, keyAllowed := broken }

/-- Characters that do not begin a plain scalar; three of them may if no white space follows. -/
def isIndicator (c : Char) : Bool :=
  isFlowIndicator c ||
    [0x2D, 0x3F, 0x3A, 0x23, 0x26, 0x2A, 0x21, 0x7C, 0x3E, 0x27, 0x22, 0x25, 0x40, 0x60].contains c.toNat

def beginsPlain (inFlow : Bool) (c : Char) (next : Option Char) : Bool :=
  (!isIndicator c && !isSpace c) || (c == '-' && !next.any isSpace) ||
    (!inFlow && (c == '?' || c == ':') && !endsWord next)

def token (scan : Scan) (c : Char) : Option Scan :=
  let cursor := scan.cursor
  let next := cursor.peek 1
  let word := endsWord next
  if c == '%' && cursor.column == 0 then scan.directive
  else if cursor.seesMarker '-' then scan.documentMarker .documentStart
  else if cursor.seesMarker '.' then scan.documentMarker .documentEnd
  else if c == '[' then scan.openFlow .flowSequenceStart
  else if c == '\x7b' then scan.openFlow .flowMappingStart
  else if c == ']' then scan.closeFlow .flowSequenceEnd
  else if c == '\x7d' then scan.closeFlow .flowMappingEnd
  else if c == ',' then scan.flowEntry
  else if c == '-' && word then scan.blockEntry
  else if c == '?' && (scan.inFlow || word) then scan.explicitKey
  else if c == ':' && (scan.inFlow || word) then scan.value
  else if c == '*' then scan.content (named .alias)
  else if c == '&' then scan.content (named .anchor)
  else if c == '!' then scan.content (scanTag scan.inFlow)
  else if c == '|' && !scan.inFlow then scan.blockScalar true
  else if c == '>' && !scan.inFlow then scan.blockScalar false
  else if c == '\'' || c == '"' then scan.content (scanQuoted c)
  else if beginsPlain scan.inFlow c next then scan.plainScalar
  else none

/-- Takes one token after the other up to the end of the text. -/
def tokensFrom : Nat → Scan → Option (List Token)
  | 0, _ => none
  | fuel + 1, scan => do
    let scan ← (toNextToken (scan.cursor.rest.length + 1) scan).dropStaleCandidates
    match scan.cursor.rest with
    | [] => return (← scan.leaveBlocks).tokens.toList
    | c :: _ => tokensFrom fuel (← (scan.closeBlocks scan.cursor.column).token c)

end Scan

def tokens? (text : String) : Option (List Token) :=
  let chars := text.toList
  if chars.all isAllowed then Scan.tokensFrom (chars.length + 1) { cursor := { rest := chars } } else none

end Entitlement.Yaml

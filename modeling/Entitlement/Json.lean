import Entitlement.Text

/-!
JSON values as they are written: fields keep their order. The compact form has no blanks; the
indented form has one entry a line.
-/

namespace Entitlement

inductive Json where
  | null
  | bool (value : Bool)
  | number (value : Int)
  | text (value : String)
  | list (items : List Json)
  | object (fields : List (String × Json))

namespace Json

instance : Inhabited Json := ⟨null⟩

def escaped (c : Char) : List Char :=
  if c == '"' then ['\\', '"']
  else if c == '\\' then ['\\', '\\']
  else if c == '\n' then ['\\', 'n']
  else if c == '\r' then ['\\', 'r']
  else if c == '\t' then ['\\', 't']
  else if c == '\x08' then ['\\', 'b']
  else if c == '\x0c' then ['\\', 'f']
  else if c.toNat < 0x20 then ['\\', 'u'] ++ (Text.hexPadded 4 c.toNat).toList
  else [c]

/-- A text between double quotes. Only quotes, backslashes and controls are escaped. -/
def quote (s : String) : String := String.ofList ('"' :: s.toList.flatMap escaped ++ ['"'])

def ofOption {α : Type} (encode : α → Json) : Option α → Json
  | some value => encode value
  | none => null

def texts (items : List String) : Json := list (items.map text)

mutual

def compact : Json → String
  | null => "null"
  | bool value => if value then "true" else "false"
  | number value => toString value
  | text value => quote value
  | list items => "[" ++ String.intercalate "," (compactItems items) ++ "]"
  | object fields => "\x7b" ++ String.intercalate "," (compactFields fields) ++ "\x7d"

def compactItems : List Json → List String
  | [] => []
  | item :: rest => compact item :: compactItems rest

def compactFields : List (String × Json) → List String
  | [] => []
  | (name, value) :: rest => (quote name ++ ":" ++ compact value) :: compactFields rest

end

/-- Entries on lines of their own, one step deeper than the brackets around them. -/
def bracket (opening closing indent : String) : List String → String
  | [] => opening ++ closing
  | entries =>
    let inner := indent ++ "  "
    opening ++ "\n" ++ inner ++ String.intercalate (",\n" ++ inner) entries ++ "\n" ++ indent ++ closing

mutual

def indentedFrom (indent : String) : Json → String
  | list items => bracket "[" "]" indent (indentedItems (indent ++ "  ") items)
  | object fields => bracket "\x7b" "\x7d" indent (indentedFields (indent ++ "  ") fields)
  | null => compact null
  | bool value => compact (bool value)
  | number value => compact (number value)
  | text value => compact (text value)

def indentedItems (indent : String) : List Json → List String
  | [] => []
  | item :: rest => indentedFrom indent item :: indentedItems indent rest

def indentedFields (indent : String) : List (String × Json) → List String
  | [] => []
  | (name, value) :: rest =>
    (quote name ++ ": " ++ indentedFrom indent value) :: indentedFields indent rest

end

def indented (value : Json) : String := indentedFrom "" value

end Json

end Entitlement

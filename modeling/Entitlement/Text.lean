/-!
Characters and texts: case and digits of ASCII alone, white space as Unicode defines it (`White_Space`),
the fields of a text between separators, and tables over code points.
-/

namespace Entitlement.Text

/-! ### ASCII -/

/-- `A` to `Z` in lower case, every other character unchanged. -/
def asciiLower (s : String) : String := String.ofList (s.toList.map Char.toLower)

def sameAsciiLetters (s t : String) : Bool := asciiLower s == asciiLower t

def hexDigit? (c : Char) : Option Nat :=
  if '0' ≤ c && c ≤ '9' then some (c.toNat - '0'.toNat)
  else if 'a' ≤ c && c ≤ 'f' then some (c.toNat - 'a'.toNat + 10)
  else if 'A' ≤ c && c ≤ 'F' then some (c.toNat - 'A'.toNat + 10)
  else none

/-- The number that digits stand for in a base of at most 16; `none` if there are others among them. -/
def readDigits? (base : Nat) (cs : List Char) : Option Nat :=
  cs.foldlM (fun n c => ((hexDigit? c).filter (· < base)).map (n * base + ·)) 0

/-- The lower-case hexadecimal digits of `n`, without leading zeros. -/
def hex (n : Nat) : String := String.ofList (Nat.toDigits 16 n)

def hexPadded (width n : Nat) : String :=
  let digits := Nat.toDigits 16 n
  String.ofList (List.replicate (width - digits.length) '0' ++ digits)

/-! ### White space -/

def isBlank (c : Char) : Bool :=
  let n := c.toNat
  (0x09 ≤ n && n ≤ 0x0D) || n == 0x20 || n == 0x85 || n == 0xA0 || n == 0x1680 ||
    (0x2000 ≤ n && n ≤ 0x200A) || n == 0x2028 || n == 0x2029 || n == 0x202F || n == 0x205F || n == 0x3000

def trim (s : String) : String :=
  String.ofList ((s.toList.dropWhile isBlank).reverse.dropWhile isBlank).reverse

/-- Nothing is left of the text once it is trimmed. -/
def blank (s : String) : Bool := s.toList.all isBlank

/-! ### Fields -/

def fields (separator : Char) (s : String) : List String := (s.toList.splitOn separator).map String.ofList

/-! ### Tables of code points -/

/-- The last row that starts at or below `c`, where the rows start in ascending order. -/
def rowAt? {α : Type} (start : α → Nat) (rows : Array α) (c : Nat) : Option α :=
  go rows.size 0 rows.size
where
  go : Nat → Nat → Nat → Option α
    | 0, _, _ => none
    | fuel + 1, lo, hi =>
      if lo < hi then
        let mid := (lo + hi) / 2
        match rows[mid]? with
        | none => none
        | some row => if start row ≤ c then (go fuel (mid + 1) hi).or (some row) else go fuel lo mid
      else none

/-- A set of code points as an ascending table of closed ranges. -/
abbrev Ranges := Array (Nat × Nat)

def Ranges.contains (ranges : Ranges) (c : Nat) : Bool :=
  match rowAt? (·.1) ranges c with
  | some (_, last) => c ≤ last
  | none => false

end Entitlement.Text

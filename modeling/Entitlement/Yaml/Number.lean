import Entitlement.Yaml.Token

/-!
Texts that a reader of YAML takes for a number: whole numbers with a mark of their base, decimals, the
infinities and what is not a number.
-/

namespace Entitlement.Yaml

/-- The value of digits in a base; `none` if there are no digits or others. -/
def readNumeral? (base : Nat) (cs : List Char) : Option Nat :=
  if cs.isEmpty then none else Text.readDigits? base cs

/-- A whole number with a mark of its base. It has at most 128 bits, and one fewer if it is negative. -/
def isBasedInteger (negative : Bool) (cs : List Char) : Bool :=
  let fits (n : Nat) : Bool := if negative then n ≤ 1 <<< 127 else n < 1 <<< 128
  match cs with
  | '0' :: 'x' :: digits => (readNumeral? 16 digits).any fits
  | '0' :: 'o' :: digits => (readNumeral? 8 digits).any fits
  | '0' :: 'b' :: digits => (readNumeral? 2 digits).any fits
  | _ => false

/-- The sign and the digits of an exponent; no exponent is zero. -/
def readExponent? : List Char → Option Int
  | [] => some 0
  | c :: cs =>
    if c == 'e' || c == 'E' then
      match cs with
      | '-' :: digits => (readNumeral? 10 digits).map fun n => -(n : Int)
      | '+' :: digits => (readNumeral? 10 digits).map Int.ofNat
      | digits => (readNumeral? 10 digits).map Int.ofNat
    else none

/-- `mantissa` · 10^`exponent` rounds to a finite double: it lies below the largest double and half a
unit of its last place. -/
def isFinite (mantissa : Nat) (exponent : Int) : Bool :=
  let size := (Nat.toDigits 10 mantissa).length
  if mantissa == 0 || (size : Int) + exponent < 300 then true
  else if 400 < (size : Int) + exponent then false
  else
    let bound := 1 <<< 1024 - 1 <<< 970
    if 0 ≤ exponent then mantissa * Nat.pow 10 exponent.toNat < bound
    else mantissa < bound * Nat.pow 10 (-exponent).toNat

/-- Digits, with a point or an exponent among them or without. -/
def isDecimal (cs : List Char) : Bool :=
  let whole := cs.takeWhile Char.isDigit
  let (fraction, rest) := match cs.dropWhile Char.isDigit with
    | '.' :: rest => (rest.takeWhile Char.isDigit, rest.dropWhile Char.isDigit)
    | rest => ([], rest)
  match readNumeral? 10 (whole ++ fraction), readExponent? rest with
  | some mantissa, some exponent => isFinite mantissa (exponent - fraction.length)
  | _, _ => false

def isInfinity (cs : List Char) : Bool := [".inf", ".Inf", ".INF"].contains (String.ofList cs)

def isNotANumber (s : String) : Bool := [".nan", ".NaN", ".NAN"].contains s

def isMagnitude (negative : Bool) (cs : List Char) : Bool :=
  isBasedInteger negative cs || isDecimal cs || isInfinity cs

def splitSign : List Char → Bool × List Char
  | '-' :: cs => (true, cs)
  | '+' :: cs => (false, cs)
  | cs => (false, cs)

def isNumber (s : String) : Bool :=
  let (negative, magnitude) := splitSign s.toList
  isMagnitude negative magnitude || isNotANumber s

/-- Digits that begin with a zero, after a sign or without. Not every reader takes them for the same
number. -/
def isPadded (s : String) : Bool :=
  let (_, digits) := splitSign s.toList
  1 < digits.length && digits.head? == some '0' && digits.all Char.isDigit

end Entitlement.Yaml

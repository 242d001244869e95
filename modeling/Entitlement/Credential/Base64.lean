/-!
Base64 without padding: three bytes to four characters, and one or two bytes at the end to two or
three. A text is read only if it is the one that its bytes are written as.
-/

namespace Entitlement.Base64

def digits : List Char := "ABCDEFGHIJKLMNOPQRSTUVWXYZabcdefghijklmnopqrstuvwxyz0123456789+/".toList

def digit (n : Nat) : Char := digits.getD (n % 64) 'A'

def value? (c : Char) : Option Nat := digits.idxOf? c

def encodeBytes : List UInt8 → List Char
  | a :: b :: c :: rest =>
    let n := a.toNat * 65536 + b.toNat * 256 + c.toNat
    digit (n / 262144) :: digit (n / 4096) :: digit (n / 64) :: digit n :: encodeBytes rest
  | [a, b] =>
    let n := a.toNat * 1024 + b.toNat * 4
    [digit (n / 4096), digit (n / 64), digit n]
  | [a] =>
    let n := a.toNat * 16
    [digit (n / 64), digit n]
  | [] => []

def encode (bytes : List UInt8) : String := String.ofList (encodeBytes bytes)

/-- The bytes of the values of the characters; a last group may not have bits to spare. -/
def decodeValues : List Nat → Option (List UInt8)
  | a :: b :: c :: d :: rest => do
    let n := a * 262144 + b * 4096 + c * 64 + d
    return UInt8.ofNat (n / 65536) :: UInt8.ofNat (n / 256) :: UInt8.ofNat n :: (← decodeValues rest)
  | [a, b, c] =>
    if c % 4 = 0 then
      let n := (a * 4096 + b * 64 + c) / 4
      some [UInt8.ofNat (n / 256), UInt8.ofNat n]
    else none
  | [a, b] => if b % 16 = 0 then some [UInt8.ofNat ((a * 64 + b) / 16)] else none
  | [_] => none
  | [] => some []

def decode? (s : String) : Option (List UInt8) := (s.toList.mapM value?).bind decodeValues

end Entitlement.Base64

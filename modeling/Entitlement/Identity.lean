import Std.Data.TreeMap
import Entitlement.Text

/-!
Identities. An entity keeps the identity it was created with whatever its name becomes, and a session
keeps the one it was opened with. Identities are compared by their number and shown as UUIDs: 32 hexadecimal
digits, written in groups of 8, 4, 4, 4 and 12 with hyphens between them. Reading also takes the digits without
hyphens, and the hyphenated form in braces or after `urn:uuid:`.
-/

namespace Entitlement.Text.Uuid

/-- The hyphenated form, in lower case. -/
def write (n : Nat) : String :=
  let digits := (hexPadded 32 n).toList
  let head := digits.length - 24
  let group (start size : Nat) : String := String.ofList ((digits.drop start).take size)
  String.intercalate "-"
    [group 0 head, group head 4, group (head + 4) 4, group (head + 8) 4, group (head + 12) 12]

/-- The digits of a hyphenated form; `none` unless the hyphens stand where they belong. -/
def joinGroups? (cs : List Char) : Option (List Char) :=
  let hyphens := [8, 13, 18, 23].all fun i => cs[i]? == some '-'
  if cs.length == 36 && hyphens then
    some (cs.take 8 ++ (cs.drop 9).take 4 ++ (cs.drop 14).take 4 ++ (cs.drop 19).take 4 ++ cs.drop 24)
  else none

/-- The part of the text that holds the digits, without what may stand around it. -/
def unwrap (cs : List Char) : List Char :=
  if cs.length == 38 && cs.head? == some '\x7b' && cs.getLast? == some '\x7d' then cs.tail.dropLast
  else if cs.length == 45 && cs.take 9 == "urn:uuid:".toList then cs.drop 9
  else cs

def read? (s : String) : Option Nat :=
  let cs := s.toList
  if cs.length == 32 then readDigits? 16 cs else (joinGroups? (unwrap cs)).bind (readDigits? 16)

end Entitlement.Text.Uuid

namespace Entitlement

@[ext]
structure EntityId where
  number : Nat
deriving DecidableEq

namespace EntityId

instance : Ord EntityId := ⟨fun a b => compare a.number b.number⟩

instance : Std.TransOrd EntityId := inferInstanceAs (Std.TransCmp (compareOn EntityId.number))

instance : Std.LawfulEqOrd EntityId where
  compare_self := (inferInstance : Std.ReflCmp (compare : Nat → Nat → Ordering)).compare_self
  eq_of_compare {a b} h := by
    cases a
    cases b
    exact congrArg EntityId.mk
      ((inferInstance : Std.LawfulEqCmp (compare : Nat → Nat → Ordering)).eq_of_compare h)

def text (id : EntityId) : String := Text.Uuid.write id.number

def read? (s : String) : Option EntityId := (Text.Uuid.read? s).map EntityId.mk

end EntityId

structure SessionId where
  number : Nat
deriving DecidableEq

def SessionId.text (id : SessionId) : String := Text.Uuid.write id.number

end Entitlement

import Entitlement.Files

/-!
Files held in memory. Each lies at a place, the names of the folders that lead to it and its own; the
folders are those that lead to some file or to the home, which is there even if it is empty.
-/

namespace Entitlement

structure FileTree where
  home : List String
  files : List (List String × List UInt8)

namespace FileTree

inductive Entry where
  | folder
  | file (bytes : List UInt8)

def below (tree : FileTree) (place : List String) : Option Entry :=
  match tree.files.find? (·.1 == place) with
  | some (_, bytes) => some (.file bytes)
  | none => if place.isEmpty || tree.files.any (place.isPrefixOf ·.1) then some .folder else none

def entry? (tree : FileTree) (place : List String) : Option Entry :=
  if tree.home.isPrefixOf place then tree.below (place.drop tree.home.length)
  else if place.isPrefixOf tree.home then some .folder
  else none

def textOf (bytes : List UInt8) : Except FileFault String :=
  match String.fromUTF8? ⟨bytes.toArray⟩ with
  | some s => .ok s
  | none => .error .notText

/-- The most bytes in a name and in a path. -/
def nameLimit : Nat := 255

def pathLimit : Nat := 4095

/-- Follows the parts of a path from a folder. Two dots lead back, and a file leads nowhere. -/
def walk (tree : FileTree) : List String → List String → Except FileFault String
  | _, [] => .error .isDirectory
  | place, part :: rest =>
    if Path.isIdle part then tree.walk place rest
    else if part == ".." then tree.walk place.dropLast rest
    else if nameLimit < part.utf8ByteSize then .error .nameTooLong
    else
      match tree.entry? (place ++ [part]) with
      | none => .error .missing
      | some .folder => tree.walk (place ++ [part]) rest
      | some (.file bytes) => if rest.isEmpty then textOf bytes else .error .notDirectory

def read (tree : FileTree) (path : String) : Except FileFault String :=
  if path.contains '\x00' then .error .nulInPath
  else if pathLimit < path.utf8ByteSize then .error .nameTooLong
  else if Path.isAbsolute path then tree.walk [] (Text.fields '/' path)
  else .error .missing

end FileTree

end Entitlement

import Entitlement.Text

/-!
File paths and the ways in which reading a text file fails. Paths are separated by slashes, and one
that starts with a slash is absolute.
-/

namespace Entitlement

inductive FileFault where
  | missing | notDirectory | isDirectory | nameTooLong | notText | nulInPath
  /-- A fault in the words of the system. -/
  | other (text : String)
deriving DecidableEq

def FileFault.text : FileFault → String
  | missing => "No such file or directory (os error 2)"
  | notDirectory => "Not a directory (os error 20)"
  | isDirectory => "Is a directory (os error 21)"
  | nameTooLong => "File name too long (os error 36)"
  | notText => "stream did not contain valid UTF-8"
  | nulInPath => "file name contained an unexpected NUL byte"
  | other text => text

abbrev ReadFile (m : Type → Type) : Type := String → m (Except FileFault String)

namespace Path

def isAbsolute (path : String) : Bool := path.startsWith "/"

/-- `path` as seen from `directory`: an absolute path stands for itself. -/
def join (directory path : String) : String :=
  if isAbsolute path then path
  else if directory.isEmpty || directory.endsWith "/" then directory ++ path
  else directory ++ "/" ++ path

/-- The components of a path: the texts between slashes, where empty ones and all single dots but a
leading one do not count. -/
def components (path : String) : List String :=
  match Text.fields '/' path with
  | "." :: rest => "." :: rest.filter fun part => part != "" && part != "."
  | parts => parts.filter fun part => part != "" && part != "."

def isIdle (part : String) : Bool := part == "" || part == "."

/-- The directory of a file: the path without its last component. The name of a file alone lies in the
empty path. -/
def directory (path : String) : String :=
  let trimmed := (Text.fields '/' path).reverse.dropWhile isIdle
  match trimmed.tail.reverse with
  | [] => ""
  | first :: rest =>
    let parts := first :: (rest.reverse.dropWhile isIdle).reverse
    if parts == [""] then "/" else String.intercalate "/" parts

end Path

end Entitlement

/-!
# Files by path

`Files` is a directory of files: names, and the bytes under each of them. A path leads from the
directory, or from the root if it starts with a slash, and what lies around the directory is known
only to be directories. Paths and their steps have a greatest length.
-/

namespace MetricRing

/-- Why a file could not be read. -/
inductive FileError where
  | missing
  | notDirectory
  | isDirectory
  | denied
  | longName
  | nulCharacter
  | notText
  deriving DecidableEq, Repr

def FileError.message : FileError → String
  | .missing => "No such file or directory (os error 2)"
  | .notDirectory => "Not a directory (os error 20)"
  | .isDirectory => "Is a directory (os error 21)"
  | .denied => "Permission denied (os error 13)"
  | .longName => "File name too long (os error 36)"
  | .nulCharacter => "file name contained an unexpected NUL byte"
  | .notText => "stream did not contain valid UTF-8"

abbrev Files := List (String × List UInt8)

namespace Files

/-- The most bytes of a path. -/
def maxPath : Nat := 4095

/-- The most bytes of a step. -/
def maxStep : Nat := 255

/-- Follows the steps of a path from a directory; the first fault on the way counts. -/
def follow (files : Files) : List String → Except FileError (List UInt8)
  | [] => .error .isDirectory
  | step :: rest =>
    if step = "" ∨ step = "." then follow files rest
    else if step = ".." then follow [] rest
    else if maxStep < step.utf8ByteSize then .error .longName
    else match files.lookup step with
      | none => .error .missing
      | some bytes => if rest.isEmpty then .ok bytes else .error .notDirectory

def steps : List Char → List (List Char)
  | [] => [[]]
  | c :: rest =>
    if c = '/' then [] :: steps rest
    else match steps rest with
      | step :: more => (c :: step) :: more
      | [] => [[c]]

/-- Reads a file. A path that does not start with a slash stands behind `lead` bytes that name the
directory, or behind none in the directory itself. -/
def read (files : Files) (lead : Nat) (path : String) : Except FileError (List UInt8) :=
  let isAbsolute := path.toList.head? == some '/'
  let length := if isAbsolute then path.utf8ByteSize else lead + path.utf8ByteSize
  if path.toList.contains (Char.ofNat 0) then .error .nulCharacter
  else if maxPath < length then .error .longName
  else if length = 0 then .error .missing
  else follow (if isAbsolute then [] else files) ((steps path.toList).map String.ofList)

end Files
end MetricRing

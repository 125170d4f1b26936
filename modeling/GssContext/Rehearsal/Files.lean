/-
Files in memory.

A place holds a directory, a file, a device that cannot be read, or a link to
another place. A path is followed step after step from the root or from the
working directory, and a link puts the steps of its own path in front of those
that are left. A directory cannot be read, a file has nothing below it, only so
many links are followed, and neither a path nor one of its steps may be too
long.
-/
import GssContext.Bytes
import GssContext.IoError
import GssContext.Text.Fields

set_option autoImplicit false

namespace GssContext.Rehearsal

/-- The steps that lead from the root to a place. -/
abbrev Place := List String

inductive Entry where
  | directory
  | file (content : Bytes)
  /-- A device, with what comes of reading it. -/
  | mute (failure : IoError)
  /-- Another path, which begins in the same directory or at the root. -/
  | link (path : String)

/-- What all places hold, and from where paths begin. The root is a directory,
and a place that is not in the list holds nothing. -/
structure Files where
  entries : List (Place × Entry) := []
  working : Place := []
  /-- Directories whose own rules hold below them. A step that is too long is
  not found there. -/
  ruled : List String := []

def steps (path : String) : List String := (Text.fields '/' path.toList).map String.ofList

def isRooted (path : String) : Bool := path.toList.head? == some '/'

namespace Files

def maxPath : Nat := 4095

def maxStep : Nat := 255

def maxLinks : Nat := 40

def entry? (f : Files) (place : Place) : Option Entry := f.entries.lookup place

/-- What a step that is too long comes to. -/
def tooLong (f : Files) (place : Place) : IoError :=
  if place.head?.any f.ruled.contains then .noSuchFile else .nameTooLong

/-- All bytes of the file that some steps from a directory lead to. At most
`links` links are followed. -/
def follow (f : Files) (links : Nat) (place : Place) : List String → Except IoError Bytes
  | [] => .error .isDirectory
  | step :: rest =>
    if step = "" ∨ step = "." then f.follow links place rest
    else if step = ".." then f.follow links place.dropLast rest
    else if maxStep < step.utf8ByteSize then .error (f.tooLong place)
    else
      match f.entry? (place ++ [step]) with
      | none => .error .noSuchFile
      | some .directory => f.follow links (place ++ [step]) rest
      | some (.file content) => if rest.isEmpty then .ok content else .error .notDirectory
      | some (.mute failure) => .error (if rest.isEmpty then failure else .notDirectory)
      | some (.link path) =>
        match links with
        | 0 => .error .tooManyLinks
        | links + 1 =>
          f.follow links (if isRooted path then [] else place) (steps path ++ rest)
termination_by path => (links, path.length)

def read (f : Files) (path : String) : Except IoError Bytes :=
  if '\x00' ∈ path.toList then .error .embeddedNul
  else if path = "" then .error .noSuchFile
  else if maxPath < path.utf8ByteSize then .error .nameTooLong
  else f.follow maxLinks (if isRooted path then [] else f.working) (steps path)

end Files

end GssContext.Rehearsal

/-! Reading files by their path, from a folder that holds a single entry or from any other source of
the same shape. -/

namespace MaskedInput

/-- Why a file gives no text. -/
inductive ReadFault where
  | missing
  | folder
  | notAFolder
  | notUtf8
  deriving Repr, DecidableEq

def ReadFault.message : ReadFault → String
  | .missing => "No such file or directory (os error 2)"
  | .folder => "Is a directory (os error 21)"
  | .notAFolder => "Not a directory (os error 20)"
  | .notUtf8 => "stream did not contain valid UTF-8"

/-- What a path leads to. -/
abbrev FileReader := String → Except ReadFault String

namespace Path

/-- The parts of a path between its slashes, of which there is at least one. -/
def split : List Char → List (List Char)
  | [] => [[]]
  | c :: rest =>
    if c = '/' then [] :: split rest
    else
      match split rest with
      | [] => [[c]]
      | part :: parts => (c :: part) :: parts

/-- The parts of a path that name something; empty ones and single points do not. -/
def names (path : String) : List (List Char) :=
  (split path.toList).filter fun p => p ≠ [] && p ≠ ['.']

/-- What follows the last point of the last name, unless the name starts with it. -/
def extension? (path : String) : Option (List Char) :=
  match (names path).getLast? with
  | none => none
  | some name =>
    let reversed := name.reverse
    let stem := (reversed.dropWhile (· ≠ '.')).drop 1
    if name = ['.', '.'] ∨ '.' ∉ name ∨ stem = [] then none
    else some (reversed.takeWhile (· ≠ '.')).reverse

/-- Whether a path has an extension, whatever the case of its letters. -/
def hasExtension (path extension : String) : Bool :=
  (extension? path).any fun e => e.map Char.toLower = extension.toList.map Char.toLower

end Path

inductive Entry where
  | file (bytes : ByteArray)
  | folder

/-- A folder with at most one entry. -/
structure Folder where
  path : String
  entry : Option (String × Entry)

namespace Folder

/-- Where a path has led so far: out of the folder, to the folder, or to its entry. -/
inductive Place where
  | outside
  | here
  | entry (entry : Entry)

/-- Goes on by one part of a path. Nothing but a folder can be gone on from. -/
def step (f : Folder) : Place → List Char → Except ReadFault Place
  | .entry (.file _), _ => .error .notAFolder
  | place, [] | place, ['.'] => .ok place
  | .entry .folder, ['.', '.'] => .ok .here
  | _, ['.', '.'] => .ok .outside
  | .here, name =>
    match f.entry with
    | some (entryName, entry) =>
      if name = entryName.toList then .ok (.entry entry) else .error .missing
    | none => .error .missing
  | _, _ => .error .missing

def Place.contents : Place → Except ReadFault String
  | .entry (.file bytes) =>
    match String.fromUTF8? bytes with
    | some text => .ok text
    | none => .error .notUtf8
  | _ => .error .folder

/-- What follows the path of the folder in a path that starts with it. -/
def inside? (f : Folder) (path : String) : Option (List Char) :=
  if path = f.path then some []
  else if (f.path.toList ++ ['/']).isPrefixOf path.toList then
    some (path.toList.drop (f.path.length + 1))
  else none

/-- Reads a file by a path from the folder on. Nothing is known of other places, except that the
usual names of folders are folders. -/
def read (f : Folder) : FileReader := fun path =>
  match f.inside? path with
  | some inside => do (← (Path.split inside).foldlM f.step .here).contents
  | none => .error (if path ∈ [".", "..", "/"] then .folder else .missing)

end Folder

end MaskedInput

import SinkAudit.Text.Lowercase

/-!
# Paths and the files of a folder

What is read is one path, and the part of the file system that matters is what stands under that path:
nothing, a directory, or a file of some bytes. A folder is a list of paths with what stands under each, seen
from the working directory; directories that paths lead through exist without being listed. Permissions,
links and devices are left out.

Errors show a path as it is normalized, which keeps two dots as they are: only following a path gives them a
meaning.

- `normalizePath`: a path without empty and single-dot parts.
- `pathSuffix`: the suffix of the last part of a path: from its last dot on, unless that is its first or
  its last character.
- `Folder`: what stands under each path, seen from the folder itself.
- `Folder.walk?`: where a path leads, two dots leading back from a directory.
- `Folder.find?`: what stands under a path.
-/

namespace SinkAudit

/-- The parts of a path that lead somewhere. -/
def pathParts (path : String) : List String :=
  ((path.toList.splitOn '/').map String.ofList).filter fun part => part != "" && part != "."

/-- The slashes that an absolute path begins with: two stay two, and any other number is one. -/
def pathRoot (path : String) : String :=
  match (path.toList.takeWhile (· == '/')).length with
  | 0 => ""
  | 2 => "//"
  | _ => "/"

/-- A path without empty and single-dot parts, as a `Path` shows itself. -/
def normalizePath (path : String) : String :=
  let text := pathRoot path ++ "/".intercalate (pathParts path)
  if text = "" then "." else text

/-- The suffix of the last part of a path, with its dot. A name that begins with its only dot has none, and
neither has one that ends in a dot. -/
def pathSuffix (path : String) : String :=
  let name := ((pathParts path).getLast?.getD "").toList
  let after := (name.reverse.takeWhile (· != '.')).reverse
  let before := name.length - after.length - 1
  if after.length < name.length && 0 < before && !after.isEmpty then
    String.ofList ('.' :: after)
  else ""

/-- What stands under a path. -/
inductive Entry where
  | file (bytes : List UInt8)
  | directory

/-- Paths and what stands under them. -/
structure Folder where
  entries : List (String × Entry)

namespace Folder

/-- What stands at a place, given by the parts that lead there from the folder. The folder, those above
it and those above a file are directories. -/
def entryAt (folder : Folder) (place : List String) : Option Entry :=
  match folder.entries.find? fun e => pathParts e.1 == place with
  | some e => some e.2
  | none =>
    if place.all (· == "..") || folder.entries.any fun e => place.isPrefixOf (pathParts e.1) then
      some .directory
    else none

/-- The place that parts lead to from another; every part but the last has to be a directory. -/
def walk? (folder : Folder) (place : List String) : List String → Option (List String)
  | [] => some place
  | part :: rest =>
    match folder.entryAt place with
    | some .directory =>
      -- above the folder itself, two dots lead further up
      if part = ".." ∧ !place.all (· == "..") then folder.walk? place.dropLast rest
      else folder.walk? (place ++ [part]) rest
    | _ => none

/-- What stands under a path: the entry of the same path, or else what the path leads to. -/
def find? (folder : Folder) (path : String) : Option Entry :=
  match folder.entries.find? fun e => normalizePath e.1 == normalizePath path with
  | some e => some e.2
  | none =>
    if pathRoot path = "" then (folder.walk? [] (pathParts path)).bind folder.entryAt
    else if (pathParts path).all (· == "..") then some .directory
    else none

end Folder

end SinkAudit

/-!
# Paths

A path is a text.  Its pieces stand between slashes; an empty piece or a dot
names nothing of its own, except a dot in front.  Parent, name and stem of a path
are parts of its text, and joining paths does not look at any file.
-/

set_option autoImplicit false

namespace SegmentContainer.Path

def splitSlashes : List Char → List (List Char)
  | [] => [[]]
  | c :: rest =>
    if c = '/' then [] :: splitSlashes rest
    else
      match splitSlashes rest with
      | [] => [[c]]
      | piece :: more => (c :: piece) :: more

def joinSlashes : List (List Char) → List Char
  | [] => []
  | [piece] => piece
  | piece :: more => piece ++ '/' :: joinSlashes more

def pieces (path : String) : List String :=
  (splitSlashes path.toList).map String.ofList

def isAbsolute (path : String) : Bool :=
  path.toList.head? = some '/'

/-- A path cut up for taking its end off: what stands in front of its pieces, and
the pieces, the last one first, without those at the end that name nothing. -/
structure Parts where
  front : List Char
  reversed : List (List Char)

def namesNothing (piece : List Char) : Bool :=
  piece = [] || piece = ['.']

/-- Cuts up a path.  In front stands the slash of the root, or a dot that the path
starts with. -/
def parts (path : String) : Parts :=
  let cut (front body : List Char) : Parts :=
    ⟨front, (splitSlashes body).reverse.dropWhile namesNothing⟩
  match path.toList with
  | '/' :: body => cut ['/'] body
  | ['.'] => cut ['.'] []
  | '.' :: '/' :: body => cut ['.'] ('/' :: body)
  | body => cut [] body

/-- The path without its last name; the root and the empty path have none. -/
def parent? (path : String) : Option String :=
  let parts := parts path
  match parts.reversed with
  | _ :: before =>
    some (String.ofList
      (parts.front ++ joinSlashes (before.dropWhile namesNothing).reverse))
  | [] => if parts.front = ['.'] then some "" else none

def fileName? (path : String) : Option String :=
  match (parts path).reversed with
  | [] => none
  | name :: _ => if name = ['.', '.'] then none else some (String.ofList name)

/-- A name up to its last dot; a name whose only dot comes first is all stem. -/
def stem (name : String) : String :=
  let reversed := name.toList.reverse
  match reversed.dropWhile (· ≠ '.') with
  | [] => name
  | ['.'] => name
  | _ :: before => String.ofList before.reverse

def fileStem? (path : String) : Option String :=
  (fileName? path).map stem

def join (directory file : String) : String :=
  if isAbsolute file then file
  else if directory = "" ∨ directory.toList.getLast? = some '/' then directory ++ file
  else directory ++ "/" ++ file

end SegmentContainer.Path

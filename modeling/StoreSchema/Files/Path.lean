/-! # Paths

A path names a file by segments between slashes. Empty segments and segments `.` lead nowhere, but
for a `.` at the very start, which stands for the working folder.
-/

namespace StoreSchema

namespace Path

/-- The bytes that a path can have at most. -/
def longest : Nat := 4095

/-- The bytes that a name in a folder can have at most. -/
def longestName : Nat := 255

/-- The segments of a path: the texts before, between and behind its slashes. -/
def segments : List Char → List String
  | [] => [""]
  | '/' :: rest => "" :: segments rest
  | c :: rest =>
    match segments rest with
    | [] => [c.toString]
    | first :: others => (c.toString ++ first) :: others

def absolute (path : String) : Bool :=
  path.toList.head? == some '/'

/-- Whether a path is one of those that name the working folder: a `.` and nothing behind it that
    leads anywhere. -/
def isHere (path : String) : Bool :=
  match segments path.toList with
  | "." :: rest => rest.all fun segment => segment = "" ∨ segment = "."
  | _ => false

/-- The path of an entry of a folder. -/
def join (folder name : String) : String :=
  if folder.isEmpty || folder.toList.getLast? == some '/' then folder ++ name
  else folder ++ "/" ++ name

/-- The path to each place on the way, from the last to the first. The segments of the path come
    in this order too. -/
def outward : List String → List String
  | [] => []
  | last :: before =>
    if last = "" ∨ (last = "." ∧ before ≠ []) then outward before
    else "/".intercalate (before.reverse ++ [last]) :: outward before

/-- The folders around what a path names, from the inside out. -/
def enclosing (path : String) : List String :=
  (outward (segments path.toList).reverse).tail

/-- The folder that holds what a path names. The root is held by none, and a bare name by the
    folder with the empty path. -/
def parent? (path : String) : Option String :=
  match outward (segments path.toList).reverse with
  | [] => none
  | [_] => some (if absolute path then "/" else "")
  | _ :: parent :: _ => some parent

end Path

end StoreSchema

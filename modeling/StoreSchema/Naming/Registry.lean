import StoreSchema.Naming.Strategy

/-! # Taken names

The names given out in one run. A new name is the first free one of a fixed sequence, and a name
is free when neither it nor its wire twin is taken.
-/

namespace StoreSchema.Naming

/-- The names that are taken, each once. -/
abbrev Registry := List String

inductive Error where
  | overlap (name : String) (path : List String)
  | rootCollision (name : String)
  | emptyPath
  deriving Repr, DecidableEq

def Error.message : Error → String
  | .overlap name path =>
    "type name `" ++ name ++ "` (from `" ++ ".".intercalate path ++
      "`) overlaps an already generated type"
  | .rootCollision name =>
    "type name `" ++ name ++
      "` collides at the document root; no parent segment to disambiguate"
  | .emptyPath => "cannot generate a type name from an empty path"

namespace Registry

def take (name : String) (registry : Registry) : Registry :=
  if registry.contains name then registry else name :: registry

/-- Takes a name and the name of its wire twin. -/
def register (strategy : Strategy) (name : String) (registry : Registry) : Registry :=
  take (strategy.wireName name) (take name registry)

/-- Whether a name can be given out. -/
def isFree (strategy : Strategy) (registry : Registry) (name : String) : Bool :=
  !registry.contains name && !registry.contains (strategy.wireName name)

/-- The number of numbers worth trying: each taken name rules out at most two. -/
def attempts (registry : Registry) : Nat :=
  2 * registry.length + 1

/-- The name with the smallest number that makes it free. -/
def firstNumbered (strategy : Strategy) (registry : Registry) (name : String) : Option String :=
  (List.range' 1 registry.attempts).findSome? fun n =>
    if isFree strategy registry (numbered name n) then some (numbered name n) else none

/-- The name for a path: the first free one of the candidate, the fallback, and the fallback with
    numbers behind it. -/
def choose (strategy : Strategy) (registry : Registry) (path : List String) :
    Except Error String :=
  match path.reverse with
  | [] => .error .emptyPath
  | last :: above =>
    let candidate := strategy.candidate path last
    if isFree strategy registry candidate then .ok candidate
    else
      match above with
      | [] => .error (.rootCollision candidate)
      | parent :: _ =>
        let fallback := strategy.secondary path parent last
        if isFree strategy registry fallback then .ok fallback
        else
          match strategy.overlap with
          | .refuse => .error (.overlap fallback path)
          | .number =>
            match firstNumbered strategy registry fallback with
            | some name => .ok name
            | none => .error (.overlap fallback path)

/-- A fresh name for a path, and the names that are taken then. -/
def generate (strategy : Strategy) (registry : Registry) (path : List String) :
    Except Error (String × Registry) :=
  match choose strategy registry path with
  | .ok name => .ok (name, registry.register strategy name)
  | .error e => .error e

end Registry

end StoreSchema.Naming

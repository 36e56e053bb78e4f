import StoreSchema.Json.Decoding
import StoreSchema.Naming.Word

/-! # Naming strategies

How the name of a type follows from the path of its field, and what happens when it is taken.
-/

namespace StoreSchema.Naming

/-- The first name that is tried. -/
inductive Generation where
  /-- The word of the last segment. -/
  | lastSegment
  /-- The words of all segments. -/
  | fullPath
  deriving Repr, DecidableEq

/-- The name that is tried when the first one is taken. -/
inductive Fallback where
  /-- The words of the last two segments. -/
  | withParent
  /-- The words of all segments. -/
  | fullPath
  deriving Repr, DecidableEq

/-- A word added to every name. -/
inductive Affix where
  | before (text : String)
  | behind (text : String)
  deriving Repr, DecidableEq

/-- What happens when both names are taken. -/
inductive Overlap where
  /-- The smallest free number goes behind the name. -/
  | number
  | refuse
  deriving Repr, DecidableEq

/-- A naming strategy. A name also takes the name of its wire twin, which has `wireSuffix` behind
    it. -/
structure Strategy where
  generation : Generation := .lastSegment
  fallback : Fallback := .withParent
  affixes : List Affix := []
  overlap : Overlap := .number
  wireSuffix : String := "Raw"
  deriving Repr, DecidableEq

def Affix.apply (name : String) : Affix → String
  | .before text => pascalCase text ++ name
  | .behind text => name ++ pascalCase text

namespace Strategy

/-- The name of the wire twin of a type. -/
def wireName (strategy : Strategy) (name : String) : String :=
  name ++ strategy.wireSuffix

/-- The name that a base becomes: the affixes are added in their order, and an underscore where
    the name would begin with a digit. -/
def finish (strategy : Strategy) (base : String) : String :=
  underscored (strategy.affixes.foldl Affix.apply base)

/-- The name tried first for a path with a last segment. -/
def candidate (strategy : Strategy) (path : List String) (last : String) : String :=
  match strategy.generation with
  | .lastSegment => strategy.finish (typeWord last)
  | .fullPath => strategy.finish (joinedWords path)

/-- The name tried second for a path with two last segments. -/
def secondary (strategy : Strategy) (path : List String) (parent last : String) : String :=
  match strategy.fallback with
  | .withParent => strategy.finish (typeWord parent ++ typeWord last)
  | .fullPath => strategy.finish (joinedWords path)

/-! ## Configuration -/

open Decoding (Delivery Writing)

/-- The spellings of the first name. -/
def generations : List (String × Generation) :=
  [("last_segment", .lastSegment), ("full_path", .fullPath)]

/-- The spellings of the second name. -/
def fallbacks : List (String × Fallback) :=
  [("parent_prefix", .withParent), ("full_path", .fullPath)]

/-- The spellings of what happens on overlap. -/
def overlaps : List (String × Overlap) :=
  [("suffix", .number), ("fail", .refuse)]

/-- The options of a choice among bare names. -/
def bareOptions (options : List (String × α)) : List (String × Writing α) :=
  options.map fun (name, value) => (name, .bare value)

/-- The options of an affix. -/
def affixOptions : List (String × Writing Affix) :=
  [("prefix", .holding fun content => do
      let text ← Decoding.string content
      pure (.before text)),
   ("suffix", .holding fun content => do
      let text ← Decoding.string content
      pure (.behind text))]

/-- The fields of a strategy in a configuration. -/
def fields (delivery : Delivery) : List (Decoding.Field Strategy) :=
  [Decoding.field "generation" (Decoding.choice delivery (bareOptions generations))
     fun generation strategy => { strategy with generation },
   Decoding.field "fallback" (Decoding.choice delivery (bareOptions fallbacks))
     fun fallback strategy => { strategy with fallback },
   Decoding.field "post_process" (Decoding.list (Decoding.choice delivery affixOptions))
     fun affixes strategy => { strategy with affixes },
   Decoding.field "on_overlap" (Decoding.choice delivery (bareOptions overlaps))
     fun overlap strategy => { strategy with overlap },
   Decoding.field "wire_suffix" Decoding.string
     fun wireSuffix strategy => { strategy with wireSuffix }]

def read (delivery : Delivery) : Document → Decoding.Result Strategy :=
  Decoding.record delivery "struct NamingStrategy" (fields delivery) {}

/-- The spelling of an option. -/
def spelling [DecidableEq α] (options : List (String × α)) (value : α) : Json :=
  match options.find? (·.2 = value) with
  | some (name, _) => .str name
  | none => .null

def affixJson : Affix → Json
  | .before text => .obj [("prefix", .str text)]
  | .behind text => .obj [("suffix", .str text)]

def toJson (strategy : Strategy) : Json :=
  .obj
    [("generation", spelling generations strategy.generation),
     ("fallback", spelling fallbacks strategy.fallback),
     ("post_process", .arr (strategy.affixes.map affixJson)),
     ("on_overlap", spelling overlaps strategy.overlap),
     ("wire_suffix", .str strategy.wireSuffix)]

end Strategy

end StoreSchema.Naming

import StoreSchema.Naming.Strategy
import StoreSchema.Policy.Global

/-! # Configuration of a compilation

The preferences for everything, the overrides of the fields at the top, and the naming strategy.
-/

namespace StoreSchema

structure Config where
  global : GlobalPolicy := {}
  fields : Overrides := []
  naming : Naming.Strategy := {}

namespace Config

def read (delivery : Decoding.Delivery) : Document → Decoding.Result Config :=
  Decoding.record delivery "struct CompilerConfig"
    [Decoding.field "global" (GlobalPolicy.read delivery) fun global config =>
       { config with global },
     Decoding.field "fields" Overrides.read fun fields config => { config with fields },
     Decoding.field "naming" (Naming.Strategy.read delivery) fun naming config =>
       { config with naming }]
    {}

def toJson (config : Config) : Json :=
  .obj
    [("global", config.global.toJson), ("fields", config.fields.toJson),
     ("naming", config.naming.toJson)]

end Config

end StoreSchema

import StoreSchema.Files.Disk
import StoreSchema.Leaf.Aggregate
import StoreSchema.Leaf.Binary
import StoreSchema.Leaf.Boolean
import StoreSchema.Leaf.Date
import StoreSchema.Leaf.GeoPoint
import StoreSchema.Main
import StoreSchema.Proofs.Date.Apart
import StoreSchema.Proofs.Date.Backslashes
import StoreSchema.Proofs.Date.Calendar
import StoreSchema.Proofs.Date.Canonical
import StoreSchema.Proofs.Date.Centuries
import StoreSchema.Proofs.Date.Compiling
import StoreSchema.Proofs.Date.Denoting
import StoreSchema.Proofs.Date.Enclosing
import StoreSchema.Proofs.Date.Epochs
import StoreSchema.Proofs.Date.Extending
import StoreSchema.Proofs.Date.Gaps
import StoreSchema.Proofs.Date.Moments
import StoreSchema.Proofs.Date.Parts
import StoreSchema.Proofs.Date.Precedence
import StoreSchema.Proofs.Date.Preferring
import StoreSchema.Proofs.Date.Rereading
import StoreSchema.Proofs.Date.Scanning
import StoreSchema.Proofs.Date.Told
import StoreSchema.Proofs.Date.Years
import StoreSchema.Proofs.Json.Numbers
import StoreSchema.Proofs.Json.Numerals
import StoreSchema.Proofs.Json.Records
import StoreSchema.Proofs.Json.Sameness
import StoreSchema.Proofs.Keyed
import StoreSchema.Proofs.Leaf.Base64
import StoreSchema.Proofs.Leaf.Binary
import StoreSchema.Proofs.Leaf.GeoPoint
import StoreSchema.Proofs.Leaf.Geohash
import StoreSchema.Proofs.Leaf.Rereading
import StoreSchema.Proofs.Lists
import StoreSchema.Proofs.Naming.FirstFree
import StoreSchema.Proofs.Naming.Fresh
import StoreSchema.Proofs.Naming.Identifiers
import StoreSchema.Proofs.Naming.Overlaps
import StoreSchema.Proofs.Naming.Reserved
import StoreSchema.Proofs.Naming.SnakeCase
import StoreSchema.Proofs.Naming.Strategies
import StoreSchema.Proofs.Number.Exactness
import StoreSchema.Proofs.Number.Rounding
import StoreSchema.Proofs.Outcome
import StoreSchema.Proofs.Policy.Configs
import StoreSchema.Proofs.Policy.Layers
import StoreSchema.Proofs.Policy.Overrides
import StoreSchema.Proofs.Policy.Refusals
import StoreSchema.Proofs.Schema.Descriptors
import StoreSchema.Proofs.Schema.KeyOrder
import StoreSchema.Proofs.Schema.Reading
import StoreSchema.Proofs.Schema.Walk
import StoreSchema.Proofs.Schema.Wrappers
import StoreSchema.Proofs.Text.Decimal
import StoreSchema.Proofs.Types.Appending
import StoreSchema.Proofs.Types.Dates
import StoreSchema.Proofs.Types.Definitions
import StoreSchema.Proofs.Types.Faults
import StoreSchema.Proofs.Types.Forests
import StoreSchema.Proofs.Types.Identifiers
import StoreSchema.Proofs.Types.KeyOrder
import StoreSchema.Proofs.Types.Kinds
import StoreSchema.Proofs.Types.Leaves
import StoreSchema.Proofs.Types.Mirror
import StoreSchema.Proofs.Types.Names
import StoreSchema.Proofs.Types.Preferences
import StoreSchema.Proofs.Types.Refusing
import StoreSchema.Proofs.Types.Reserved
import StoreSchema.Proofs.Types.Shapes
import StoreSchema.Proofs.Types.Steps
import StoreSchema.Proofs.Types.Walking
import StoreSchema.Proofs.Wire.Canonical
import StoreSchema.Proofs.Wire.Conforming
import StoreSchema.Proofs.Wire.Misfits
import StoreSchema.Proofs.Wire.PlainInput
import StoreSchema.Proofs.Wire.PlainReading
import StoreSchema.Proofs.Wire.PlainRoundTrip
import StoreSchema.Proofs.Wire.Rendering
import StoreSchema.Proofs.Wire.Settling
import StoreSchema.Proofs.Wire.Slots
import StoreSchema.Proofs.Wire.StoredReading
import StoreSchema.Proofs.Wire.StoredRoundTrip
import StoreSchema.Proofs.Wire.Usable
import StoreSchema.Proofs.Wire.Vectors
import StoreSchema.Proofs.Wire.Zeros
import StoreSchema.Wire.Decode
import StoreSchema.Wire.OfPlain
import StoreSchema.Wire.Render

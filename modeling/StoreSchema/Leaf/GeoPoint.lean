import StoreSchema.Json.Decoding
import StoreSchema.Leaf.Geohash
import StoreSchema.Number.Reading
import StoreSchema.Text.Blank

/-! # Points on the globe

A point comes as an object, as a list, or as one of three texts, and is written as an object.
-/

namespace StoreSchema.Leaf

/-- A point by its latitude and longitude. -/
structure GeoPoint where
  lat : Binary64
  lon : Binary64
  deriving Repr, DecidableEq

namespace GeoPoint

/-- A text without the bracket at its front and the one at its end. -/
def unbracketed? : List Char → Option (List Char)
  | '(' :: rest =>
    match rest.reverse with
    | ')' :: inner => some inner.reverse
    | _ => none
  | _ => none

/-- The point of a text behind the word `POINT`: longitude and latitude in brackets. What follows
    them there is skipped. -/
def ofWellKnown? (rest : List Char) : Option GeoPoint := do
  let inner ← unbracketed? (Text.trim rest)
  match Text.runs Text.isBlank inner with
  | lon :: lat :: _ =>
    let lon ← Number.double? lon
    let lat ← Number.double? lat
    pure ⟨lat, lon⟩
  | _ => none

/-- The point of a latitude and a longitude with a comma between them. -/
def ofPair? (lat lon : List Char) : Option GeoPoint := do
  let lat ← Number.double? (Text.trim lat)
  let lon ← Number.double? (Text.trim lon)
  pure ⟨lat, lon⟩

/-- The point of a geohash. -/
def ofGeohash? (hash : List Char) : Option GeoPoint :=
  (Geohash.centre? hash).map fun (lat, lon) => ⟨Binary64.ofRat lat, Binary64.ofRat lon⟩

/-- The point that a text stands for. -/
def ofText? (text : String) : Option GeoPoint :=
  match Text.trim text.toList with
  | 'P' :: 'O' :: 'I' :: 'N' :: 'T' :: rest => ofWellKnown? rest
  | chars =>
    match chars.dropWhile (· ≠ ',') with
    | _ :: lon => ofPair? (chars.takeWhile (· ≠ ',')) lon
    | [] => ofGeohash? chars

/-- The point of a list that begins with longitude and latitude. -/
def ofCoordinates? : List Json → Option GeoPoint
  | lon :: lat :: _ => do
    let lat ← lat.double?
    let lon ← lon.double?
    pure ⟨lat, lon⟩
  | _ => none

/-- The point that an object stands for: one with a type holds coordinates, any other a latitude
    and a longitude. -/
def ofMembers? (members : List (String × Json)) : Option GeoPoint :=
  match members.lookup "type" with
  | some (.str "Point") => do
    let coordinates ← members.lookup "coordinates"
    let items ← coordinates.arr?
    ofCoordinates? items
  | some _ => none
  | none => do
    let lat ← members.lookup "lat"
    let lon ← members.lookup "lon"
    ofCoordinates? [lon, lat]

def ofJson? : Json → Option GeoPoint
  | .arr items => ofCoordinates? items
  | .str text => ofText? text
  | .obj members => ofMembers? members
  | _ => none

/-- The shapes of a point. -/
def accepted : List String :=
  ["\x7b\"lat\": n, \"lon\": n\x7d", "\x7b\"type\": \"Point\", \"coordinates\": [lon, lat]\x7d",
   "[lon, lat]", "\"lat,lon\"", "\"POINT(lon lat)\"", "geohash string"]

/-- The point that a value states. -/
def ofJson (value : Json) : Except ShapeError GeoPoint :=
  match ofJson? value with
  | some point => .ok point
  | none => .error ⟨value.text, accepted, "GeoPoint"⟩

def toJson (point : GeoPoint) : Json :=
  .obj [("lat", .ofDouble point.lat), ("lon", .ofDouble point.lon)]

end GeoPoint

end StoreSchema.Leaf

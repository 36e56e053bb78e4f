import Mathlib.Data.List.TakeWhile
import Mathlib.Data.String.Basic
import StoreSchema.Leaf.GeoPoint
import StoreSchema.Proofs.Leaf.Geohash

/-! # Points of geohashes

A text that is neither a pair nor the word for a point is read as a geohash, and has a point just
where it is one. The point is the exact centre of its cell, so that geohashes of one length have
different points, and the points of longer ones lie in the cells of those that they begin with.
-/

namespace StoreSchema.Leaf.GeoPoint

open Geohash (alphabet path evens odds number)

/-! ## Texts -/

/-- A text without blanks at its ends, without a comma, and without the word for a point in front
    of it. -/
structure Plain (text : String) : Prop where
  front : ∀ c ∈ text.toList.head?, Text.isBlank c = false
  back : ∀ c ∈ text.toList.getLast?, Text.isBlank c = false
  noComma : ',' ∉ text.toList
  noWord : ¬ "POINT".toList <+: text.toList

/-- A text of one to twelve bytes that are symbols of the alphabet, in either case. -/
structure IsGeohash (text : String) : Prop where
  nonempty : 1 ≤ text.utf8ByteSize
  bounded : text.utf8ByteSize ≤ 12
  symbols : ∀ c ∈ text.toList, c.toLower ∈ alphabet

theorem trimStart_eq {signs : List Char} (front : ∀ c ∈ signs.head?, Text.isBlank c = false) :
    Text.trimStart signs = signs := by
  cases signs with
  | nil => rfl
  | cons c rest =>
      have shown : ¬ Text.isBlank c = true := by simp [front c rfl]
      exact List.dropWhile_cons_of_neg shown

theorem trim_plain {text : String} (plain : Plain text) : Text.trim text.toList = text.toList := by
  have back : ∀ c ∈ text.toList.reverse.head?, Text.isBlank c = false := by
    rw [List.head?_reverse]
    exact plain.back
  rw [Text.trim, trimStart_eq plain.front, trimStart_eq back, List.reverse_reverse]

theorem ofText?_plain {text : String} (plain : Plain text) :
    ofText? text = ofGeohash? text.toList := by
  have noComma : text.toList.dropWhile (· ≠ ',') = [] := by
    rw [List.dropWhile_eq_nil_iff]
    intro c inside
    exact decide_eq_true fun same => plain.noComma (same ▸ inside)
  rw [ofText?, trim_plain plain]
  split
  next rest signs => exact absurd (signs ▸ List.prefix_append "POINT".toList rest) plain.noWord
  next => rw [noComma]

/-! ## Symbols -/

theorem lt_of_toLower_mem {c : Char} (inside : c.toLower ∈ alphabet) : c.toNat < 0x80 := by
  by_contra beyond
  have notCapital : ¬ (c.val ≥ 'A'.val ∧ c.val ≤ 'Z'.val) := by
    rintro ⟨-, small⟩
    have code : c.toNat ≤ 'Z'.toNat := UInt32.le_iff_toNat_le.mp small
    have last : 'Z'.toNat = 0x5a := rfl
    omega
  have same : c.toLower = c := dif_neg notCapital
  rw [same] at inside
  have each : (alphabet.all (·.toNat < 0x80)) = true := by decide +kernel
  exact beyond (of_decide_eq_true (List.all_eq_true.mp each _ inside))

theorem isBlank_symbol {c : Char} (inside : c.toLower ∈ alphabet) : Text.isBlank c = false := by
  have each : ∀ code < 0x80, (Char.ofNat code).toLower ∈ alphabet →
      Text.isBlank (Char.ofNat code) = false := by decide +kernel
  have here := each c.toNat (lt_of_toLower_mem inside)
  rw [Char.ofNat_toNat] at here
  exact here inside

theorem utf8ByteSize_eq {text : String} (symbols : ∀ c ∈ text.toList, c.toLower ∈ alphabet) :
    text.utf8ByteSize = text.toList.length := by
  rw [← String.ofList_toList (s := text), String.utf8ByteSize_ofList, String.toList_ofList]
  generalize text.toList = signs at symbols
  induction signs with
  | nil => rfl
  | cons c rest ih =>
      obtain ⟨here, later⟩ := List.forall_mem_cons.mp symbols
      have code := lt_of_toLower_mem here
      have size : c.utf8Size = 1 :=
        Char.utf8Size_eq_one_iff.mpr (UInt32.le_iff_toNat_le.mpr (Nat.le_of_lt_succ code))
      rw [String.utf8Len_cons, ih later, size, List.length_cons]

theorem IsGeohash.plain {text : String} (hash : IsGeohash text) : Plain text where
  front := fun c first => isBlank_symbol (hash.symbols c (List.mem_of_mem_head? first))
  back := fun c last => isBlank_symbol (hash.symbols c (List.mem_of_mem_getLast? last))
  noComma := fun comma => absurd (hash.symbols ',' comma) (by decide +kernel)
  noWord := by
    intro word
    have inside : 'O' ∈ text.toList := word.subset (by decide)
    exact absurd (hash.symbols 'O' inside) (by decide +kernel)

/-! ## Centres -/

/-- The point in the middle of the cell of a row of bits. -/
def centreOf (bits : List Bool) : GeoPoint where
  lat := .ofRat (Geohash.latitudes.narrow (odds bits)).middle
  lon := .ofRat (Geohash.longitudes.narrow (evens bits)).middle

theorem ofGeohash?_eq_some_iff {text : String} {point : GeoPoint} :
    ofGeohash? text.toList = some point ↔
      IsGeohash text ∧ point = centreOf (path text.toList) := by
  simp only [ofGeohash?, Option.map_eq_some_iff, Geohash.centre?_eq_some_iff]
  constructor
  · rintro ⟨place, ⟨nonempty, short, symbols, rfl⟩, rfl⟩
    have size := utf8ByteSize_eq symbols
    have positive := List.length_pos_iff.mpr nonempty
    exact ⟨⟨by omega, by omega, symbols⟩, rfl⟩
  · rintro ⟨⟨nonempty, short, symbols⟩, rfl⟩
    have size := utf8ByteSize_eq symbols
    exact ⟨_, ⟨List.length_pos_iff.mp (by omega), by omega, symbols, rfl⟩, rfl⟩

/-- A point is at a latitude and a longitude exactly. -/
structure At (point : GeoPoint) (lat lon : Rat) : Prop where
  lat : point.lat.toRat? = some lat
  lon : point.lon.toRat? = some lon

theorem At.unique {point : GeoPoint} {lat lon otherLat otherLon : Rat} (here : At point lat lon)
    (other : At point otherLat otherLon) : lat = otherLat ∧ lon = otherLon :=
  ⟨Option.some.inj (here.lat.symm.trans other.lat), Option.some.inj (here.lon.symm.trans other.lon)⟩

theorem IsGeohash.few {text : String} (hash : IsGeohash text) {taken : List Bool}
    (front : taken <+: path text.toList) :
    (evens taken).length ≤ 30 ∧ (odds taken).length ≤ 30 := by
  have size := utf8ByteSize_eq hash.symbols
  have bounded := hash.bounded
  have all := Geohash.length_path text.toList
  have fewer := front.length_le
  obtain ⟨even, odd⟩ := Geohash.length_evens_odds taken
  omega

theorem IsGeohash.centre {text : String} (hash : IsGeohash text) :
    At (centreOf (path text.toList))
      (Geohash.latitudes.narrow (odds (path text.toList))).middle
      (Geohash.longitudes.narrow (evens (path text.toList))).middle := by
  obtain ⟨fewEvens, fewOdds⟩ := hash.few List.prefix_rfl
  exact ⟨(Geohash.kept_narrow (by decide) fewOdds).middle,
    (Geohash.kept_narrow (by decide) fewEvens).middle⟩

/-! ## Geohashes and their points -/

/-- A latitude and a longitude inside the cell of a row of bits. -/
structure InCell (bits : List Bool) (lat lon : Rat) : Prop where
  south : -90 + 180 * number (odds bits) / 2 ^ (odds bits).length < lat
  north : lat < -90 + 180 * (number (odds bits) + 1) / 2 ^ (odds bits).length
  west : -180 + 360 * number (evens bits) / 2 ^ (evens bits).length < lon
  east : lon < -180 + 360 * (number (evens bits) + 1) / 2 ^ (evens bits).length

theorem inCell_centre (front back : List Bool) :
    InCell front (Geohash.latitudes.narrow (odds (front ++ back))).middle
      (Geohash.longitudes.narrow (evens (front ++ back))).middle := by
  obtain ⟨even, odd⟩ := Geohash.evens_odds_append front back
  rw [even, odd, Geohash.Range.narrow_append, Geohash.Range.narrow_append]
  have narrowedLat := Geohash.Range.narrow_within Geohash.latitudes_proper (odds front)
  have narrowedLon := Geohash.Range.narrow_within Geohash.longitudes_proper (evens front)
  obtain ⟨southOf, northOf⟩ := Geohash.Range.middle_narrow_within narrowedLat.2.1
    (if front.length % 2 = 0 then odds back else evens back)
  obtain ⟨westOf, eastOf⟩ := Geohash.Range.middle_narrow_within narrowedLon.2.1
    (if front.length % 2 = 0 then evens back else odds back)
  obtain ⟨south, north⟩ := Geohash.latitudes.narrow_eq (odds front)
  obtain ⟨west, east⟩ := Geohash.longitudes.narrow_eq (evens front)
  rw [Geohash.extent_latitudes.2, Geohash.extent_latitudes.1] at south north
  rw [Geohash.extent_longitudes.2, Geohash.extent_longitudes.1] at west east
  exact ⟨south ▸ southOf, north ▸ northOf, west ▸ westOf, east ▸ eastOf⟩

/-- What a plain text says of a point. -/
structure MarksCentre (text : String) : Prop where
  read : (ofText? text).isSome ↔ IsGeohash text
  centre : ∀ point, ofText? text = some point →
    At point
      (-90 + 180 * (2 * number (odds (path text.toList)) + 1) /
        2 ^ ((odds (path text.toList)).length + 1))
      (-180 + 360 * (2 * number (evens (path text.toList)) + 1) /
        2 ^ ((evens (path text.toList)).length + 1))
  distinct : IsGeohash text → ∀ other, IsGeohash other →
    other.toList.length = text.toList.length →
      other.toList.map Char.toLower ≠ text.toList.map Char.toLower → ofText? other ≠ ofText? text
  inside : ∀ more, IsGeohash (text ++ more) → ∃ point lat lon,
    ofText? (text ++ more) = some point ∧ At point lat lon ∧ InCell (path text.toList) lat lon
  /-- The cells that are passed on the way have ends and middles that are not rounded. -/
  unrounded : IsGeohash text → ∀ taken, taken <+: path text.toList →
    (taken.foldl Geohash.Cell.halve Geohash.globe).next.Kept ∧
      (taken.foldl Geohash.Cell.halve Geohash.globe).other.Kept

theorem IsGeohash.ofText? {text : String} (hash : IsGeohash text) :
    ofText? text = some (centreOf (path text.toList)) := by
  rw [ofText?_plain hash.plain]
  exact ofGeohash?_eq_some_iff.mpr ⟨hash, rfl⟩

theorem IsGeohash.toLower_eq {text other : String} (hash : IsGeohash text)
    (otherHash : IsGeohash other) (lengths : other.toList.length = text.toList.length)
    (same : GeoPoint.ofText? other = GeoPoint.ofText? text) :
    other.toList.map Char.toLower = text.toList.map Char.toLower := by
  rw [otherHash.ofText?, hash.ofText?] at same
  have there : At (centreOf (path text.toList)) _ _ := Option.some.inj same ▸ otherHash.centre
  obtain ⟨lat, lon⟩ := there.unique hash.centre
  have all : (path other.toList).length = (path text.toList).length := by
    rw [Geohash.length_path, Geohash.length_path, lengths]
  obtain ⟨even, odd⟩ := Geohash.length_evens_odds (path other.toList)
  obtain ⟨textEven, textOdd⟩ := Geohash.length_evens_odds (path text.toList)
  have odds := Geohash.Range.middle_narrow_inj Geohash.latitudes_proper (by omega) lat
  have evens := Geohash.Range.middle_narrow_inj Geohash.longitudes_proper (by omega) lon
  exact Geohash.toLower_eq_of_path otherHash.symbols hash.symbols
    (Geohash.eq_of_evens_odds evens odds)

/-- No interval on the way to the cell of a geohash is rounded. -/
theorem IsGeohash.kept {text : String} (hash : IsGeohash text) {taken : List Bool}
    (front : taken <+: path text.toList) :
    (taken.foldl Geohash.Cell.halve Geohash.globe).next.Kept ∧
      (taken.foldl Geohash.Cell.halve Geohash.globe).other.Kept := by
  obtain ⟨fewEvens, fewOdds⟩ := hash.few front
  have even : (Geohash.longitudes.narrow (evens taken)).Kept :=
    Geohash.kept_narrow (by decide) fewEvens
  have odd : (Geohash.latitudes.narrow (odds taken)).Kept :=
    Geohash.kept_narrow (by decide) fewOdds
  rw [Geohash.globe_eq, Geohash.foldl_halve]
  split
  next => exact ⟨even, odd⟩
  next => exact ⟨odd, even⟩

theorem geohash_marks_centre {text : String} (plain : Plain text) : MarksCentre text where
  read := by
    rw [ofText?_plain plain, Option.isSome_iff_exists]
    simp only [ofGeohash?_eq_some_iff, exists_and_left, exists_eq, and_true]
  centre := by
    intro point read
    rw [ofText?_plain plain] at read
    obtain ⟨hash, rfl⟩ := ofGeohash?_eq_some_iff.mp read
    have centre := hash.centre
    rwa [Geohash.Range.middle_narrow, Geohash.Range.middle_narrow,
      Geohash.extent_latitudes.2, Geohash.extent_latitudes.1,
      Geohash.extent_longitudes.2, Geohash.extent_longitudes.1] at centre
  distinct := fun hash _ otherHash lengths differ same =>
    differ (hash.toLower_eq otherHash lengths same)
  inside := by
    intro more hash
    have centre := hash.centre
    rw [String.toList_append, Geohash.path_append] at centre
    refine ⟨_, _, _, hash.ofText?, ?_, inCell_centre (path text.toList) (path more.toList)⟩
    rwa [String.toList_append, Geohash.path_append]
  unrounded := fun hash _ => hash.kept

theorem sample_geohash_marks_centre :
    Plain "eZs42" ∧ IsGeohash "eZs42" ∧ ∃ point, ofText? "eZs42" = some point ∧
      At point (-90 + 180 * 6035 / 2 ^ 13) (-180 + 360 * 7937 / 2 ^ 14) := by
  have symbols : ("eZs42".toList.all (·.toLower ∈ alphabet)) = true := by decide +kernel
  have hash : IsGeohash "eZs42" := ⟨by decide +kernel, by decide +kernel, fun c inside =>
    of_decide_eq_true (List.all_eq_true.mp symbols c inside)⟩
  have marks := geohash_marks_centre hash.plain
  obtain ⟨point, read⟩ := Option.isSome_iff_exists.mp (marks.read.mpr hash)
  have centre := marks.centre point read
  have row : number (odds (path "eZs42".toList)) = 3017 := by decide +kernel
  have rows : (odds (path "eZs42".toList)).length = 12 := by decide +kernel
  have column : number (evens (path "eZs42".toList)) = 3968 := by decide +kernel
  have columns : (evens (path "eZs42".toList)).length = 13 := by decide +kernel
  rw [row, rows, column, columns] at centre
  norm_num at centre ⊢
  exact ⟨hash.plain, hash, point, read, centre⟩

end StoreSchema.Leaf.GeoPoint

/-! # Names of months and weekdays -/

namespace StoreSchema.Date

def monthNames : List String :=
  ["January", "February", "March", "April", "May", "June", "July", "August", "September",
   "October", "November", "December"]

/-- The names of the weekdays, from Monday. -/
def weekdayNames : List String :=
  ["Monday", "Tuesday", "Wednesday", "Thursday", "Friday", "Saturday", "Sunday"]

/-- The name at a place in a list, or nothing. -/
def nameAt (names : List String) (index : Nat) : List Char :=
  (names[index]?.getD "").toList

/-- The short form of a name: its first three letters. -/
def shortName (names : List String) (index : Nat) : List Char :=
  (nameAt names index).take 3

end StoreSchema.Date

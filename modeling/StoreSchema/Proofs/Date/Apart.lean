import StoreSchema.Proofs.Date.Fronts

/-! # Layouts that come apart

Layouts are compared by walking both of them. Either they take the same sign by sign, and read the
same; or one meets a sign that it can never take while the other writes it, and then it refuses
whatever the other writes. Where the walk reaches an item whose end it cannot tell, nothing is known.
-/

namespace StoreSchema.Date

/-! ## The same items -/

/-- Whether two items take the same off every text. -/
def Item.alike : Item → Item → Bool
  | .number part _, .number other _ => part = other
  | .space _, .space _ => true
  | item, other => item = other

/-- Whether two rows are the same up to the padding of numbers and the kind of white space. -/
def alike : List Item → List Item → Bool
  | [], [] => true
  | item :: rest, other :: others => item.alike other && alike rest others
  | _, _ => false

theorem Item.scan_alike {item other : Item} (same : item.alike other) (parts : Parts)
    (text : List Char) : item.scan parts text = other.scan parts text := by
  unfold Item.alike at same
  split at same
  next =>
    rw [of_decide_eq_true same]
    rfl
  next => rfl
  next => rw [of_decide_eq_true same]

theorem scanItems_alike {items others : List Item} (same : alike items others) (parts : Parts)
    (text : List Char) : scanItems parts text items = scanItems parts text others := by
  induction items generalizing others parts text with
  | nil =>
      cases others with
      | nil => rfl
      | cons other rest => cases same
  | cons item rest ih =>
      cases others with
      | nil => cases same
      | cons other others =>
          obtain ⟨first, later⟩ := Bool.and_eq_true_iff.mp same
          simp only [scanItems, Item.scan_alike first, ih later]

/-! ## Rows that agree -/

/-- Whether a row of items reads what another one writes as that one does, as far as walking both
    can tell. -/
def agree : List Item → List Item → Bool
  | [], others => others.isEmpty
  | item :: rest, [] => item.skips && agree rest []
  | item :: rest, other :: others =>
    alike (item :: rest) (other :: others) ||
      other.signs?.any (·.all item.leaves) && agree rest (other :: others) ||
      item.alike other && item.takes others other && agree rest others

theorem scanItems_agree {m : Moment} (writable : m.Writable) {items others : List Item}
    (same : agree items others) (parts : Parts) :
    scanItems parts (others.flatMap (Item.print m.toLocal m.offset)) items =
      scanItems parts (others.flatMap (Item.print m.toLocal m.offset)) others := by
  -- The row that reads is walked; the one that wrote only goes on where an item of it is taken.
  induction items generalizing others parts with
  | nil =>
      have none : others = [] := List.isEmpty_iff.mp same
      rw [none]
  | cons item rest ih =>
      cases others with
      | nil =>
          obtain ⟨skips, further⟩ := Bool.and_eq_true_iff.mp same
          have later := ih further parts
          rw [List.flatMap_nil] at later ⊢
          rw [← later, scanItems, Item.scan_skips skips, Outcome.ok_bind]
      | cons other others =>
          simp only [agree, Bool.or_eq_true, Bool.and_eq_true] at same
          rcases same with (same | ⟨leaves, further⟩) | ⟨⟨same, takes⟩, further⟩
          · exact scanItems_alike same parts _
          · obtain ⟨signs, known, all⟩ := (Option.any_eq_true _ _).mp leaves
            obtain ⟨c, text, print, sign⟩ := Item.print_signs writable known
            have later := ih further parts
            rw [List.flatMap_cons, print] at later ⊢
            rw [scanItems, List.cons_append, Item.scan_leaves (List.all_eq_true.mp all c sign),
              Outcome.ok_bind]
            exact later
          · rw [List.flatMap_cons, scanItems, scanItems, ← Item.scan_alike same]
            cases scanned : item.scan parts (other.print m.toLocal m.offset ++
                others.flatMap (Item.print m.toLocal m.offset)) with
            | error misread => rfl
            | ok taken =>
                obtain ⟨after, left⟩ := taken
                rw [Item.scan_takes writable takes scanned]
                exact ih further after

/-! ## Rows that come apart -/

/-- Whether a row refuses every text that begins with a digit. -/
def stuck : List Item → Bool
  | [] => true
  | item :: _ => digitSigns.all (!item.accepts ·)

/-- Whether a row of items refuses what another one writes, as far as walking both can tell. -/
def apart : List Item → List Item → Bool
  | [], [] => false
  | [], other :: _ => other.signs?.isSome
  | item :: rest, [] => !item.skips || apart rest []
  | item :: rest, other :: others =>
    other.signs?.any (·.all (!item.accepts ·)) ||
      other.signs?.any (·.all item.leaves) && apart rest (other :: others) ||
      item.cuts other && stuck rest ||
      item.takes others other && apart rest others

theorem scanItems_stuck {items : List Item} (refuses : stuck items) {parts final : Parts} {c : Char}
    {text : List Char} (digit : c.isDigit) : scanItems parts (c :: text) items ≠ .ok final := by
  cases items with
  | nil => nofun
  | cons item rest =>
      intro ok
      obtain ⟨⟨after, left⟩, scanned, -⟩ := Outcome.bind_eq_ok.mp ok
      have accepts := (Item.took scanned).accepts
      have refused := List.all_eq_true.mp refuses c (mem_digitSigns digit)
      simp [accepts] at refused

/-- Where rows come apart, the one reads nothing that the other writes. -/
theorem scanItems_apart {m : Moment} (writable : m.Writable) {items others : List Item}
    (come : apart items others) (parts final : Parts) :
    scanItems parts (others.flatMap (Item.print m.toLocal m.offset)) items ≠ .ok final := by
  induction items generalizing others parts with
  | nil =>
      cases others with
      | nil => cases come
      | cons other rest =>
          obtain ⟨signs, known⟩ := Option.isSome_iff_exists.mp come
          obtain ⟨c, text, print, -⟩ := Item.print_signs writable known
          rw [List.flatMap_cons, print]
          nofun
  | cons item rest ih =>
      intro ok
      obtain ⟨⟨after, left⟩, scanned, later⟩ := Outcome.bind_eq_ok.mp ok
      cases others with
      | nil =>
          have skips := (Item.took scanned).skips
          rw [List.flatMap_nil, Item.scan_skips skips] at scanned
          cases scanned
          have further : apart rest [] := by simpa [apart, skips] using come
          exact ih further parts later
      | cons other others =>
          rw [List.flatMap_cons] at scanned
          simp only [apart, Bool.or_eq_true, Bool.and_eq_true] at come
          rcases come with ((refuses | ⟨leaves, further⟩) | ⟨cuts, refuses⟩) | ⟨takes, further⟩
          · obtain ⟨signs, known, none⟩ := (Option.any_eq_true _ _).mp refuses
            obtain ⟨c, text, print, sign⟩ := Item.print_signs writable known
            rw [print] at scanned
            have refused := List.all_eq_true.mp none c sign
            simp [(Item.took scanned).accepts] at refused
          · obtain ⟨signs, known, all⟩ := (Option.any_eq_true _ _).mp leaves
            obtain ⟨c, text, print, sign⟩ := Item.print_signs writable known
            rw [print] at scanned
            rw [List.cons_append, Item.scan_leaves (List.all_eq_true.mp all c sign)] at scanned
            cases scanned
            refine ih further parts ?_
            rw [List.flatMap_cons, print]
            exact later
          · -- The item leaves a digit, and the next one is not made for digits.
            obtain ⟨c, text, rfl, digit⟩ := Item.scan_cuts writable cuts scanned
            exact scanItems_stuck refuses digit later
          · have same := Item.scan_takes writable takes scanned
            rw [same] at later
            exact ih further after later

/-! ## Layouts -/

/-- Whether a layout leaves the texts of another one alone: it reads them the same, or never. -/
def Layout.spares (layout written : Layout) : Bool :=
  agree layout.items written.items || apart layout.items written.items

/-- A layout that spares another one reads its texts as that one does, if it reads them. -/
theorem Layout.spares_scan {layout written : Layout} (spares : layout.spares written) {m : Moment}
    (writable : m.Writable) {read moment : Moment}
    (taken : layout.scan (written.print m) = .ok read)
    (alone : written.scan (written.print m) = .ok moment) : read = moment := by
  rcases Bool.or_eq_true_iff.mp spares with same | come
  · have equal := scanItems_agree writable same {}
    rw [Layout.scan, Layout.print] at taken alone
    rw [equal, alone] at taken
    exact (Except.ok.inj taken).symm
  · obtain ⟨final, scanned, -⟩ := Outcome.bind_eq_ok.mp taken
    exact absurd scanned (scanItems_apart writable come {} final)

/-- A layout of ordinal dates takes a month for a day of the year, unless a day follows. -/
example :
    let ordinals : Layout := ⟨[.number .year true, .literal ['-'], .number .ordinal true]⟩
    ordinals.spares ⟨[.number .year true, .literal ['-'], .number .month true, .literal ['-'],
        .number .day true]⟩ ∧
      ¬ ordinals.spares ⟨[.number .year true, .literal ['-'], .number .month true]⟩ := by
  decide

end StoreSchema.Date

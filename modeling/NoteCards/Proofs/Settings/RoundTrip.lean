import NoteCards.Data.Record
import NoteCards.Json.RecordReader
import NoteCards.Proofs.Json.Reread
import NoteCards.Proofs.Json.WrittenRecord

/-!
# Settings written and read back

Reading the text of settings goes through their fields one by one (`Settings.readText_write`), in
either layout. Counts and truth values come back as they are. So whether the settings come back
depends on each of their numbers alone, on whether the two roundings of its reader cancel out
(`Settings.readText_eq_ok_iff`).
-/

namespace NoteCards

open NoteCards.Data NoteCards.Json NoteCards.Json.RecordShape NoteCards.Text

/-! ### Fields -/

namespace Json

/-- What a reader of numbers makes of the text of a number. -/
def rereadNumber : Binary64 → Except Error Binary64
  | .finite negative rank => orFail (reread negative rank)
  | _ => .error (.data (.wrongType .null "f64"))

section Fields

variable {room : Nat}

theorem readFloat_ofValue (x : Binary64) :
    readFloat room (.ofValue (.number x)) = rereadNumber x := by
  change readFloat room (.ofNumber x) = _
  match x with
  | .nan => rfl
  | .infinite _ => rfl
  | .finite negative rank =>
    obtain ⟨text, hnode, hvalue, -⟩ := exists_ofNumber negative rank
    rw [hnode, readFloat, rereadNumber, hvalue]
    cases reread negative rank <;> rfl

theorem readWord32_ofValue (n : UInt32) : readWord32 room (.ofValue (word32 n)) = .ok n := by
  have hfits : (n.toNat : Int).natAbs < UInt64.size := n.toNat_lt.trans (by decide)
  have hvalue := value_integerText (Int.natCast_nonneg n.toNat) hfits
  have hlimit : (0 : Int) ≤ n.toNat ∧ (n.toNat : Int) ≤ ((UInt32.size - 1 : Nat) : Int) := by
    have hsize : UInt32.size = 2 ^ 32 := rfl
    have hbound := n.toNat_lt
    exact ⟨by omega, by omega⟩
  change (readNat (UInt32.size - 1) "u32" room (.number (integerText n.toNat))).map
    UInt32.ofNat = _
  rw [readNat, hvalue]
  change (if 0 ≤ (n.toNat : Int) ∧ _ then _ else _ : Except Error Nat).map UInt32.ofNat = _
  rw [if_pos hlimit]
  change Except.ok (UInt32.ofNat n.toNat) = _
  rw [UInt32.ofNat_toNat]

theorem readBool_ofValue (b : Bool) : readBool room (.ofValue (.bool b)) = .ok b :=
  rfl

end Fields

end Json

/-! ### Records -/

def Display.mapNumbersM (f : Binary64 → Except Error Binary64) (display : Display) :
    Except Error Display := do
  let cardWidth ← f display.cardWidth
  let cardHeight ← f display.cardHeight
  let fontSize ← f display.fontSize
  return { display with cardWidth, cardHeight, fontSize }

def Forces.mapNumbersM (f : Binary64 → Except Error Binary64) (forces : Forces) :
    Except Error Forces := do
  let repelForce ← f forces.repelForce
  let linkForce ← f forces.linkForce
  let linkDistance ← f forces.linkDistance
  let centerForce ← f forces.centerForce
  return { repelForce, linkForce, linkDistance, centerForce }

/-- Replaces the numbers of the settings in order, up to the first error. -/
def Settings.mapNumbersM (f : Binary64 → Except Error Binary64) (settings : Settings) :
    Except Error Settings := do
  let display ← settings.display.mapNumbersM f
  let forces ← settings.forces.mapNumbersM f
  return { display, forces }

section Records

variable {room : Nat}

theorem Display.lenient_shape : Display.shape.Lenient where
  distinct := by decide
  optional := by decide

theorem Forces.lenient_shape : Forces.shape.Lenient where
  distinct := by decide
  optional := by decide

theorem Settings.lenient_shape : Settings.shape.Lenient where
  distinct := by decide
  optional := by decide

theorem Display.read_ofValue (hroom : 1 < room) (display : Display) :
    Display.shape.read room (.ofValue display.toValue) = display.mapNumbersM rereadNumber := by
  refine (read_ofEntries Display.lenient_shape hroom (rfl : List.length [.number display.cardWidth,
    .number display.cardHeight, .number display.fontSize, word32 display.excerptLines,
    .bool display.showTags, .bool display.showArrows] = _)).trans ?_
  simp only [Display.shape, List.zip_cons_cons, List.zip_nil_left, readPairs_cons, readPairs_nil,
    readFloat_ofValue, readWord32_ofValue, readBool_ofValue]
  rfl

theorem Forces.read_ofValue (hroom : 1 < room) (forces : Forces) :
    Forces.shape.read room (.ofValue forces.toValue) = forces.mapNumbersM rereadNumber := by
  refine (read_ofEntries Forces.lenient_shape hroom (rfl : List.length [.number forces.repelForce,
    .number forces.linkForce, .number forces.linkDistance, .number forces.centerForce] =
      _)).trans ?_
  simp only [Forces.shape, List.zip_cons_cons, List.zip_nil_left, readPairs_cons, readPairs_nil,
    readFloat_ofValue]
  rfl

theorem Settings.read_ofValue (hroom : 2 < room) (settings : Settings) :
    Settings.shape.read room (.ofValue settings.toValue) = settings.mapNumbersM rereadNumber := by
  have hinner : 1 < room - 1 := by omega
  refine (read_ofEntries Settings.lenient_shape (by omega) (rfl : List.length
    [settings.display.toValue, settings.forces.toValue] = _)).trans ?_
  simp only [Settings.shape, List.zip_cons_cons, List.zip_nil_left, readPairs_cons, readPairs_nil,
    Display.read_ofValue hinner, Forces.read_ofValue hinner]
  rfl

end Records

/-- Reading the text of settings, on one line or with line breaks, reads each number again. -/
theorem Settings.readText_write (level : Option Nat) (settings : Settings) :
    readText Settings.shape.read (.ofChars (write level settings.toValue)) =
      settings.mapNumbersM rereadNumber := by
  rw [Json.readText_write]
  exact settings.read_ofValue (by decide)

theorem Settings.readText_compact (settings : Settings) :
    readText Settings.shape.read (.ofString (compact settings.toValue)) =
      settings.mapNumbersM rereadNumber := by
  rw [Source.ofString, compact, String.toList_ofList, settings.readText_write]

theorem Settings.readText_pretty (settings : Settings) :
    readText Settings.shape.read (.ofString (pretty settings.toValue)) =
      settings.mapNumbersM rereadNumber := by
  rw [Source.ofString, pretty, String.toList_ofList, settings.readText_write]

/-! ### Round trips -/

/-- The numbers among the settings. -/
def Settings.numbers (settings : Settings) : List Binary64 :=
  [settings.display.cardWidth, settings.display.cardHeight, settings.display.fontSize,
    settings.forces.repelForce, settings.forces.linkForce, settings.forces.linkDistance,
    settings.forces.centerForce]

theorem Settings.mapNumbersM_eq_ok_iff {f : Binary64 → Except Error Binary64}
    {settings : Settings} :
    settings.mapNumbersM f = .ok settings ↔ ∀ x ∈ settings.numbers, f x = .ok x := by
  obtain ⟨⟨_, _, _, _, _, _⟩, ⟨_, _, _, _⟩⟩ := settings
  simp only [mapNumbersM, Display.mapNumbersM, Forces.mapNumbersM, numbers, List.forall_mem_cons,
    bind_eq_ok_iff]
  constructor
  · rintro ⟨display, ⟨width, hwidth, height, hheight, size, hsize, hdisplay⟩, forces,
      ⟨repel, hrepel, link, hlink, distance, hdistance, center, hcenter, hforces⟩, hsettings⟩
    cases hdisplay
    cases hforces
    cases hsettings
    exact ⟨hwidth, hheight, hsize, hrepel, hlink, hdistance, hcenter, nofun⟩
  · rintro ⟨hwidth, hheight, hsize, hrepel, hlink, hdistance, hcenter, -⟩
    exact ⟨_, ⟨_, hwidth, _, hheight, _, hsize, rfl⟩, _,
      ⟨_, hrepel, _, hlink, _, hdistance, _, hcenter, rfl⟩, rfl⟩

theorem rereadNumber_eq_ok_iff {x : Binary64} : rereadNumber x = .ok x ↔ x.Rereads := by
  cases x with
  | nan => simp [rereadNumber, Binary64.Rereads]
  | infinite _ => simp [rereadNumber, Binary64.Rereads]
  | finite negative rank =>
    rw [Binary64.Rereads, ← reread_eq_ok_iff, rereadNumber]
    cases reread negative rank with
    | error fault => simp [orFail, fail]
    | ok y => simp [orFail]

/-- **Round trips.** The text of settings, on one line or with line breaks, is read as these
settings exactly if the reader's two roundings give each of the numbers back. They do while the
digits are few. -/
theorem Settings.readText_eq_ok_iff (settings : Settings) :
    (readText Settings.shape.read (.ofString (compact settings.toValue)) = .ok settings ↔
      ∀ x ∈ settings.numbers, x.Rereads) ∧
    (readText Settings.shape.read (.ofString (pretty settings.toValue)) = .ok settings ↔
      ∀ x ∈ settings.numbers, x.Rereads) ∧
    ∀ x : Binary64, x.HasFewDigits → x.Rereads := by
  have hnumbers : settings.mapNumbersM rereadNumber = .ok settings ↔
      ∀ x ∈ settings.numbers, x.Rereads := by
    simp only [mapNumbersM_eq_ok_iff, rereadNumber_eq_ok_iff]
  rw [settings.readText_compact, settings.readText_pretty]
  exact ⟨hnumbers, hnumbers, fun x hx => hx.rereads⟩

theorem readText_eq_ok_fractions :
    let settings : Settings := { display.cardWidth := 320.5, forces.linkForce := 0.1 }
    readText Settings.shape.read (.ofString (compact settings.toValue)) = .ok settings ∧
      readText Settings.shape.read (.ofString (pretty settings.toValue)) = .ok settings := by
  intro settings
  have hdigits : ∀ x ∈ settings.numbers, x.HasFewDigits := by decide +kernel
  obtain ⟨hcompact, hpretty, hrereads⟩ := settings.readText_eq_ok_iff
  exact ⟨hcompact.2 fun x hx => hrereads x (hdigits x hx),
    hpretty.2 fun x hx => hrereads x (hdigits x hx)⟩

/-- A force just below one is written with digits that round up, and comes back as one. -/
theorem force_below_one_lost :
    let settings : Settings := { forces := { linkForce := 0.9999999999999999 } }
    (∀ x ∈ settings.numbers, x.isFinite = true) ∧
      readText Settings.shape.read (.ofString (compact settings.toValue)) =
        .ok { settings with forces.linkForce := 1 } ∧
      settings ≠ { settings with forces.linkForce := 1 } := by
  intro settings
  rw [settings.readText_compact]
  decide +kernel

end NoteCards

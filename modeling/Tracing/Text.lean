/-!
# Tracing.Text

Texts. A document may hold half of a surrogate pair alone, and no character is one, so a text is a
sequence of code points: of characters and of such halves.

* `CodePoint` — a number that can be a code point; `ofChar` and `toChar?` for characters.
* `Text`      — a sequence of them; `ofString` and `toString?` for those that are strings.
* `toChar?_ofChar`, `toString?_ofString` — a character and a string are found again.
* `ofChar_of_toChar?`, `ofString_of_toString?` — and they are all that is found.
* `ofString_inj` — different strings are different texts.
-/

namespace Tracing

structure CodePoint where
  value : Nat
  isInRange : value < 0x110000
  deriving DecidableEq, Repr

namespace CodePoint

/-- Whether a code point is half of a surrogate pair. All others are characters. -/
def isHalf (c : CodePoint) : Bool := 0xd800 ≤ c.value && c.value < 0xe000

theorem toNat_lt (c : Char) : c.toNat < 0x110000 := by
  have h := c.valid
  simp only [UInt32.isValidChar, Nat.isValidChar] at h
  have hn : c.toNat = c.val.toNat := rfl
  omega

def ofChar (c : Char) : CodePoint := ⟨c.toNat, toNat_lt c⟩

instance : Coe Char CodePoint := ⟨ofChar⟩

/-- The code point of a number; one that is out of range gives the greatest. -/
def ofNat (n : Nat) : CodePoint := ⟨min n 0x10ffff, by omega⟩

def toChar? (c : CodePoint) : Option Char :=
  if c.isHalf then none else some (Char.ofNat c.value)

@[simp] theorem isHalf_ofChar (c : Char) : (ofChar c).isHalf = false := by
  have h := c.valid
  simp only [UInt32.isValidChar, Nat.isValidChar] at h
  have hn : (ofChar c).value = c.val.toNat := rfl
  simp only [isHalf, hn, Bool.and_eq_false_iff, decide_eq_false_iff_not]
  omega

@[simp] theorem toChar?_ofChar (c : Char) : (ofChar c).toChar? = some c := by
  rw [toChar?, isHalf_ofChar]
  simp [ofChar]

theorem ofChar_of_toChar? {c : CodePoint} {ch : Char} (h : c.toChar? = some ch) :
    ofChar ch = c := by
  unfold toChar? at h
  split at h
  · cases h
  next hc =>
    cases h
    have hr := c.isInRange
    simp only [isHalf, Bool.and_eq_true, decide_eq_true_eq] at hc
    have hv : c.value.isValidChar := by
      simp only [Nat.isValidChar]
      omega
    have hn : (Char.ofNat c.value).toNat = c.value := by
      rw [Char.ofNat, dif_pos hv]
      rfl
    cases c
    simpa [ofChar] using hn

end CodePoint

structure Text where
  points : List CodePoint
  deriving DecidableEq, Repr, Inhabited

namespace Text

def ofChars (cs : List Char) : Text := ⟨cs.map CodePoint.ofChar⟩

def ofString (s : String) : Text := ofChars s.toList

instance : Coe String Text := ⟨ofString⟩

/-- The characters of a text without halves of pairs. -/
def toChars? (t : Text) : Option (List Char) := t.points.mapM CodePoint.toChar?

/-- A text without halves of pairs as a string. -/
def toString? (t : Text) : Option String := t.toChars?.map String.ofList

theorem toChars?_ofChars (cs : List Char) : (ofChars cs).toChars? = some cs := by
  induction cs with
  | nil => rfl
  | cons c cs ih =>
    simp only [toChars?, ofChars] at ih
    simp [toChars?, ofChars, ih]

@[simp] theorem toString?_ofString (s : String) : (ofString s).toString? = some s := by
  simp [toString?, ofString, toChars?_ofChars]

@[simp] theorem ofString_inj {s t : String} : ofString s = ofString t ↔ s = t := by
  constructor
  · intro h
    have h := congrArg toString? h
    simpa using h
  · intro h
    rw [h]

theorem ofString_of_toString? {t : Text} {s : String} (h : t.toString? = some s) :
    ofString s = t := by
  obtain ⟨cs, hcs, rfl⟩ := Option.map_eq_some_iff.mp h
  obtain ⟨points⟩ := t
  have hall : cs.map CodePoint.ofChar = points := by
    rw [toChars?] at hcs
    dsimp only at hcs
    clear h
    induction points generalizing cs with
    | nil => cases hcs; rfl
    | cons c rest ih =>
      simp only [List.mapM_cons, Option.pure_def, Option.bind_eq_bind, Option.bind_eq_some_iff] at hcs
      obtain ⟨ch, hch, others, hothers, heq⟩ := hcs
      cases heq
      rw [List.map_cons, CodePoint.ofChar_of_toChar? hch, ih _ hothers]
  simp [ofString, ofChars, hall]

/-! ## Operations -/

def isEmpty (t : Text) : Bool := t.points.isEmpty

def append (a b : Text) : Text := ⟨a.points ++ b.points⟩

instance : Append Text := ⟨append⟩

/-- The pieces in a row, with a separator between them. -/
def intercalate (separator : Text) : List Text → Text
  | [] => ""
  | [piece] => piece
  | piece :: rest => piece ++ separator ++ intercalate separator rest

/-- Whether a text begins with another one. -/
def startsWith (t part : Text) : Bool := part.points.isPrefixOf t.points

/-- Whether a part occurs in a sequence. -/
def occursIn (part : List CodePoint) : List CodePoint → Bool
  | [] => part.isEmpty
  | c :: rest => part.isPrefixOf (c :: rest) || occursIn part rest

/-- Whether a text occurs in another one. -/
def contains (t part : Text) : Bool := occursIn part.points t.points

/-- A whole number in decimal digits. -/
def ofInt (n : Int) : Text := toString n

/-- The least number that has more than 4300 digits. No such number is written. -/
def leastUnwritten : Nat := Nat.pow (Nat.pow 10 43) 100

/-- Whether a whole number has more digits than are written. -/
def isUnwritten (n : Int) : Bool := leastUnwritten ≤ n.natAbs

end Text

end Tracing

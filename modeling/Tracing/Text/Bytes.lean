import Tracing.Text

/-!
# Tracing.Text.Bytes

Texts as bytes, the way in which the system holds the names of files and of variables: as UTF-8,
where a byte that belongs to no character stands in the text as a half from U+DC80 to U+DCFF.

* `toBytes?` — the bytes of a text; another half has none.
* `ofBytes`  — the text of bytes. All bytes have one.
* `unwritable?` — the first part of a text that has no bytes.
* `toBytes?_ofBytes` — the text of bytes has these bytes.
* `toBytes?_intercalate` — a text of pieces that have bytes has bytes.
-/

namespace Tracing

namespace Text

/-! ## Writing -/

/-- The byte behind a first one that holds the six lowest bits of a number. -/
def tailByte (n : Nat) : UInt8 := (0x80 + n % 64).toUInt8

/-- The bytes of a character. -/
def charBytes (n : Nat) : List UInt8 :=
  if n < 0x80 then [n.toUInt8]
  else if n < 0x800 then [(0xc0 + n / 64).toUInt8, tailByte n]
  else if n < 0x10000 then [(0xe0 + n / 64 / 64).toUInt8, tailByte (n / 64), tailByte n]
  else
    [(0xf0 + n / 64 / 64 / 64).toUInt8, tailByte (n / 64 / 64), tailByte (n / 64), tailByte n]

/-- Whether a half stands for a byte. -/
def isByte (c : CodePoint) : Bool := 0xdc80 ≤ c.value && c.value < 0xdd00

def pointBytes? (c : CodePoint) : Option (List UInt8) :=
  if isByte c then some [(c.value - 0xdc00).toUInt8]
  else if c.isHalf then none
  else some (charBytes c.value)

def toBytes? (t : Text) : Option (List UInt8) := (t.points.mapM pointBytes?).map List.flatten

/-- Where the first code point stands that is bad, and where the halves from it on end. -/
def firstRun? (t : Text) (isBad : CodePoint → Bool) : Option (Nat × Nat) :=
  (t.points.findIdx? isBad).map fun start =>
    (start, start + ((t.points.drop start).takeWhile CodePoint.isHalf).length)

/-- The first part of a text that has no bytes. -/
def unwritable? (t : Text) : Option (Nat × Nat) := t.firstRun? fun c => c.isHalf && !isByte c

/-! ## Reading -/

/-- The number of bytes behind a first one, and the bits that the first one holds. -/
def firstByte? (b : UInt8) : Option (Nat × Nat) :=
  if b < 0x80 then some (0, b.toNat)
  else if b < 0xc0 then none
  else if b < 0xe0 then some (1, b.toNat - 0xc0)
  else if b < 0xf0 then some (2, b.toNat - 0xe0)
  else if b < 0xf8 then some (3, b.toNat - 0xf0)
  else none

/-- A number with the six bits of a byte behind a first one. -/
def withTail? (n : Nat) (b : UInt8) : Option Nat :=
  if 0x80 ≤ b ∧ b < 0xc0 then some (n * 64 + (b.toNat - 0x80)) else none

/-- The least character that has that many bytes behind its first one. -/
def leastWithTails : Nat → Nat
  | 0 => 0
  | 1 => 0x80
  | 2 => 0x800
  | _ => 0x10000

/-- The character that begins with a byte, and how many of the bytes behind it belong to it. -/
def leading? (b : UInt8) (rest : List UInt8) : Option (CodePoint × Nat) := do
  let (tails, bits) ← firstByte? b
  let n ← (rest.take tails).foldlM withTail? bits
  if h : n < 0x110000 then
    let c : CodePoint := ⟨n, h⟩
    if tails ≤ rest.length ∧ leastWithTails tails ≤ n ∧ !c.isHalf then some (c, tails) else none
  else none

def ofByteList : List UInt8 → List CodePoint
  | [] => []
  | b :: rest =>
    match leading? b rest with
    | some (c, tails) => c :: ofByteList (rest.drop tails)
    | none => CodePoint.ofNat (0xdc00 + b.toNat) :: ofByteList rest
termination_by bytes => bytes.length
decreasing_by
  · simp only [List.length_drop, List.length_cons]
    omega
  · simp

def ofBytes (bytes : List UInt8) : Text := ⟨ofByteList bytes⟩

/-! ## Written again -/

theorem toUInt8_of_eq {n : Nat} {b : UInt8} (h : n = b.toNat) : n.toUInt8 = b :=
  h ▸ UInt8.ofNat_toNat

/-- A first byte holds its bits above the mark that says how many bytes follow. -/
theorem of_firstByte? {b : UInt8} {tails bits : Nat} (h : firstByte? b = some (tails, bits)) :
    tails = 0 ∧ bits = b.toNat ∧ bits < 0x80 ∨
      tails = 1 ∧ 0xc0 + bits = b.toNat ∧ bits < 0x20 ∨
      tails = 2 ∧ 0xe0 + bits = b.toNat ∧ bits < 0x10 ∨
      tails = 3 ∧ 0xf0 + bits = b.toNat ∧ bits < 0x8 := by
  have below (k : UInt8) : b < k ↔ b.toNat < k.toNat := UInt8.lt_iff_toNat_lt
  simp only [firstByte?, below, UInt8.reduceToNat] at h
  repeat' split at h
  all_goals first
    | cases h; done
    | obtain ⟨rfl, rfl⟩ := Prod.mk.inj (Option.some.inj h)
      omega

/-- A byte behind a first one gives the six lowest bits and leaves the others. -/
theorem of_withTail? {n m : Nat} {b : UInt8} (h : withTail? n b = some m) :
    m / 64 = n ∧ tailByte m = b := by
  unfold withTail? at h
  split at h
  next hb =>
    obtain ⟨low, high⟩ := hb
    have low : 0x80 ≤ b.toNat := UInt8.le_iff_toNat_le.mp low
    have high : b.toNat < 0xc0 := UInt8.lt_iff_toNat_lt.mp high
    have hm := Option.some.inj h
    exact ⟨by omega, toUInt8_of_eq (by omega)⟩
  · cases h

/-- The character of a first byte and those behind it has these bytes. -/
theorem charBytes_of_tails {b : UInt8} {rest : List UInt8} {tails bits n : Nat}
    (first : firstByte? b = some (tails, bits))
    (number : (rest.take tails).foldlM withTail? bits = some n) (enough : tails ≤ rest.length)
    (least : leastWithTails tails ≤ n) : charBytes n = b :: rest.take tails := by
  rcases of_firstByte? first with ⟨rfl, hb, hl⟩ | ⟨rfl, hb, hl⟩ | ⟨rfl, hb, hl⟩ | ⟨rfl, hb, hl⟩
  · obtain rfl : bits = n := by simpa using number
    simp [charBytes, hl, toUInt8_of_eq hb]
  · match rest, enough with
    | b₁ :: rest, _ =>
      have number : withTail? bits b₁ = some n := by simpa using number
      obtain ⟨h₁, t₁⟩ := of_withTail? number
      have low : ¬ n < 0x80 := Nat.not_lt.mpr least
      have high : n < 0x800 := by omega
      simp [charBytes, low, high, h₁, t₁, toUInt8_of_eq hb]
  · match rest, enough with
    | b₁ :: b₂ :: rest, _ =>
      obtain ⟨n₁, s₁, s₂⟩ : ∃ n₁, withTail? bits b₁ = some n₁ ∧ withTail? n₁ b₂ = some n := by
        simpa [Option.bind_eq_some_iff] using number
      obtain ⟨h₁, t₁⟩ := of_withTail? s₁
      obtain ⟨h₂, t₂⟩ := of_withTail? s₂
      have least : 0x800 ≤ n := least
      have low : ¬ n < 0x80 ∧ ¬ n < 0x800 := by omega
      have high : n < 0x10000 := by omega
      simp [charBytes, low, high, h₂, h₁, t₂, t₁, toUInt8_of_eq hb]
  · match rest, enough with
    | b₁ :: b₂ :: b₃ :: rest, _ =>
      obtain ⟨n₁, s₁, n₂, s₂, s₃⟩ : ∃ n₁, withTail? bits b₁ = some n₁ ∧
          ∃ n₂, withTail? n₁ b₂ = some n₂ ∧ withTail? n₂ b₃ = some n := by
        simpa [Option.bind_eq_some_iff] using number
      obtain ⟨h₁, t₁⟩ := of_withTail? s₁
      obtain ⟨h₂, t₂⟩ := of_withTail? s₂
      obtain ⟨h₃, t₃⟩ := of_withTail? s₃
      have least : 0x10000 ≤ n := least
      have low : ¬ n < 0x80 ∧ ¬ n < 0x800 ∧ ¬ n < 0x10000 := by omega
      simp [charBytes, low, h₃, h₂, h₁, t₃, t₂, t₁, toUInt8_of_eq hb]

theorem pointBytes?_of_leading? {b : UInt8} {rest : List UInt8} {c : CodePoint} {tails : Nat}
    (h : leading? b rest = some (c, tails)) : pointBytes? c = some (b :: rest.take tails) := by
  unfold leading? at h
  simp only [Option.bind_eq_bind, Option.bind_eq_some_iff] at h
  obtain ⟨⟨count, bits⟩, first, n, number, h⟩ := h
  split at h
  next inRange =>
    split at h
    next conditions =>
      obtain ⟨rfl, rfl⟩ := Prod.mk.inj (Option.some.inj h)
      obtain ⟨enough, least, unpaired⟩ := conditions
      have whole : CodePoint.isHalf ⟨n, inRange⟩ = false := by simpa using unpaired
      have notByte : isByte ⟨n, inRange⟩ = false := by
        simp only [CodePoint.isHalf, isByte, Bool.and_eq_false_iff, decide_eq_false_iff_not] at *
        omega
      simp [pointBytes?, whole, notByte, charBytes_of_tails first number enough least]
    · cases h
  · cases h

/-- A byte that begins no character is none that stands for itself. -/
theorem pointBytes?_of_not_leading? {b : UInt8} {rest : List UInt8} (h : leading? b rest = none) :
    pointBytes? (.ofNat (0xdc00 + b.toNat)) = some [b] := by
  have high : 0x80 ≤ b.toNat := by
    apply Nat.le_of_not_lt
    intro low
    have hb : b < 0x80 := UInt8.lt_iff_toNat_lt.mpr low
    have inRange : b.toNat < 0x110000 := by omega
    have whole : CodePoint.isHalf ⟨b.toNat, inRange⟩ = false := by
      simp only [CodePoint.isHalf, Bool.and_eq_false_iff, decide_eq_false_iff_not]
      omega
    simp [leading?, firstByte?, hb, inRange, leastWithTails, whole] at h
  have below := b.toNat_lt
  have value : (CodePoint.ofNat (0xdc00 + b.toNat)).value = 0xdc00 + b.toNat := by
    simp only [CodePoint.ofNat]
    omega
  have byte : isByte (.ofNat (0xdc00 + b.toNat)) = true := by
    simp only [isByte, value, Bool.and_eq_true, decide_eq_true_eq]
    omega
  simp [pointBytes?, byte, value]

/-- Bytes are found again, be they a text's or not. -/
theorem toBytes?_ofBytes (bytes : List UInt8) : (ofBytes bytes).toBytes? = some bytes := by
  unfold toBytes? ofBytes
  dsimp only
  induction bytes using ofByteList.induct with
  | case1 => simp [ofByteList]
  | case2 b rest c tails h ih =>
    obtain ⟨parts, hparts, joined⟩ := Option.map_eq_some_iff.mp ih
    simp [ofByteList, h, pointBytes?_of_leading? h, hparts, joined]
  | case3 b rest h ih =>
    obtain ⟨parts, hparts, joined⟩ := Option.map_eq_some_iff.mp ih
    simp [ofByteList, h, pointBytes?_of_not_leading? h, hparts, joined]

/-! ## Pieces -/

theorem toBytes?_append {a b : Text} {x y : List UInt8} (ha : a.toBytes? = some x)
    (hb : b.toBytes? = some y) : (a ++ b).toBytes? = some (x ++ y) := by
  obtain ⟨xs, hxs, rfl⟩ := Option.map_eq_some_iff.mp ha
  obtain ⟨ys, hys, rfl⟩ := Option.map_eq_some_iff.mp hb
  have points : (a ++ b).points = a.points ++ b.points := rfl
  simp [toBytes?, points, hxs, hys]

/-- A text of pieces with bytes has bytes. -/
theorem toBytes?_intercalate {separator : Text} {mark : List UInt8}
    (hs : separator.toBytes? = some mark) {pieces : List Text}
    (h : ∀ piece ∈ pieces, ∃ bytes, piece.toBytes? = some bytes) :
    ∃ bytes, (intercalate separator pieces).toBytes? = some bytes := by
  induction pieces with
  | nil => exact ⟨[], rfl⟩
  | cons first rest ih =>
    obtain ⟨x, hx⟩ := h first List.mem_cons_self
    cases rest with
    | nil => exact ⟨x, hx⟩
    | cons second others =>
      obtain ⟨y, hy⟩ := ih fun piece hp => h piece (List.mem_cons_of_mem _ hp)
      exact ⟨_, toBytes?_append (toBytes?_append hx hs) hy⟩

end Text

end Tracing

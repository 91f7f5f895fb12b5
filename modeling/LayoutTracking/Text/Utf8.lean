/-!
# Bytes as text

Bytes are read as UTF-8 whatever they are. What can begin a character but does not go on as one is
read as one replacement character, and so is each byte that cannot begin any. Main statement: the
bytes of a text are read as that text.
-/

set_option autoImplicit false

namespace LayoutTracking.Text

def replacement : Char := '\uFFFD'

structure BegunChar where
  /-- The bits of those bytes. -/
  bits : Nat
  /-- How many bytes are to come after the next one. -/
  owed : Nat
  /-- The least that the next byte may be. -/
  low : Nat
  /-- The most that the next byte may be. -/
  high : Nat
deriving DecidableEq, Repr, Inhabited

/-- What the first byte of a character is read as, and what it begins. The bounds leave out longer
ways to write a character than the shortest, surrogates, and what is past the last character. -/
def beginChar (byte : Nat) : List Char × Option BegunChar :=
  if byte < 0x80 then ([Char.ofNat byte], none)
  else if byte < 0xC2 then ([replacement], none)
  else if byte < 0xE0 then ([], some ⟨byte - 0xC0, 0, 0x80, 0xBF⟩)
  else if byte < 0xF0 then
    ([], some ⟨byte - 0xE0, 1, if byte = 0xE0 then 0xA0 else 0x80,
      if byte = 0xED then 0x9F else 0xBF⟩)
  else if byte < 0xF5 then
    ([], some ⟨byte - 0xF0, 2, if byte = 0xF0 then 0x90 else 0x80,
      if byte = 0xF4 then 0x8F else 0xBF⟩)
  else ([replacement], none)

/-- What one more byte of a character is read as, and what is begun after it. A byte that does not
go on with the character begins another one. -/
def BegunChar.next (begun : BegunChar) (byte : Nat) : List Char × Option BegunChar :=
  if begun.low ≤ byte ∧ byte ≤ begun.high then
    let bits := begun.bits * 64 + (byte - 0x80)
    match begun.owed with
    | 0 => ([Char.ofNat bits], none)
    | owed + 1 => ([], some ⟨bits, owed, 0x80, 0xBF⟩)
  else
    let (chars, begun) := beginChar byte
    (replacement :: chars, begun)

def decodeFrom : Option BegunChar → List UInt8 → List Char
  | none, [] => []
  | some _, [] => [replacement]
  | begun, byte :: rest =>
    let (chars, begun) := begun.elim (beginChar byte.toNat) (·.next byte.toNat)
    chars ++ decodeFrom begun rest

def decode (bytes : List UInt8) : List Char := decodeFrom none bytes

def encode (chars : List Char) : List UInt8 := chars.flatMap String.utf8EncodeChar

/-! ## Reading what was written -/

theorem BegunChar.next_last {bits low high byte : Nat} (least : low ≤ byte)
    (most : byte ≤ high) :
    (BegunChar.mk bits 0 low high).next byte =
      ([Char.ofNat (bits * 64 + (byte - 0x80))], none) := by
  simp [next, least, most]

theorem BegunChar.next_owed {bits owed low high byte : Nat} (least : low ≤ byte)
    (most : byte ≤ high) :
    (BegunChar.mk bits (owed + 1) low high).next byte =
      ([], some ⟨bits * 64 + (byte - 0x80), owed, 0x80, 0xBF⟩) := by
  simp [next, least, most]

theorem decodeFrom_cons (begun : Option BegunChar) (byte : UInt8) (rest : List UInt8) :
    decodeFrom begun (byte :: rest) =
      (begun.elim (beginChar byte.toNat) (·.next byte.toNat)).1 ++
        decodeFrom (begun.elim (beginChar byte.toNat) (·.next byte.toNat)).2 rest := by
  rw [decodeFrom]

theorem toNat_ofNat_byte {value : Nat} (small : value < 256) :
    (UInt8.ofNat value).toNat = value := by
  rw [UInt8.toNat_ofNat']
  omega

/-- The bytes of a character are read as that character, whatever follows. -/
theorem decodeFrom_encodeChar (c : Char) (rest : List UInt8) :
    decodeFrom none (String.utf8EncodeChar c ++ rest) = c :: decodeFrom none rest := by
  have valid : c.toNat < 0xD800 ∨ 0xDFFF < c.toNat ∧ c.toNat < 0x110000 := c.valid
  have same : Char.ofNat c.toNat = c := Char.ofNat_toNat c
  unfold String.utf8EncodeChar
  simp only [show c.val.toNat = c.toNat from rfl]
  generalize c.toNat = code at valid same
  split
  · rw [List.singleton_append, decodeFrom_cons, Option.elim_none, toNat_ofNat_byte (by omega),
      beginChar, if_pos (by omega), same]
    rfl
  split
  · simp only [List.cons_append, List.nil_append]
    have whole : (code / 64 % 32 + 192 - 0xC0) * 64 + (code % 64 + 128 - 0x80) = code := by
      omega
    rw [decodeFrom_cons, Option.elim_none, toNat_ofNat_byte (by omega), beginChar,
      if_neg (by omega), if_neg (by omega), if_pos (by omega),
      decodeFrom_cons, Option.elim_some, toNat_ofNat_byte (by omega),
      BegunChar.next_last (by omega) (by omega), whole, same]
    rfl
  split
  · simp only [List.cons_append, List.nil_append]
    have whole : ((code / 4096 % 16 + 224 - 0xE0) * 64 + (code / 64 % 64 + 128 - 0x80)) * 64 +
        (code % 64 + 128 - 0x80) = code := by
      omega
    rw [decodeFrom_cons, Option.elim_none, toNat_ofNat_byte (by omega), beginChar,
      if_neg (by omega), if_neg (by omega), if_neg (by omega), if_pos (by omega),
      decodeFrom_cons, Option.elim_some, toNat_ofNat_byte (by omega),
      BegunChar.next_owed (by split <;> omega) (by split <;> omega),
      decodeFrom_cons, Option.elim_some, toNat_ofNat_byte (by omega),
      BegunChar.next_last (by omega) (by omega), whole, same]
    rfl
  · simp only [List.cons_append, List.nil_append]
    have whole : (((code / 262144 % 8 + 240 - 0xF0) * 64 + (code / 4096 % 64 + 128 - 0x80)) * 64 +
        (code / 64 % 64 + 128 - 0x80)) * 64 + (code % 64 + 128 - 0x80) = code := by
      omega
    rw [decodeFrom_cons, Option.elim_none, toNat_ofNat_byte (by omega), beginChar,
      if_neg (by omega), if_neg (by omega), if_neg (by omega), if_neg (by omega),
      if_pos (by omega), decodeFrom_cons, Option.elim_some, toNat_ofNat_byte (by omega),
      BegunChar.next_owed (by split <;> omega) (by split <;> omega),
      decodeFrom_cons, Option.elim_some, toNat_ofNat_byte (by omega),
      BegunChar.next_owed (by omega) (by omega),
      decodeFrom_cons, Option.elim_some, toNat_ofNat_byte (by omega),
      BegunChar.next_last (by omega) (by omega), whole, same]
    rfl

/-- The bytes of a text are read as that text. -/
theorem decode_encode (chars : List Char) : decode (encode chars) = chars := by
  induction chars with
  | nil => rfl
  | cons c rest ih =>
    rw [encode, List.flatMap_cons, decode, decodeFrom_encodeChar]
    exact congrArg (c :: ·) ih

end LayoutTracking.Text

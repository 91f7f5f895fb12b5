import LayoutTracking.Ron.Quoted

/-!
# Quoted texts

The spellings of a text in quotation marks: each character stands for itself or is escaped, in one
of several ways. A quoted text is read as the text that it spells, and what is written spells the
text that it was written for.
-/

set_option autoImplicit false

namespace LayoutTracking

/-! ## Digits -/

namespace Text

variable {base value total : Nat} {chars : List Char}

theorem digit?_digitChar : ∀ digit < 16, digit? (Nat.digitChar digit) = some digit := by decide

theorem readDigits?_append (base : Nat) (left right : List Char) (value : Nat) :
    readDigits? base (left ++ right) value =
      (readDigits? base left value).bind (readDigits? base right) := by
  induction left generalizing value with
  | nil => rfl
  | cons c left ih =>
    rw [List.cons_append, readDigits?, readDigits?]
    cases digit? c with
    | none => rfl
    | some digit =>
      dsimp only
      split
      · exact ih _
      · rfl

theorem readDigits?_toDigits (proper : 1 < base) (bound : base ≤ 16) (value : Nat) :
    readDigits? base (Nat.toDigits base value) 0 = some value := by
  have single {digit : Nat} (below : digit < base) (before : Nat) :
      readDigits? base (Nat.toDigits base digit) before = some (before * base + digit) := by
    rw [Nat.toDigits_of_lt_base below, readDigits?, digit?_digitChar digit (by omega)]
    simp only [if_pos below, readDigits?]
  induction value using Nat.base_induction base proper with
  | single digit below => rw [single below, Nat.zero_mul, Nat.zero_add]
  | digit value digit below positive ih =>
    rw [← Nat.toDigits_append_toDigits proper positive below, readDigits?_append, ih,
      Option.bind_some, single below, Nat.mul_comm]

theorem isSome_digit?_of_readDigits? (read : readDigits? base chars value = some total) :
    ∀ c ∈ chars, (digit? c).isSome = true := by
  induction chars generalizing value with
  | nil => exact nofun
  | cons c chars ih =>
    rw [readDigits?] at read
    cases digit : digit? c with
    | none =>
      rw [digit] at read
      cases read
    | some found =>
      rw [digit] at read
      dsimp only at read
      split at read
      · exact List.forall_mem_cons.mpr ⟨by rw [digit]; rfl, ih read⟩
      · cases read

end Text

namespace Ron

/-! ## Spellings of characters -/

/-- The ways to write a character in a text that the mark closes. -/
inductive CharSpelled (close : Char) : Char → List Char → Prop
  | itself {c : Char} (apart : c ≠ close) (plain : c ≠ '\\') : CharSpelled close c [c]
  | letter {c letter : Char} (means : simpleEscape? letter = some c) :
    CharSpelled close c ['\\', letter]
  | byte {first second : Char} {high low : Nat} (isHigh : Text.digit? first = some high)
      (isLow : Text.digit? second = some low) :
    CharSpelled close (Char.ofNat (high * 16 + low)) ['\\', 'x', first, second]
  | unicode {c : Char} {digits : List Char} (written : digits ≠ []) (few : digits.length ≤ 6)
      (means : Text.readDigits? 16 digits 0 = some c.toNat) :
    CharSpelled close c (['\\', 'u', '\x7b'] ++ digits ++ ['\x7d'])

/-- The ways to write a text up to the mark that closes it. -/
inductive BodySpelled (close : Char) : List Char → List Char → Prop
  | nil : BodySpelled close [] []
  | cons {c : Char} {text chars more : List Char} (first : CharSpelled close c chars)
      (rest : BodySpelled close text more) : BodySpelled close (c :: text) (chars ++ more)

/-- The ways to write a text between quotation marks. -/
def TextSpelled (text chars : List Char) : Prop :=
  ∃ body, BodySpelled '"' text body ∧ chars = ['"'] ++ body ++ ['"']

/-! ## Reading -/

/-- The characters as glyphs. -/
def glyphs (chars : List Char) : List Glyph := chars.map .char

@[simp] theorem glyphs_nil : glyphs [] = [] := rfl

@[simp] theorem glyphs_cons (c : Char) (chars : List Char) :
    glyphs (c :: chars) = .char c :: glyphs chars := rfl

@[simp] theorem glyphs_append (left right : List Char) :
    glyphs (left ++ right) = glyphs left ++ glyphs right := List.map_append

variable {close c : Char} {text chars : List Char}

theorem charOf?_toNat (c : Char) : charOf? c.toNat = some c := by
  have valid : c.toNat.isValidChar := c.valid
  rw [charOf?, dif_pos valid]
  rfl

/-- Digits between braces go on to the character, as long as there are six of them at most. -/
theorem quotedIn_digits {digits : List Char} {count code total : Nat}
    (few : count + digits.length ≤ 6) (means : Text.readDigits? 16 digits code = some total)
    (rest : List Glyph) :
    quotedIn close (.unicode count code) (glyphs digits ++ rest) =
      quotedIn close (.unicode (count + digits.length) total) rest := by
  induction digits generalizing count code with
  | nil =>
    obtain rfl := Option.some.inj means
    rfl
  | cons c digits ih =>
    rw [List.length_cons] at few ⊢
    rw [Text.readDigits?] at means
    cases digit : Text.digit? c with
    | none =>
      rw [digit] at means
      cases means
    | some found =>
      rw [digit] at means
      dsimp only at means
      split at means
      · have inside : c ≠ '\x7d' := by
          rintro rfl
          cases digit
        rw [glyphs_cons, List.cons_append, quotedIn, if_neg inside, if_pos (by omega), digit]
        dsimp only
        rw [ih (by omega) means, Nat.add_assoc, Nat.add_comm 1]
      · cases means

theorem quotedIn_escape (mark : close ≠ '\\') (rest : List Glyph) :
    quotedIn close .outside (.char '\\' :: rest) = quotedIn close .begun rest := by
  rw [quotedIn, if_neg mark.symm, if_pos rfl]

theorem quotedIn_char (mark : close ≠ '\\') (spelled : CharSpelled close c chars)
    (rest : List Glyph) :
    quotedIn close .outside (glyphs chars ++ rest) =
      (quotedIn close .outside rest).map fun (text, rest) => (c :: text, rest) := by
  cases spelled with
  | itself apart plain =>
    rw [glyphs_cons, glyphs_nil, List.singleton_append, quotedIn, if_neg apart, if_neg plain]
  | @letter _ letter means =>
    have notByte : letter ≠ 'x' := by
      rintro rfl
      cases means
    have notUnicode : letter ≠ 'u' := by
      rintro rfl
      cases means
    simp only [glyphs_cons, glyphs_nil, List.cons_append, List.nil_append, quotedIn_escape mark]
    rw [quotedIn, if_neg notByte, if_neg notUnicode, means]
  | byte isHigh isLow =>
    simp only [glyphs_cons, glyphs_nil, List.cons_append, List.nil_append, quotedIn_escape mark]
    rw [quotedIn, if_pos rfl]
    simp only [quotedIn, isHigh, isLow]
  | @unicode _ digits written few means =>
    have counted : 0 + digits.length ≠ 0 := by
      rw [Nat.zero_add]
      exact mt List.length_eq_zero_iff.mp written
    simp only [glyphs_cons, glyphs_nil, glyphs_append, List.cons_append, List.nil_append,
      List.append_assoc, quotedIn_escape mark]
    rw [quotedIn, if_neg (by decide), if_pos rfl, quotedIn, if_pos rfl,
      quotedIn_digits (by omega) means, quotedIn, if_pos rfl, if_neg counted, charOf?_toNat]

theorem quotedIn_body (mark : close ≠ '\\') (spelled : BodySpelled close text chars)
    (rest : List Glyph) :
    quotedIn close .outside (glyphs chars ++ .char close :: rest) = some (text, rest) := by
  induction spelled with
  | nil => rw [glyphs_nil, List.nil_append, quotedIn, if_pos rfl]
  | cons first others ih =>
    rw [glyphs_append, List.append_assoc, quotedIn_char mark first, ih]
    rfl

theorem text?_spelled (spelled : TextSpelled text chars) (rest : List Glyph) :
    text? (glyphs chars ++ rest) = some (text, rest) := by
  obtain ⟨body, spelled, rfl⟩ := spelled
  simp only [glyphs_cons, glyphs_nil, glyphs_append, List.cons_append, List.nil_append,
    List.append_assoc]
  exact quotedIn_body (by decide) spelled rest

/-! ## Writing -/

/-- No code point takes more than six digits. -/
theorem charSpelled_unicodeEscape (close c : Char) : CharSpelled close c (unicodeEscape c) := by
  have bound : c.toNat < 16 ^ 6 := by
    rcases c.valid with below | ⟨-, below⟩
    · exact Nat.lt_trans below (by decide)
    · exact Nat.lt_trans below (by decide)
  have means : Text.readDigits? 16 (Text.hexadecimal c.toNat).toList 0 = some c.toNat := by
    rw [Text.hexadecimal, String.toList_ofList]
    exact Text.readDigits?_toDigits (by decide) (by decide) _
  refine .unicode ?_ ?_ means
  · rw [Text.hexadecimal, String.toList_ofList]
    exact Nat.toDigits_ne_nil
  · rw [Text.hexadecimal, String.toList_ofList]
    exact (Nat.length_toDigits_le_iff (by decide) (by decide)).mpr bound

/-- What is written between quotation marks of either kind. -/
theorem charSpelled_escape {close : Char} (mark : close = '"' ∨ close = '\'') (c : Char) :
    CharSpelled close c (escape c) := by
  unfold escape
  split
  · exact .letter rfl
  · exact .letter rfl
  · exact .letter rfl
  · exact .letter rfl
  · exact .letter rfl
  · exact .letter rfl
  · exact .letter rfl
  · next noQuote noMark noBackslash =>
    split
    · exact .itself (by rcases mark with rfl | rfl <;> assumption) noBackslash
    · exact charSpelled_unicodeEscape close _

theorem bodySpelled_flatMap (text : List Char) : BodySpelled '"' text (text.flatMap escape) := by
  induction text with
  | nil => exact .nil
  | cons c text ih => exact .cons (charSpelled_escape (.inl rfl) c) ih

theorem textSpelled_quote (text : List Char) : TextSpelled text (quote text) :=
  ⟨_, bodySpelled_flatMap text, rfl⟩

end Ron

end LayoutTracking

import LayoutTracking.Ron.Glyph
import LayoutTracking.Text.Digits

/-!
# Lexical elements

The smallest pieces of the settings notation: blanks and comments, identifiers, numbers, and texts
in quotation marks. A reader takes a piece off the front of the glyphs and hands over the rest, or
fails.
-/

set_option autoImplicit false

namespace LayoutTracking.Ron

abbrev Reader (α : Type) := List Glyph → Option (α × List Glyph)

/-! ## Blanks -/

def isSpace (c : Char) : Bool := c == ' ' || c == '\n' || c == '\t' || c == '\r'

inductive BlankState where
  | outside
  | lineComment
  /-- In a block comment, inside so many others. -/
  | blockComment (nesting : Nat)
deriving DecidableEq, Repr, Inhabited

/-- The glyphs after the blanks. A line comment goes on to the end of the line or of the text; a
block comment has to be closed. -/
def skipBlanksIn : BlankState → List Glyph → Option (List Glyph)
  | .outside, .char '/' :: .char '/' :: rest => skipBlanksIn .lineComment rest
  | .outside, .char '/' :: .char '*' :: rest => skipBlanksIn (.blockComment 0) rest
  | .outside, .char '/' :: _ => none
  | .outside, .char c :: rest =>
    if isSpace c then skipBlanksIn .outside rest else some (.char c :: rest)
  | .outside, rest => some rest
  | .lineComment, .char '\n' :: rest => skipBlanksIn .outside rest
  | .lineComment, _ :: rest => skipBlanksIn .lineComment rest
  | .lineComment, [] => some []
  | .blockComment nesting, .char '/' :: .char '*' :: rest =>
    skipBlanksIn (.blockComment (nesting + 1)) rest
  | .blockComment 0, .char '*' :: .char '/' :: rest => skipBlanksIn .outside rest
  | .blockComment (nesting + 1), .char '*' :: .char '/' :: rest =>
    skipBlanksIn (.blockComment nesting) rest
  | .blockComment nesting, _ :: rest => skipBlanksIn (.blockComment nesting) rest
  | .blockComment _, [] => none

def skipBlanks (glyphs : List Glyph) : Option (List Glyph) := skipBlanksIn .outside glyphs

/-! ## Words -/

/-- The characters in front that satisfy a condition, and the glyphs from the first other one. -/
def takeChars (holds : Char → Bool) : List Glyph → List Char × List Glyph
  | .char c :: rest =>
    if holds c then
      let (chars, rest) := takeChars holds rest
      (c :: chars, rest)
    else
      ([], .char c :: rest)
  | rest => ([], rest)

/-- Whether the glyphs begin with a character that satisfies a condition. -/
def startsWith (holds : Char → Bool) : List Glyph → Bool
  | .char c :: _ => holds c
  | _ => false

/-- The glyphs after the given characters, if these are in front. -/
def literal? : List Char → List Glyph → Option (List Glyph)
  | [], rest => some rest
  | expected :: more, .char c :: rest => if c = expected then literal? more rest else none
  | _ :: _, _ => none

def isLetter (c : Char) : Bool := ('a' ≤ c && c ≤ 'z') || ('A' ≤ c && c ≤ 'Z')

def isDecimal (c : Char) : Bool := '0' ≤ c && c ≤ '9'

def startsIdentifier (c : Char) : Bool := isLetter c || c == '_'

def inIdentifier (c : Char) : Bool := startsIdentifier c || isDecimal c

/-- The characters of a raw identifier, some of which no plain one has. -/
def inRawIdentifier (c : Char) : Bool := inIdentifier c || c == '.' || c == '+' || c == '-'

def keyword? (word : String) (glyphs : List Glyph) : Option (List Glyph) := do
  let rest ← literal? word.toList glyphs
  if startsWith inIdentifier rest then none else some rest

/-- A plain identifier: as long as possible, and not going on as only a raw one could. -/
def plainIdentifier? : Reader (List Char) := fun glyphs =>
  let (name, rest) := takeChars inIdentifier glyphs
  if startsWith inRawIdentifier rest then none else some (name, rest)

/-- An identifier. An `r` in front of a quotation mark or of a `#` does not begin a plain one: it
begins a raw text or, where the `#` is followed by a character for it, a raw identifier. -/
def identifier? : Reader (List Char)
  | [.char 'r'] => none
  | .char 'r' :: .char '"' :: _ => none
  | .char 'r' :: .char '#' :: rest =>
    if startsWith inRawIdentifier rest then some (takeChars inRawIdentifier rest) else none
  | glyphs => if startsWith startsIdentifier glyphs then plainIdentifier? glyphs else none

/-! ## Numbers -/

def inInteger (c : Char) : Bool := (Text.digit? c).isSome || c == '_'

def inFloat (c : Char) : Bool :=
  isDecimal c || c == 'e' || c == 'E' || c == '.' || c == '+' || c == '-' || c == '_'

/-- The base that the glyphs announce, ten if none. -/
def integerBase : List Glyph → Nat × List Glyph
  | .char '0' :: .char 'x' :: rest => (16, rest)
  | .char '0' :: .char 'o' :: rest => (8, rest)
  | .char '0' :: .char 'b' :: rest => (2, rest)
  | rest => (10, rest)

/-- An integer without a sign, up to a bound. Underscores may stand between and after the digits,
not before them. Hexadecimal digits always belong to the number, even where the base has no use
for them. -/
def natural? (bound : Nat) : Reader Nat := fun glyphs => do
  let (base, glyphs) := integerBase glyphs
  let (written, rest) := takeChars inInteger glyphs
  if written.isEmpty || written.head? == some '_' then none
  let value ← Text.readDigits? base (written.filter (· != '_')) 0
  if value < bound then some (value, rest) else none

/-- The digits after an exponent sign, of which there have to be some. -/
def isExponent (chars : List Char) : Bool :=
  let digits := match chars with
    | '+' :: digits => digits
    | '-' :: digits => digits
    | digits => digits
  !digits.isEmpty && digits.all isDecimal

/-- The part of a floating-point number after its whole digits; `some` says that there were any
digits yet. -/
def isFraction (anyDigits : Bool) : List Char → Bool
  | [] => anyDigits
  | c :: rest =>
    if c == 'e' || c == 'E' then anyDigits && isExponent rest
    else isDecimal c && isFraction true rest

def isUnsignedFloat (anyDigits : Bool) : List Char → Bool
  | [] => anyDigits
  | c :: rest =>
    if c == '.' then isFraction anyDigits rest
    else if c == 'e' || c == 'E' then anyDigits && isExponent rest
    else isDecimal c && isUnsignedFloat true rest

/-- Whether the characters are a floating-point number: a digit at least, a point perhaps, and an
exponent perhaps. -/
def isFloat : List Char → Bool
  | '+' :: rest => isUnsignedFloat false rest
  | '-' :: rest => isUnsignedFloat false rest
  | chars => isUnsignedFloat false chars

/-- The glyphs after a floating-point number, whose value is of no interest. -/
def skipFloat? (glyphs : List Glyph) : Option (List Glyph) :=
  match ["inf", "+inf", "-inf", "NaN", "+NaN", "-NaN"].findSome? (keyword? · glyphs) with
  | some rest => some rest
  | none =>
    let (written, rest) := takeChars inFloat glyphs
    if isFloat written then some rest else none

/-- The glyphs after an integer, which fits a word of 64 bits: a signed one if it has a sign. -/
def skipInteger? : List Glyph → Option (List Glyph)
  | .char '+' :: rest => (natural? (UInt64.size / 2) rest).map (·.2)
  | .char '-' :: rest => (natural? (UInt64.size / 2 + 1) rest).map (·.2)
  | glyphs => (natural? UInt64.size glyphs).map (·.2)

/-- Whether a number is written with characters that no integer has. -/
def looksLikeFloat : List Glyph → Bool
  | .char '+' :: rest => longerAsFloat rest
  | .char '-' :: rest => longerAsFloat rest
  | glyphs => longerAsFloat glyphs
where
  longerAsFloat (glyphs : List Glyph) : Bool :=
    (takeChars inInteger glyphs).1.length < (takeChars inFloat glyphs).1.length

/-- The glyphs after a number. What is no integer, or too large for one, may be a floating-point
number still. -/
def skipNumber? (glyphs : List Glyph) : Option (List Glyph) :=
  if looksLikeFloat glyphs then skipFloat? glyphs
  else (skipInteger? glyphs).orElse fun _ => skipFloat? glyphs

/-! ## Quoted texts -/

inductive EscapeState where
  /-- In no escape. -/
  | outside
  /-- After a backslash. -/
  | begun
  /-- Two hexadecimal digits name a character; the first one was there. -/
  | byte (first : Option Nat)
  /-- A brace has to come. -/
  | brace
  /-- At most six hexadecimal digits in braces name a character. -/
  | unicode (count code : Nat)
deriving DecidableEq, Repr, Inhabited

def simpleEscape? : Char → Option Char
  | '\'' => some '\''
  | '"' => some '"'
  | '\\' => some '\\'
  | 'n' => some '\n'
  | 'r' => some '\r'
  | 't' => some '\t'
  | '0' => some '\x00'
  | _ => none

def charOf? (code : Nat) : Option Char :=
  if valid : code.isValidChar then some (Char.ofNatAux code valid) else none

/-- The characters of a quoted text up to its closing mark, and the glyphs after that. -/
def quotedIn (close : Char) : EscapeState → Reader (List Char)
  | _, [] => none
  | _, .stray _ :: _ => none
  | .outside, .char c :: rest =>
    if c = close then some ([], rest)
    else if c = '\\' then quotedIn close .begun rest
    else (quotedIn close .outside rest).map fun (chars, rest) => (c :: chars, rest)
  | .begun, .char c :: rest =>
    if c = 'x' then quotedIn close (.byte none) rest
    else if c = 'u' then quotedIn close .brace rest
    else
      match simpleEscape? c with
      | some meant => (quotedIn close .outside rest).map fun (chars, rest) => (meant :: chars, rest)
      | none => none
  | .byte first, .char c :: rest =>
    match Text.digit? c, first with
    | some digit, none => quotedIn close (.byte (some digit)) rest
    | some digit, some high =>
      (quotedIn close .outside rest).map fun (chars, rest) =>
        (Char.ofNat (high * 16 + digit) :: chars, rest)
    | none, _ => none
  | .brace, .char c :: rest =>
    if c = '\x7b' then quotedIn close (.unicode 0 0) rest else none
  | .unicode count code, .char c :: rest =>
    if c = '\x7d' then
      if count = 0 then none
      else
        match charOf? code with
        | some meant =>
          (quotedIn close .outside rest).map fun (chars, rest) => (meant :: chars, rest)
        | none => none
    else if count < 6 then
      match Text.digit? c with
      | some digit => quotedIn close (.unicode (count + 1) (code * 16 + digit)) rest
      | none => none
    else
      none

/-- The glyphs after a closing mark with so many number signs behind it, if these are in front. -/
def closing? (signs : Nat) : List Glyph → Option (List Glyph)
  | .char '"' :: rest => literal? (List.replicate signs '#') rest
  | _ => none

/-- The characters of a raw text up to the first closing mark with so many number signs. -/
def rawIn (signs : Nat) : Reader (List Char)
  | [] => none
  | glyph :: rest =>
    match closing? signs (glyph :: rest), glyph with
    | some rest, _ => some ([], rest)
    | none, .char c => (rawIn signs rest).map fun (chars, rest) => (c :: chars, rest)
    | none, .stray _ => none

/-- A text: quoted, or raw, which has an `r` in front, may have number signs around its quotation
marks, and has no escapes. -/
def text? : Reader (List Char)
  | .char '"' :: rest => quotedIn '"' .outside rest
  | .char 'r' :: rest =>
    let (signs, rest) := takeChars (· == '#') rest
    match rest with
    | .char '"' :: rest => rawIn signs.length rest
    | _ => none
  | _ => none

def skipCharacter? : List Glyph → Option (List Glyph)
  | .char '\'' :: rest =>
    match quotedIn '\'' .outside rest with
    | some ([_], rest) => some rest
    | _ => none
  | _ => none

end LayoutTracking.Ron

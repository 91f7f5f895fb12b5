/-!
# Glyphs

Settings files are read glyph by glyph: a character, or a byte that belongs to no character. Such
a byte does no harm inside a comment and is an error anywhere else, so decoding keeps it.
-/

set_option autoImplicit false

namespace LayoutTracking.Ron

inductive Glyph where
  | char (c : Char)
  /-- A byte that is no part of a character in UTF-8. -/
  | stray (byte : UInt8)
deriving DecidableEq, Inhabited

namespace Glyph

def ofText (text : String) : List Glyph := text.toList.map .char

/-- Whether a byte continues a character that an earlier byte began. -/
def isContinuation (byte : UInt8) : Bool := 0x80 ≤ byte && byte ≤ 0xBF

def continued (code : Nat) (byte : UInt8) : Nat := code * 64 + byte.toNat % 64

/-- The character that a byte begins and the number of bytes after it that are part of it. The
arguments say how many these have to be, the code point so far, and the least code point that
is written with so many bytes. -/
def multibyte? (count code least : Nat) (rest : List UInt8) : Option (Char × Nat) :=
  let bytes := rest.take count
  let value := bytes.foldl continued code
  if bytes.length = count && bytes.all isContinuation && least ≤ value then
    if valid : value.isValidChar then some (Char.ofNatAux value valid, count) else none
  else
    none

/-- The character that begins with `byte` in front of `rest`, with the number of bytes of `rest`
that are part of it. -/
def charAt? (byte : UInt8) (rest : List UInt8) : Option (Char × Nat) :=
  let code := byte.toNat
  if code < 0x80 then multibyte? 0 code 0 rest
  else if code < 0xC0 then none
  else if code < 0xE0 then multibyte? 1 (code - 0xC0) 0x80 rest
  else if code < 0xF0 then multibyte? 2 (code - 0xE0) 0x800 rest
  else if code < 0xF8 then multibyte? 3 (code - 0xF0) 0x10000 rest
  else none

/-- The glyphs of the bytes, when the first `part` of them are part of a glyph already seen. -/
def ofBytes (part : Nat) : List UInt8 → List Glyph
  | [] => []
  | byte :: rest =>
    match part with
    | part + 1 => ofBytes part rest
    | 0 =>
      match charAt? byte rest with
      | some (c, further) => .char c :: ofBytes further rest
      | none => .stray byte :: ofBytes 0 rest

def ofFile (file : List UInt8) : List Glyph := ofBytes 0 file

end Glyph

end LayoutTracking.Ron

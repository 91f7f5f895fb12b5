import LayoutTracking.Ron.Lexical

/-!
# Sequences

Items between two marks, separated by commas, of which one may follow the last item. Structures,
tuples, lists and maps are all written like this.
-/

set_option autoImplicit false

namespace LayoutTracking.Ron

def comma? : Reader Bool := fun glyphs => do
  match ← skipBlanks glyphs with
  | .char ',' :: rest => return (true, ← skipBlanks rest)
  | rest => return (false, rest)

def colon? (glyphs : List Glyph) : Option (List Glyph) := do
  match ← skipBlanks glyphs with
  | .char ':' :: rest => skipBlanks rest
  | _ => none

/-- Reads items up to the closing mark, and takes the mark too. Each item takes the state one step
further. The first argument bounds the number of items; `separated` says that an item may come
next, as at the start and after a comma. -/
def itemsWithin {σ : Type} (close : Char) (item : σ → Reader σ) :
    Nat → Bool → σ → Reader σ
  | 0, _, _, _ => none
  | fuel + 1, separated, state, glyphs => do
    match ← skipBlanks glyphs with
    | [] => none
    | next :: rest =>
      if next = .char close then
        return (state, rest)
      else if separated then
        let (state, rest) ← item state (next :: rest)
        let (separated, rest) ← comma? rest
        itemsWithin close item fuel separated state rest
      else
        none

/-- Reads items up to the closing mark, of which there cannot be more than there are glyphs. -/
def items {σ : Type} (close : Char) (item : σ → Reader σ) (state : σ) : Reader σ :=
  fun glyphs => itemsWithin close item (glyphs.length + 1) true state glyphs

end LayoutTracking.Ron

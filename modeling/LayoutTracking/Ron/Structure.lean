import LayoutTracking.Ron.Skip

/-!
# Structures

Reading values whose form is known: structures with named fields, and optional values. How deeply a
value may be nested is handed down to the values of unknown fields.
-/

set_option autoImplicit false

namespace LayoutTracking.Ron

structure Context where
  /-- Whether a value may stand where an optional one is expected. -/
  implicitSome : Bool
  /-- How many levels of nesting are left. -/
  depth : Nat
deriving DecidableEq, Repr, Inhabited

def Context.inside (context : Context) (levels : Nat) : Context :=
  { context with depth := context.depth - levels }

/-- The glyphs after the name of a structure, which may be left out. -/
def structureName? (name : String) (glyphs : List Glyph) : Option (List Glyph) := do
  if startsWith inIdentifier glyphs then
    let (written, rest) ← identifier? glyphs
    if written = name.toList then skipBlanks rest else none
  else
    skipBlanks glyphs

/-- A field: its name, a colon, and a value that its reader takes from there. -/
def field? {σ : Type} (value : List Char → σ → Reader σ) (state : σ) : Reader σ := fun glyphs => do
  let (name, rest) ← identifier? glyphs
  value name state (← colon? rest)

def structure? {σ : Type} (name : String) (value : List Char → σ → Reader σ) (state : σ) :
    Reader σ := fun glyphs => do
  items ')' (field? value) state (← literal? ['('] (← structureName? name glyphs))

/-- A value where an optional one is expected, if that is allowed. -/
def implied? {α : Type} (context : Context) (value : Reader α) : Reader (Option α) :=
  fun glyphs =>
    if context.implicitSome then (value glyphs).map fun (content, rest) => (some content, rest)
    else none

/-- An optional value: `None`, a value in parentheses behind `Some`, or an implied one. The words
need not end there: a raw text may follow `Some` at once. -/
def optional? {α : Type} (context : Context) (value : Reader α) : Reader (Option α) :=
  fun glyphs =>
    match literal? "None".toList glyphs, literal? "Some".toList glyphs with
    | some rest, _ => some (none, rest)
    | none, none => implied? context value glyphs
    | none, some rest => do
      match ← skipBlanks rest with
      | .char '(' :: rest =>
        let (content, rest) ← value (← skipBlanks rest)
        let (_, rest) ← comma? rest
        return (some content, ← literal? [')'] rest)
      | rest => implied? context value rest

def bool? : Reader Bool := fun glyphs =>
  match literal? "true".toList glyphs with
  | some rest => some (true, rest)
  | none => (literal? "false".toList glyphs).map fun rest => (false, rest)

/-- A field that is read once at most: a second one of the name is an error. -/
def once? {α σ : Type} (given : Option α) (value : Reader α) (keep : α → σ) : Reader σ :=
  fun glyphs =>
    match given with
    | some _ => none
    | none => (value glyphs).map fun (content, rest) => (keep content, rest)

def unknownField? {σ : Type} (context : Context) (state : σ) : Reader σ := fun glyphs =>
  (skipValue context.implicitSome context.depth glyphs).map fun rest => (state, rest)

/-! ## Attributes -/

/-- The extensions of the notation that a text can enable. Only one of them matters here. -/
inductive Extension where
  | unwrapNewtypes
  | implicitSome
  | unwrapVariantNewtypes
deriving DecidableEq, Repr, Inhabited

def Extension.ofName? (name : List Char) : Option Extension :=
  if name = "unwrap_newtypes".toList then some .unwrapNewtypes
  else if name = "implicit_some".toList then some .implicitSome
  else if name = "unwrap_variant_newtypes".toList then some .unwrapVariantNewtypes
  else none

/-- The glyphs after words in a row, with blanks behind each as may be. -/
def literals? (words : List String) (glyphs : List Glyph) : Option (List Glyph) :=
  words.foldlM (fun glyphs word => do skipBlanks (← literal? word.toList glyphs)) glyphs

/-- The names of extensions up to one without a comma and another name behind it. Says whether
one of them, or one before, makes optional values implicit. -/
def extensionsWithin : Nat → Bool → Reader Bool
  | 0, _, _ => none
  | fuel + 1, implicitSome, glyphs => do
    let (name, rest) ← identifier? glyphs
    let extension ← Extension.ofName? name
    let implicitSome := implicitSome || extension == .implicitSome
    let (separated, rest) ← comma? rest
    match separated, startsWith inIdentifier rest with
    | true, true => extensionsWithin fuel implicitSome rest
    | false, true => none
    | _, false => return (implicitSome, rest)

/-- The attributes in front of a text, each of which enables extensions. -/
def attributesWithin : Nat → Bool → Reader Bool
  | 0, _, _ => none
  | fuel + 1, implicitSome, glyphs =>
    match glyphs with
    | .char '#' :: _ => do
      let rest ← literals? ["#", "!", "[", "enable", "("] glyphs
      let (implicitSome, rest) ← extensionsWithin (rest.length + 1) implicitSome rest
      attributesWithin fuel implicitSome (← literals? [")", "]"] (← skipBlanks rest))
    | _ => some (implicitSome, glyphs)

/-- The attributes in front of a text, of which there cannot be more than there are glyphs. -/
def attributes? : Reader Bool := fun glyphs =>
  attributesWithin (glyphs.length + 1) false glyphs

end LayoutTracking.Ron

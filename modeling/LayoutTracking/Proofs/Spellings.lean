import LayoutTracking.Proofs.QuotedTexts
import LayoutTracking.Ron.Structure

/-!
# Spellings

The notation of settings as rules of its own, apart from any reader or writer: what may stand where,
with blanks in between. Whatever is spelled by these rules is read as what it spells, and nothing
behind it is touched.
-/

set_option autoImplicit false

namespace LayoutTracking.Ron

variable {α σ : Type} {chars before after : List Char} {rest : List Glyph}

/-! ## Blanks -/

def Blank (chars : List Char) : Prop := ∀ c ∈ chars, isSpace c = true

def opensBlank (c : Char) : Bool := isSpace c || c == '/'

theorem opensBlank_eq_false (holds : Char → Bool)
    (none : [' ', '\n', '\t', '\r', '/'].all (fun c => !holds c) = true) {c : Char}
    (inside : holds c = true) : opensBlank c = false := by
  refine Bool.eq_false_iff.mpr fun blank => ?_
  simp only [opensBlank, isSpace, Bool.or_eq_true, beq_iff_eq] at blank
  rcases blank with (((rfl | rfl) | rfl) | rfl) | rfl <;> simp [inside] at none

/-- No blank stands in front, and no comment. -/
def Stops (rest : List Glyph) : Prop := startsWith opensBlank rest = false

/-- Something that is spelled begins with neither a blank nor a comment. -/
def opensValue : List Char → Bool
  | [] => false
  | c :: _ => !opensBlank c

theorem stops_of_opensValue (opens : opensValue chars = true) (rest : List Glyph) :
    Stops (glyphs chars ++ rest) := by
  cases chars with
  | nil => cases opens
  | cons c chars => simpa [opensValue, Stops, startsWith] using opens

theorem blank_nil : Blank [] := List.forall_mem_nil _

theorem skipBlanksIn_char {c : Char} (notSlash : c ≠ '/') (rest : List Glyph) :
    skipBlanksIn .outside (.char c :: rest) =
      if isSpace c then skipBlanksIn .outside rest else some (.char c :: rest) := by
  rw [skipBlanksIn]
  · exact fun _ _ isSlash => notSlash isSlash
  · exact fun _ _ isSlash => notSlash isSlash
  · exact notSlash

theorem skipBlanks_of_stops (stops : Stops rest) : skipBlanks rest = some rest := by
  match rest with
  | [] => rfl
  | .stray _ :: _ => rfl
  | .char c :: rest =>
    obtain ⟨notSpace, notSlash⟩ := Bool.or_eq_false_iff.mp stops
    rw [skipBlanks, skipBlanksIn_char (beq_eq_false_iff_ne.mp notSlash), notSpace,
      if_neg Bool.false_ne_true]

theorem skipBlanks_blank (blank : Blank chars) (stops : Stops rest) :
    skipBlanks (glyphs chars ++ rest) = some rest := by
  induction chars with
  | nil => exact skipBlanks_of_stops stops
  | cons c chars ih =>
    obtain ⟨space, others⟩ := List.forall_mem_cons.mp blank
    have notSlash : c ≠ '/' := by
      rintro rfl
      cases space
    rw [glyphs_cons, List.cons_append, skipBlanks, skipBlanksIn_char notSlash, if_pos space]
    exact ih others

/-! ## Words -/

/-- No identifier or number goes on here. -/
def EndsWord (rest : List Glyph) : Prop := startsWith inRawIdentifier rest = false

/-- The reader takes the characters as a value, wherever the last word of them ends. -/
def Reads (read : Reader α) (chars : List Char) (value : α) : Prop :=
  ∀ rest, EndsWord rest → read (glyphs chars ++ rest) = some (value, rest)

theorem Reads.map {β : Type} {read : Reader α} {value : α} (reads : Reads read chars value)
    (f : α → β) :
    Reads (fun glyphs => (read glyphs).map fun (value, rest) => (f value, rest)) chars (f value) :=
  fun rest ends => congrArg (Option.map _) (reads rest ends)

theorem endsWord_blank (blank : Blank chars) (ends : EndsWord rest) :
    EndsWord (glyphs chars ++ rest) := by
  cases chars with
  | nil => exact ends
  | cons c chars =>
    have space := blank c List.mem_cons_self
    simp only [isSpace, Bool.or_eq_true, beq_iff_eq] at space
    rcases space with ((rfl | rfl) | rfl) | rfl <;> rfl

theorem takeChars_append {holds : Char → Bool} (all : ∀ c ∈ chars, holds c = true)
    (ends : startsWith holds rest = false) :
    takeChars holds (glyphs chars ++ rest) = (chars, rest) := by
  induction chars with
  | nil =>
    match rest with
    | [] => rfl
    | .stray _ :: _ => rfl
    | .char c :: rest =>
      rw [startsWith] at ends
      rw [glyphs_nil, List.nil_append, takeChars, ends, if_neg Bool.false_ne_true]
  | cons c chars ih =>
    obtain ⟨first, others⟩ := List.forall_mem_cons.mp all
    rw [glyphs_cons, List.cons_append, takeChars, if_pos first, ih others]

theorem literal?_append (chars : List Char) (rest : List Glyph) :
    literal? chars (glyphs chars ++ rest) = some rest := by
  induction chars with
  | nil => rfl
  | cons c chars ih => rw [glyphs_cons, List.cons_append, literal?, if_pos rfl, ih]

/-- A plain identifier. Those that begin with an `r` are left out, since a raw text might begin
there. -/
def isName : List Char → Bool
  | [] => false
  | first :: others => first != 'r' && startsIdentifier first && others.all inIdentifier

theorem startsWith_mono {holds wider : Char → Bool}
    (le : ∀ c, holds c = true → wider c = true) (ends : startsWith wider rest = false) :
    startsWith holds rest = false := by
  match rest with
  | [] => rfl
  | .stray _ :: _ => rfl
  | .char c :: rest => exact Bool.eq_false_iff.mpr (mt (le c) (Bool.eq_false_iff.mp ends))

theorem identifier?_char {first : Char} (notRaw : first ≠ 'r') (rest : List Glyph) :
    identifier? (.char first :: rest) =
      if startsIdentifier first then plainIdentifier? (.char first :: rest) else none := by
  have notR {others tail : List Glyph} : .char first :: others ≠ .char 'r' :: tail := fun same =>
    notRaw (Glyph.char.inj (List.cons.inj same).1)
  rw [identifier?]
  · rfl
  · exact notR
  · exact fun _ => notR
  · exact fun _ => notR

theorem identifier?_reads (name : isName chars = true) : Reads identifier? chars chars := by
  intro rest ends
  match chars with
  | [] => cases name
  | first :: others =>
    simp only [isName, Bool.and_eq_true, bne_iff_ne, ne_eq] at name
    obtain ⟨⟨notRaw, starts⟩, all⟩ := name
    have inName : ∀ c ∈ first :: others, inIdentifier c = true := by
      refine List.forall_mem_cons.mpr ⟨?_, List.all_eq_true.mp all⟩
      rw [inIdentifier, starts, Bool.true_or]
    have plain : startsWith inIdentifier rest = false :=
      startsWith_mono (fun c inside => by simp [inRawIdentifier, inside]) ends
    have taken := takeChars_append inName plain
    rw [glyphs_cons, List.cons_append] at taken ⊢
    rw [identifier?_char notRaw, if_pos starts, plainIdentifier?, taken]
    exact if_neg (Bool.eq_false_iff.mp ends)

/-! ## Numbers -/

/-- The ways to write a number in decimal digits. -/
structure DecimalSpelled (value : Nat) (chars : List Char) : Prop where
  written : chars ≠ []
  decimal : ∀ c ∈ chars, isDecimal c = true
  means : Text.readDigits? 10 chars 0 = some value

theorem inIdentifier_of_inInteger {c : Char} (inside : inInteger c = true) :
    inIdentifier c = true := by
  simp only [inInteger, Text.digit?, Bool.or_eq_true, beq_iff_eq] at inside
  simp only [inIdentifier, startsIdentifier, isLetter, isDecimal, Bool.or_eq_true,
    Bool.and_eq_true, decide_eq_true_eq, beq_iff_eq]
  rcases inside with digit | underscore
  · split at digit
    · next decimal => exact .inr decimal
    split at digit
    · next lower => exact .inl (.inl (.inl ⟨lower.1, Char.le_trans lower.2 (by decide)⟩))
    split at digit
    · next upper => exact .inl (.inl (.inr ⟨upper.1, Char.le_trans upper.2 (by decide)⟩))
    · cases digit
  · exact .inl (.inr underscore)

/-- Decimal digits announce no other base, and nothing behind them does. -/
theorem integerBase_decimal (written : chars ≠ []) (decimal : ∀ c ∈ chars, isDecimal c = true)
    (ends : EndsWord rest) : integerBase (glyphs chars ++ rest) = (10, glyphs chars ++ rest) := by
  have noBase {first second : Char} {others : List Glyph} (letter : isDecimal second = false)
      (word : inRawIdentifier second = true) :
      glyphs chars ++ rest ≠ .char first :: .char second :: others := by
    intro same
    match chars with
    | [] => exact written rfl
    | [c] =>
      have follows : rest = .char second :: others := (List.cons.inj same).2
      rw [EndsWord, follows, startsWith, word] at ends
      cases ends
    | c :: next :: more =>
      have found := Glyph.char.inj (List.cons.inj (List.cons.inj same).2).1
      have isDigit := decimal next (.tail _ List.mem_cons_self)
      rw [found, letter] at isDigit
      cases isDigit
  rw [integerBase]
  · exact fun _ => noBase (by decide) (by decide)
  · exact fun _ => noBase (by decide) (by decide)
  · exact fun _ => noBase (by decide) (by decide)

theorem opensValue_decimal {value : Nat} (spelled : DecimalSpelled value chars) :
    opensValue chars = true := by
  match chars, spelled.written with
  | first :: others, _ =>
    have decimal := spelled.decimal first List.mem_cons_self
    rw [opensValue, opensBlank_eq_false isDecimal (by decide) decimal]
    rfl

theorem natural?_reads {value limit : Nat} (spelled : DecimalSpelled value chars)
    (bound : value < limit) : Reads (natural? limit) chars value := by
  intro rest ends
  have inNumber : ∀ c ∈ chars, inInteger c = true := by
    intro c member
    rw [inInteger, Text.isSome_digit?_of_readDigits? spelled.means c member, Bool.true_or]
  have plain : startsWith inInteger rest = false := by
    refine startsWith_mono (fun c inside => ?_) ends
    rw [inRawIdentifier, inIdentifier_of_inInteger inside]
    rfl
  have noMark : ∀ c ∈ chars, (c != '_') = true := by
    intro c member
    have decimal := spelled.decimal c member
    rw [bne_iff_ne]
    rintro rfl
    cases decimal
  have begins : (chars.isEmpty || chars.head? == some '_') = false := by
    match chars, spelled.written with
    | c :: more, _ =>
      simpa using noMark c List.mem_cons_self
  rw [natural?, integerBase_decimal spelled.written spelled.decimal ends]
  dsimp only
  rw [takeChars_append inNumber plain]
  dsimp only
  rw [begins, if_neg Bool.false_ne_true, List.filter_eq_self.mpr noMark, spelled.means]
  simp only [Option.bind_eq_bind, Option.bind_some, if_pos bound]

/-! ## Commas and colons -/

theorem skipBlanks_mark {mark : Char} (blank : Blank before) (stops : opensBlank mark = false)
    (after : List Char) (rest : List Glyph) :
    skipBlanks (glyphs (before ++ [mark] ++ after) ++ rest) =
      some (.char mark :: (glyphs after ++ rest)) := by
  simp only [glyphs_append, glyphs_cons, List.append_assoc, List.singleton_append]
  exact skipBlanks_blank blank stops

theorem endsWord_mark {mark : Char} (blank : Blank before) (ends : inRawIdentifier mark = false)
    (after : List Char) (rest : List Glyph) :
    EndsWord (glyphs (before ++ [mark] ++ after) ++ rest) := by
  simp only [glyphs_append, List.append_assoc]
  exact endsWord_blank blank ends

theorem comma?_comma (blank : Blank before) (blankAfter : Blank after) (stops : Stops rest) :
    comma? (glyphs (before ++ [','] ++ after) ++ rest) = some (true, rest) := by
  have atMark := skipBlanks_mark blank (show opensBlank ',' = false from rfl) after rest
  simp only [comma?, atMark, skipBlanks_blank blankAfter stops, Option.bind_eq_bind,
    Option.bind_some, Option.pure_def]

theorem comma?_of_ne (blank : Blank before) {next : Char} (stops : opensBlank next = false)
    (noComma : next ≠ ',') (rest : List Glyph) :
    comma? (glyphs before ++ .char next :: rest) = some (false, .char next :: rest) := by
  have skipped : skipBlanks (glyphs before ++ .char next :: rest) = some (.char next :: rest) :=
    skipBlanks_blank blank stops
  simp only [comma?, skipped, Option.bind_eq_bind, Option.bind_some]
  split
  · next same => exact absurd (Glyph.char.inj (List.cons.inj same).1) noComma
  · rfl

theorem colon?_colon (blank : Blank before) (blankAfter : Blank after) (stops : Stops rest) :
    colon? (glyphs (before ++ [':'] ++ after) ++ rest) = some rest := by
  have atMark := skipBlanks_mark blank (show opensBlank ':' = false from rfl) after rest
  simp only [colon?, atMark, skipBlanks_blank blankAfter stops, Option.bind_eq_bind,
    Option.bind_some]

/-! ## Items -/

/-- The ways to write items in a row, each of which takes a state one step further. A comma may
follow the last one. -/
inductive ItemsSpelled (step : σ → List Char → σ → Prop) : σ → List Char → σ → Prop
  | none {state : σ} : ItemsSpelled step state [] state
  | last {state later : σ} {chars after : List Char} (item : step state chars later)
      (blank : Blank after) : ItemsSpelled step state (chars ++ after) later
  | more {state next later : σ} {chars before after others : List Char}
      (item : step state chars next) (blank : Blank before) (blankAfter : Blank after)
      (rest : ItemsSpelled step next others later) :
    ItemsSpelled step state (chars ++ (before ++ [','] ++ after) ++ others) later

/-- An item begins with neither a blank, a comment nor the closing parenthesis. -/
def opensItem (chars : List Char) : Bool := opensValue chars && chars.head? != some ')'

/-- The item reader takes each item as the step that the item is. -/
structure ReadsItems (item : σ → Reader σ) (step : σ → List Char → σ → Prop) : Prop where
  opens {state later : σ} {chars : List Char} : step state chars later → opensItem chars = true
  reads {state later : σ} {chars : List Char} :
    step state chars later → Reads (item state) chars later

variable {step : σ → List Char → σ → Prop} {item : σ → Reader σ} {state later : σ}

theorem ItemsSpelled.stops (sound : ReadsItems item step)
    (spelled : ItemsSpelled step state chars later) (rest : List Glyph) :
    Stops (glyphs chars ++ .char ')' :: rest) := by
  cases spelled with
  | none => rfl
  | last first _ | more first _ _ _ =>
    have opens := (Bool.and_eq_true_iff.mp (sound.opens first)).1
    simp only [glyphs_append, List.append_assoc]
    exact stops_of_opensValue opens _

theorem length_pos_of_opensItem (opens : opensItem chars = true) : 0 < chars.length := by
  cases chars with
  | nil => cases opens
  | cons c chars => exact Nat.succ_pos _

theorem itemsWithin_close (item : σ → Reader σ) (fuel : Nat) (separated : Bool) (state : σ)
    (rest : List Glyph) :
    itemsWithin ')' item (fuel + 1) separated state (.char ')' :: rest) = some (state, rest) := by
  have skipped : skipBlanks (.char ')' :: rest) = some (.char ')' :: rest) :=
    skipBlanks_of_stops rfl
  simp only [itemsWithin, skipped, Option.bind_eq_bind, Option.bind_some]
  rfl

/-- An item and what separates it from the next. -/
theorem itemsWithin_item {input others : List Glyph} {next : σ} {separated : Bool}
    (opens : opensItem chars = true) (reads : Reads (item state) chars next)
    (skipped : skipBlanks input = some (glyphs chars ++ rest)) (ends : EndsWord rest)
    (comma : comma? rest = some (separated, others)) (fuel : Nat) :
    itemsWithin ')' item (fuel + 1) true state input =
      itemsWithin ')' item fuel separated next others := by
  match chars with
  | [] => cases opens
  | c :: chars =>
    have notClose : Glyph.char c ≠ .char ')' := by
      intro same
      rw [Glyph.char.inj same] at opens
      cases opens
    have taken := reads rest ends
    rw [glyphs_cons, List.cons_append] at skipped taken
    simp only [itemsWithin, skipped, Option.bind_eq_bind, Option.bind_some, if_neg notClose, taken,
      comma]
    rfl

/-- Each item takes a character at least, so the fuel outlasts the items. -/
theorem itemsWithin_reads (sound : ReadsItems item step)
    (spelled : ItemsSpelled step state chars later) {fuel : Nat} (enough : chars.length < fuel)
    {input : List Glyph} (skipped : skipBlanks input = some (glyphs chars ++ .char ')' :: rest)) :
    itemsWithin ')' item fuel true state input = some (later, rest) := by
  induction spelled generalizing fuel input with
  | none =>
    match fuel, enough with
    | fuel + 1, _ =>
      simp only [itemsWithin, skipped, Option.bind_eq_bind, Option.bind_some]
      rfl
  | @last _ _ chars after first blank =>
    have some := length_pos_of_opensItem (sound.opens first)
    rw [List.length_append] at enough
    rw [glyphs_append, List.append_assoc] at skipped
    have comma : comma? (glyphs after ++ .char ')' :: rest) = _ :=
      comma?_of_ne blank rfl (by decide) rest
    obtain ⟨fuel, rfl⟩ := Nat.exists_eq_add_of_le' (show 2 ≤ fuel by omega)
    rw [itemsWithin_item (sound.opens first) (sound.reads first) skipped
      (endsWord_blank blank rfl) comma, itemsWithin_close]
  | @more _ _ _ chars before after others first blank blankAfter further ih =>
    have some := length_pos_of_opensItem (sound.opens first)
    rw [List.length_append, List.length_append] at enough
    have stops := further.stops sound rest
    rw [glyphs_append, glyphs_append, List.append_assoc, List.append_assoc] at skipped
    obtain ⟨fuel, rfl⟩ := Nat.exists_eq_add_of_le' (show 1 ≤ fuel by omega)
    rw [itemsWithin_item (sound.opens first) (sound.reads first) skipped
      (endsWord_mark blank rfl _ _) (comma?_comma blank blankAfter stops)]
    exact ih (by omega) (skipBlanks_of_stops stops)

/-! ## Fields and structures -/

/-- The ways to write a field: the blanks around its colon are free. -/
def FieldSpelled (name : String) (value chars : List Char) : Prop :=
  ∃ before after, Blank before ∧ Blank after ∧
    chars = name.toList ++ (before ++ [':'] ++ after) ++ value

/-- What may stand in front of the parentheses of a structure: its name, or nothing. -/
inductive HeadingSpelled (name : String) : List Char → Prop
  | unnamed : HeadingSpelled name []
  | named {after : List Char} (blank : Blank after) : HeadingSpelled name (name.toList ++ after)

/-- The ways to write a structure whose fields take a state to another. -/
def StructureSpelled (name : String) (step : σ → List Char → σ → Prop) (state later : σ)
    (chars : List Char) : Prop :=
  ∃ heading blanks fields, HeadingSpelled name heading ∧ Blank blanks ∧
    ItemsSpelled step state fields later ∧
    chars = heading ++ ['('] ++ blanks ++ fields ++ [')']

theorem startsWith_name (name : isName chars = true) (rest : List Glyph) :
    startsWith inIdentifier (glyphs chars ++ rest) = true := by
  match chars with
  | [] => cases name
  | first :: others =>
    simp only [isName, Bool.and_eq_true] at name
    rw [glyphs_cons, List.cons_append, startsWith, inIdentifier, name.1.2, Bool.true_or]

theorem opensItem_name (name : isName before = true) (after : List Char) :
    opensItem (before ++ after) = true := by
  match before with
  | [] => cases name
  | first :: others =>
    simp only [isName, Bool.and_eq_true] at name
    have blank := opensBlank_eq_false startsIdentifier (by decide) name.1.2
    have notClose : first ≠ ')' := by
      rintro rfl
      cases name.1.2
    simpa [opensItem, opensValue, blank] using notClose

theorem opensItem_field {name : String} {value : List Char} (isName : isName name.toList = true)
    (spelled : FieldSpelled name value chars) : opensItem chars = true := by
  obtain ⟨before, after, -, -, rfl⟩ := spelled
  rw [List.append_assoc]
  exact opensItem_name isName _

theorem field?_reads {name : String} {value : List Char} {read : List Char → σ → Reader σ}
    (isName : isName name.toList = true) (opens : opensValue value = true)
    (reads : Reads (read name.toList state) value later) (spelled : FieldSpelled name value chars) :
    Reads (field? read state) chars later := by
  obtain ⟨before, after, blank, blankAfter, rfl⟩ := spelled
  intro rest ends
  have ended : EndsWord (glyphs (before ++ [':'] ++ after) ++ (glyphs value ++ rest)) :=
    endsWord_mark blank rfl after _
  have named := identifier?_reads isName _ ended
  have colon := colon?_colon blank blankAfter (stops_of_opensValue opens rest)
  rw [glyphs_append, glyphs_append name.toList, List.append_assoc, List.append_assoc]
  simp only [field?, named, colon, reads rest ends, Option.bind_eq_bind, Option.bind_some]

theorem structureName?_heading {name : String} (isName : isName name.toList = true)
    (heading : HeadingSpelled name chars) (rest : List Glyph) :
    structureName? name (glyphs chars ++ .char '(' :: rest) = some (.char '(' :: rest) := by
  cases heading with
  | unnamed => exact skipBlanks_of_stops rfl
  | @named after blank =>
    have ended : EndsWord (glyphs after ++ .char '(' :: rest) := endsWord_blank blank rfl
    have starts : startsWith inIdentifier
        (glyphs name.toList ++ (glyphs after ++ .char '(' :: rest)) = true :=
      startsWith_name isName _
    have skipped : skipBlanks (glyphs after ++ .char '(' :: rest) = some (.char '(' :: rest) :=
      skipBlanks_blank blank rfl
    rw [glyphs_append, List.append_assoc, structureName?, if_pos starts]
    simp only [identifier?_reads isName _ ended, skipped, Option.bind_eq_bind, Option.bind_some,
      if_true]

theorem structure?_reads {name : String} {read : List Char → σ → Reader σ}
    (isName : isName name.toList = true) (sound : ReadsItems (field? read) step)
    (spelled : StructureSpelled name step state later chars) :
    Reads (structure? name read state) chars later := by
  obtain ⟨heading, blanks, fields, named, blank, items, rfl⟩ := spelled
  intro rest _
  have skipped : skipBlanks (glyphs blanks ++ (glyphs fields ++ .char ')' :: rest)) = _ :=
    skipBlanks_blank blank (items.stops sound rest)
  have enough : fields.length <
      (glyphs blanks ++ (glyphs fields ++ .char ')' :: rest)).length + 1 := by
    simp only [glyphs, List.length_append, List.length_map]
    omega
  have read := itemsWithin_reads sound items enough skipped
  simp only [glyphs_append, List.append_assoc]
  rw [structure?]
  have headed := structureName?_heading isName named
    (glyphs blanks ++ (glyphs fields ++ .char ')' :: rest))
  simp only [glyphs_cons, glyphs_nil, List.singleton_append, headed, Option.bind_eq_bind,
    Option.bind_some]
  exact read

theorem opensValue_structure {name : String} (isName : isName name.toList = true)
    (spelled : StructureSpelled name step state later chars) : opensValue chars = true := by
  obtain ⟨heading, blanks, fields, named, -, -, rfl⟩ := spelled
  cases named with
  | unnamed => rfl
  | named blank =>
    simp only [List.append_assoc]
    exact (Bool.and_eq_true_iff.mp (opensItem_name isName _)).1

/-! ## Optional values -/

/-- What may stand behind the value of a `Some`: blanks, and a comma. -/
inductive EndSpelled : List Char → Prop
  | bare {blanks : List Char} (blank : Blank blanks) : EndSpelled blanks
  | comma {before after : List Char} (blank : Blank before) (blankAfter : Blank after) :
    EndSpelled (before ++ [','] ++ after)

/-- The ways to write an optional value, given those to write a value. -/
inductive OptionSpelled (spelled : α → List Char → Prop) : Option α → List Char → Prop
  | none : OptionSpelled spelled none "None".toList
  | some {value : α} {before after chars behind : List Char} (blank : Blank before)
      (blankAfter : Blank after) (content : spelled value chars) (ends : EndSpelled behind) :
    OptionSpelled spelled (some value)
      ("Some".toList ++ (before ++ ['('] ++ after) ++ chars ++ behind ++ [')'])

theorem EndSpelled.endsWord (ends : EndSpelled chars) (rest : List Glyph) :
    EndsWord (glyphs chars ++ .char ')' :: rest) := by
  cases ends with
  | bare blank => exact endsWord_blank blank rfl
  | comma blank _ => exact endsWord_mark blank rfl _ _

theorem EndSpelled.exists_comma (ends : EndSpelled chars) (rest : List Glyph) :
    ∃ separated,
      comma? (glyphs chars ++ .char ')' :: rest) = some (separated, .char ')' :: rest) := by
  cases ends with
  | bare blank => exact ⟨false, comma?_of_ne blank rfl (by decide) rest⟩
  | comma blank blankAfter => exact ⟨true, comma?_comma blank blankAfter rfl⟩

theorem optional?_reads {spelled : α → List Char → Prop} {read : Reader α} {context : Context}
    (opens : ∀ {value chars}, spelled value chars → opensValue chars = true)
    (reads : ∀ {value chars}, spelled value chars → Reads read chars value) {value : Option α}
    (option : OptionSpelled spelled value chars) :
    Reads (optional? context read) chars value := by
  intro rest ends
  cases option with
  | none => rw [optional?, literal?_append]
  | @some value before after chars behind blank blankAfter content ending =>
    obtain ⟨separated, comma⟩ := ending.exists_comma rest
    have parts : glyphs ("Some".toList ++ (before ++ ['('] ++ after) ++ chars ++ behind ++ [')']) ++
        rest = glyphs "Some".toList ++ (glyphs before ++ .char '(' ::
          (glyphs after ++ (glyphs chars ++ (glyphs behind ++ .char ')' :: rest)))) := by
      simp only [glyphs_append, glyphs_cons, glyphs_nil, List.append_assoc, List.cons_append,
        List.nil_append]
    have notNone (others : List Glyph) :
        literal? "None".toList (glyphs "Some".toList ++ others) = Option.none := rfl
    have opened : skipBlanks (glyphs before ++ .char '(' ::
        (glyphs after ++ (glyphs chars ++ (glyphs behind ++ .char ')' :: rest)))) = _ :=
      skipBlanks_blank blank rfl
    have skipped := skipBlanks_blank blankAfter
      (stops_of_opensValue (opens content) (glyphs behind ++ .char ')' :: rest))
    have taken := reads content _ (ending.endsWord rest)
    have closed : literal? [')'] (.char ')' :: rest) = some rest := literal?_append [')'] rest
    rw [parts, optional?, notNone, literal?_append]
    simp only [opened, skipped, taken, comma, closed, Option.bind_eq_bind, Option.bind_some,
      Option.pure_def]

theorem opensValue_option {spelled : α → List Char → Prop} {value : Option α}
    (option : OptionSpelled spelled value chars) : opensValue chars = true := by
  cases option <;> rfl

theorem once?_reads {read : Reader α} {given : Option α} (new : given = none) {value : α}
    (reads : Reads read chars value) (keep : α → σ) :
    Reads (once? given read keep) chars (keep value) := by
  subst new
  exact reads.map keep

end LayoutTracking.Ron

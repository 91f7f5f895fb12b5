import LayoutTracking.Proofs.Spellings
import LayoutTracking.Settings.File

/-!
# Settings survive their files

The ways to write settings, whichever of their fields a text has. Each such text is read as the
settings that it gives, with what it leaves out standard, and the text that is written for settings
is one of them.
-/

set_option autoImplicit false

namespace LayoutTracking

open Ron

/-! ## The ways to write settings -/

def FilePath.Spelled (path : FilePath) (chars : List Char) : Prop :=
  ∃ text : String, path = .ofText text ∧ TextSpelled text.toList chars

/-- A log setting that is not given yet is written as a field. -/
inductive PartialLog.Writes : PartialLog → List Char → PartialLog → Prop
  | level {given : PartialLog} {chars : List Char} (new : given.level = none) (level : Level)
      (field : FieldSpelled "level" level.name.toList chars) :
    Writes given chars { given with level := some level }
  | console {given : PartialLog} {chars : List Char} (new : given.console = none) (console : Bool)
      (field : FieldSpelled "console" (boolText console) chars) :
    Writes given chars { given with console := some console }
  | directory {given : PartialLog} {value chars : List Char} (new : given.directory = none)
      {directory : Option FilePath} (spelled : OptionSpelled FilePath.Spelled directory value)
      (field : FieldSpelled "directory" value chars) :
    Writes given chars { given with directory := some directory }

def PartialLog.Spelled (given : PartialLog) (chars : List Char) : Prop :=
  StructureSpelled "LogSettings" Writes .empty given chars

inductive PartialTracker.Writes : PartialTracker → List Char → PartialTracker → Prop
  | threshold {given : PartialTracker} {value chars : List Char}
      (new : given.smallMapThreshold = none) {threshold : UInt64}
      (spelled : DecimalSpelled threshold.toNat value)
      (field : FieldSpelled "small_map_threshold" value chars) :
    Writes given chars { given with smallMapThreshold := some threshold }

def PartialTracker.Spelled (given : PartialTracker) (chars : List Char) : Prop :=
  StructureSpelled "LayoutTrackerConfig" Writes .empty given chars

inductive PartialSettings.Writes : PartialSettings → List Char → PartialSettings → Prop
  | log {given : PartialSettings} {value chars : List Char} (new : given.log = none)
      {log : PartialLog} (spelled : log.Spelled value) (field : FieldSpelled "log" value chars) :
    Writes given chars { given with log := some log }
  | layouts {given : PartialSettings} {value chars : List Char} (new : given.layouts = none)
      {layouts : PartialTracker} (spelled : layouts.Spelled value)
      (field : FieldSpelled "layouts" value chars) :
    Writes given chars { given with layouts := some layouts }

/-- The ways to write the given settings as a whole text: a structure, with blanks around it. -/
def PartialSettings.Spelled (given : PartialSettings) (chars : List Char) : Prop :=
  ∃ before body after, Blank before ∧ Blank after ∧
    StructureSpelled "ValidationSettings" Writes .empty given body ∧
    chars = before ++ body ++ after

/-! ## Reading -/

variable {chars : List Char} {context : Context}

theorem Level.opensValue_name (level : Level) : opensValue level.name.toList = true := by
  cases level <;> rfl

theorem Level.read?_reads (level : Level) : Reads read? level.name.toList level := by
  intro rest ends
  have isName : isName level.name.toList = true := by cases level <;> rfl
  have named : ofName? level.name.toList = some level := by cases level <;> rfl
  have skipped := skipBlanks_of_stops (stops_of_opensValue level.opensValue_name rest)
  simp only [read?, skipped, identifier?_reads isName rest ends, named, Option.bind_eq_bind,
    Option.bind_some, Option.pure_def]

theorem bool?_reads (value : Bool) : Reads bool? (boolText value) value := by
  intro rest _
  cases value with
  | true => simp only [boolText, if_true, bool?, literal?_append]
  | false =>
    have notTrue : literal? "true".toList (glyphs "false".toList ++ rest) = none := rfl
    simp only [boolText, Bool.false_eq_true, if_false, bool?, notTrue, literal?_append,
      Option.map_some]

theorem FilePath.opensValue_spelled {path : FilePath} (spelled : path.Spelled chars) :
    opensValue chars = true := by
  obtain ⟨text, -, body, -, rfl⟩ := spelled
  rfl

theorem FilePath.read?_reads {path : FilePath} (spelled : path.Spelled chars) :
    Reads read? chars path := by
  obtain ⟨text, rfl, spelled⟩ := spelled
  intro rest _
  rw [read?, text?_spelled spelled, Option.map_some]
  dsimp only
  rw [String.ofList_toList]

theorem PartialTracker.readThreshold?_reads {threshold : UInt64}
    (spelled : DecimalSpelled threshold.toNat chars) : Reads readThreshold? chars threshold := by
  have reads := (natural?_reads spelled threshold.toNat_lt).map UInt64.ofNat
  rwa [UInt64.ofNat_toNat] at reads

theorem PartialLog.readsItems (context : Context) :
    ReadsItems (field? (readField? context)) Writes where
  opens writes := by
    cases writes with
    | level _ _ field => exact opensItem_field rfl field
    | console _ _ field => exact opensItem_field rfl field
    | directory _ _ field => exact opensItem_field rfl field
  reads writes := by
    cases writes with
    | level new level field =>
      refine field?_reads rfl level.opensValue_name ?_ field
      rw [readField?, if_pos rfl]
      exact once?_reads new level.read?_reads _
    | console new console field =>
      refine field?_reads rfl (by cases console <;> rfl) ?_ field
      rw [readField?, if_neg (by decide), if_pos rfl]
      exact once?_reads new (bool?_reads console) _
    | directory new spelled field =>
      refine field?_reads rfl (opensValue_option spelled) ?_ field
      rw [readField?, if_neg (by decide), if_neg (by decide), if_pos rfl]
      exact once?_reads new
        (optional?_reads FilePath.opensValue_spelled FilePath.read?_reads spelled) _

theorem PartialLog.read?_reads {given : PartialLog} (spelled : given.Spelled chars) :
    Reads (read? context) chars given :=
  structure?_reads rfl (readsItems _) spelled

theorem PartialTracker.readsItems (context : Context) :
    ReadsItems (field? (readField? context)) Writes where
  opens writes := by
    cases writes with
    | threshold _ _ field => exact opensItem_field rfl field
  reads writes := by
    cases writes with
    | threshold new spelled field =>
      refine field?_reads rfl (opensValue_decimal spelled) ?_ field
      rw [readField?, if_pos rfl]
      exact once?_reads new (readThreshold?_reads spelled) _

theorem PartialTracker.read?_reads {given : PartialTracker} (spelled : given.Spelled chars) :
    Reads (read? context) chars given :=
  structure?_reads rfl (readsItems _) spelled

theorem PartialSettings.readsItems (context : Context) :
    ReadsItems (field? (readField? context)) Writes where
  opens writes := by
    cases writes with
    | log _ _ field => exact opensItem_field rfl field
    | layouts _ _ field => exact opensItem_field rfl field
  reads writes := by
    cases writes with
    | log new spelled field =>
      refine field?_reads rfl (opensValue_structure rfl spelled) ?_ field
      rw [readField?, if_pos rfl]
      exact once?_reads new (PartialLog.read?_reads spelled) _
    | layouts new spelled field =>
      refine field?_reads rfl (opensValue_structure rfl spelled) ?_ field
      rw [readField?, if_neg (by decide), if_pos rfl]
      exact once?_reads new (PartialTracker.read?_reads spelled) _

/-- A structure is no attribute. -/
theorem PartialSettings.attributes?_structure {given : PartialSettings}
    (spelled : StructureSpelled "ValidationSettings" Writes .empty given chars)
    (rest : List Glyph) :
    attributes? (glyphs chars ++ rest) = some (false, glyphs chars ++ rest) := by
  obtain ⟨heading, blanks, fields, named, -, -, rfl⟩ := spelled
  cases named <;> rfl

theorem PartialSettings.ofGlyphs?_spelled {given : PartialSettings}
    (spelled : given.Spelled chars) : ofGlyphs? (glyphs chars) = some given := by
  obtain ⟨before, body, after, blank, blankAfter, structured, rfl⟩ := spelled
  have opens := opensValue_structure rfl structured
  have skipped := skipBlanks_blank blank (stops_of_opensValue opens (glyphs after))
  have ends : EndsWord (glyphs after ++ []) := endsWord_blank blankAfter rfl
  have finished : skipBlanks (glyphs after ++ []) = some [] := skipBlanks_blank blankAfter rfl
  rw [List.append_nil] at ends finished
  have taken : read? ⟨false, nestingLimit⟩ (glyphs body ++ glyphs after) = _ :=
    structure?_reads rfl (readsItems _) structured (glyphs after) ends
  have noAttributes := attributes?_structure structured (glyphs after)
  rw [List.append_assoc, glyphs_append, glyphs_append]
  simp only [ofGlyphs?, skipped, noAttributes, taken, finished, Option.bind_eq_bind,
    Option.bind_some, Option.pure_def]

/-- A text that spells the settings is read as them, and what it leaves out is standard. -/
theorem Settings.ofText_spelled {given : PartialSettings} {text : String}
    (spelled : given.Spelled text.toList) : ofText text = .ok given.complete := by
  have read : PartialSettings.ofGlyphs? (Glyph.ofText text) = some given :=
    PartialSettings.ofGlyphs?_spelled spelled
  rw [ofText, ofGlyphs, read]

/-! ## Writing -/

section Lines

variable {σ β : Type} {step : σ → List Char → σ → Prop} {state next later : σ} {nesting inner : Nat}
  {name : String} {lines : List (List Char)}

/-- Lines of fields that take a state to another, in front of the parenthesis that closes a
structure of that nesting. -/
def LinesSpelled (step : σ → List Char → σ → Prop) (nesting : Nat) (state later : σ)
    (lines : List (List Char)) : Prop :=
  ∃ blanks fields, Blank blanks ∧ ItemsSpelled step state fields later ∧
    ['\n'] ++ lines.flatten ++ List.replicate (4 * nesting) ' ' = blanks ++ fields

theorem blank_indent (nesting : Nat) : Blank (['\n'] ++ List.replicate (4 * nesting) ' ') := by
  refine List.forall_mem_append.mpr ⟨List.forall_mem_singleton.mpr rfl, ?_⟩
  intro c member
  rw [List.eq_of_mem_replicate member]
  rfl

theorem linesSpelled_nil : LinesSpelled step nesting state state [] :=
  ⟨_, [], blank_indent nesting, .none, (List.append_nil _).symm⟩

theorem LinesSpelled.line {value : List Char}
    (item : ∀ chars, FieldSpelled name value chars → step state chars next)
    (others : LinesSpelled step nesting next later lines) :
    LinesSpelled step nesting state later (fieldLine inner name value :: lines) := by
  obtain ⟨blanks, fields, blank, items, parts⟩ := others
  have field : FieldSpelled name value (name.toList ++ ([] ++ [':'] ++ [' ']) ++ value) :=
    ⟨[], [' '], blank_nil, List.forall_mem_singleton.mpr rfl, rfl⟩
  refine ⟨_, _, blank_indent inner, .more (item _ field) blank_nil blank items, ?_⟩
  simp only [List.append_assoc, ← parts]
  simp [fieldLine]

theorem LinesSpelled.optional {write : β → List Char} {value : Option β}
    (absent : value = none → next = state)
    (present : ∀ content chars, value = some content → FieldSpelled name (write content) chars →
      step state chars next)
    (others : LinesSpelled step nesting next later lines) :
    LinesSpelled step nesting state later (optionalLine inner name write value ++ lines) := by
  cases value with
  | none =>
    obtain rfl := absent rfl
    exact others
  | some content => exact others.line fun chars => present content chars rfl

/-- A field whose value may be impossible to write, though here it is not. -/
theorem exists_optionalLine {write? : β → Option (List Char)} {value : Option β}
    (absent : value = none → next = state)
    (present : ∀ content, value = some content → ∃ chars, write? content = some chars ∧
      ∀ field, FieldSpelled name chars field → step state field next)
    (others : LinesSpelled step nesting next later lines) :
    ∃ written, value.mapM write? = some written ∧
      LinesSpelled step nesting state later (optionalLine inner name id written ++ lines) := by
  cases value with
  | none =>
    obtain rfl := absent rfl
    exact ⟨none, rfl, others⟩
  | some content =>
    obtain ⟨chars, written, item⟩ := present content rfl
    refine ⟨some chars, ?_, others.line item⟩
    rw [Option.mapM_some, written]
    rfl

theorem structureSpelled_text (spelled : LinesSpelled step nesting state later lines) :
    StructureSpelled name step state later (structureText nesting lines) := by
  obtain ⟨blanks, fields, blank, items, parts⟩ := spelled
  refine ⟨[], blanks, fields, .unnamed, blank, items, ?_⟩
  simp only [List.append_assoc, List.nil_append] at parts ⊢
  rw [← List.append_assoc blanks, ← parts]
  simp [structureText]

end Lines

theorem FilePath.text?_ofText (text : String) : (FilePath.ofText text).text? = some text := by
  have valid : text.toUTF8.IsValidUTF8 := text.isValidUTF8
  rw [text?, ofText, String.fromUTF8?]
  exact dif_pos valid

theorem exists_directoryText (directory : Option String) :
    ∃ chars, directoryText? (directory.map .ofText) = some chars ∧
      OptionSpelled FilePath.Spelled (directory.map .ofText) chars := by
  cases directory with
  | none => exact ⟨_, rfl, .none⟩
  | some text =>
    have spelled : FilePath.Spelled (.ofText text) (quote text.toList) :=
      ⟨text, rfl, textSpelled_quote text.toList⟩
    refine ⟨_, ?_, .some blank_nil blank_nil spelled (.bare blank_nil)⟩
    rw [Option.map_some, directoryText?, FilePath.text?_ofText, Option.map_some]
    simp

theorem decimalSpelled_toString (number : UInt64) :
    DecimalSpelled number.toNat (toString number).toList := by
  have digits : (toString number).toList = Nat.toDigits 10 number.toNat := Nat.toList_repr
  rw [digits]
  refine ⟨Nat.toDigits_ne_nil, ?_, Text.readDigits?_toDigits (by decide) (by decide) _⟩
  intro c member
  have digit := Nat.isDigit_of_mem_toDigits (by decide) (by decide) member
  simp only [Char.isDigit, Bool.and_eq_true, decide_eq_true_eq] at digit
  simp only [isDecimal, Bool.and_eq_true, decide_eq_true_eq]
  exact digit

theorem PartialTracker.spelled_chars (given : PartialTracker) : given.Spelled given.chars := by
  obtain ⟨threshold⟩ := given
  rw [chars, ← List.append_nil (optionalLine _ _ _ _)]
  refine structureSpelled_text (.optional ?_ ?_ linesSpelled_nil)
  · rintro rfl
    rfl
  · rintro threshold chars rfl field
    exact .threshold rfl (decimalSpelled_toString threshold) field

theorem PartialLog.levelLine {level : Option Level} {later : PartialLog} {lines : List (List Char)}
    (others : LinesSpelled Writes 1 ⟨level, none, none⟩ later lines) :
    LinesSpelled Writes 1 .empty later
      (optionalLine 2 "level" (·.name.toList) level ++ lines) := by
  refine .optional ?_ ?_ others
  · rintro rfl
    rfl
  · rintro level chars rfl field
    exact .level rfl level field

theorem PartialLog.consoleLine {level : Option Level} {console : Option Bool} {later : PartialLog}
    {lines : List (List Char)}
    (others : LinesSpelled Writes 1 ⟨level, console, none⟩ later lines) :
    LinesSpelled Writes 1 ⟨level, none, none⟩ later
      (optionalLine 2 "console" boolText console ++ lines) := by
  refine .optional ?_ ?_ others
  · rintro rfl
    rfl
  · rintro console chars rfl field
    exact .console rfl console field

/-- Log settings whose directory is a text are written, one field to a line. -/
theorem PartialLog.exists_chars (level : Option Level) (console : Option Bool)
    (directory : Option (Option String)) :
    ∃ chars, PartialLog.chars? ⟨level, console, directory.map (Option.map .ofText)⟩ = some chars ∧
      PartialLog.Spelled ⟨level, console, directory.map (Option.map .ofText)⟩ chars := by
  have directoryLine : ∃ written,
      (directory.map (Option.map FilePath.ofText)).mapM directoryText? = some written ∧
        LinesSpelled Writes 1 ⟨level, console, none⟩
          ⟨level, console, directory.map (Option.map .ofText)⟩
          (optionalLine 2 "directory" id written ++ []) := by
    refine exists_optionalLine (fun unwritten => by rw [unwritten]) ?_ linesSpelled_nil
    intro path isPath
    obtain ⟨text, -, rfl⟩ := Option.map_eq_some_iff.mp isPath
    obtain ⟨chars, written, spelled⟩ := exists_directoryText text
    refine ⟨chars, written, fun field isField => ?_⟩
    rw [isPath]
    exact .directory rfl spelled isField
  obtain ⟨directory, written, lines⟩ := directoryLine
  refine ⟨_, ?_, structureSpelled_text (levelLine (consoleLine lines))⟩
  simp only [chars?, written, Option.bind_eq_bind, Option.bind_some, List.append_assoc,
    List.append_nil, Option.pure_def]

/-- Settings are written if their log settings are. -/
theorem PartialSettings.exists_chars {log : Option PartialLog} (layouts : Option PartialTracker)
    (logWritten : ∀ given, log = some given →
      ∃ chars, given.chars? = some chars ∧ given.Spelled chars) :
    ∃ chars, PartialSettings.chars? ⟨log, layouts⟩ = some chars ∧
      PartialSettings.Spelled ⟨log, layouts⟩ chars := by
  have layoutsLine : LinesSpelled Writes 0 ⟨log, none⟩ ⟨log, layouts⟩
      (optionalLine 1 "layouts" PartialTracker.chars layouts ++ []) := by
    refine .optional ?_ ?_ linesSpelled_nil
    · rintro rfl
      rfl
    · rintro layouts chars rfl field
      exact .layouts rfl layouts.spelled_chars field
  have logLine : ∃ written, log.mapM PartialLog.chars? = some written ∧
      LinesSpelled Writes 0 .empty ⟨log, layouts⟩ (optionalLine 1 "log" id written ++
        (optionalLine 1 "layouts" PartialTracker.chars layouts ++ [])) := by
    refine exists_optionalLine ?_ ?_ layoutsLine
    · rintro rfl
      rfl
    · rintro given rfl
      obtain ⟨chars, written, spelled⟩ := logWritten given rfl
      exact ⟨chars, written, fun field isField => .log rfl spelled isField⟩
  obtain ⟨log, written, lines⟩ := logLine
  refine ⟨_, ?_, [], _, [], blank_nil, blank_nil, structureSpelled_text lines,
    (List.append_nil _).symm⟩
  simp only [chars?, written, Option.bind_eq_bind, Option.bind_some, List.append_nil,
    Option.pure_def]
  rfl

/-! ## There and back -/

/-- Which fields a text writes. Those of a structure are written only if the structure is. -/
structure Fields where
  log : Bool
  level : Bool
  console : Bool
  directory : Bool
  layouts : Bool
  smallMapThreshold : Bool
deriving DecidableEq, Repr, Inhabited

namespace Settings

def ifWritten {α : Type} (written : Bool) (value : α) : Option α :=
  if written then some value else none

/-- The settings as far as the fields write them. -/
def only (settings : Settings) (fields : Fields) : PartialSettings where
  log := ifWritten fields.log
    { level := ifWritten fields.level settings.log.level
      console := ifWritten fields.console settings.log.console
      directory := ifWritten fields.directory settings.log.directory }
  layouts := ifWritten fields.layouts
    { smallMapThreshold :=
        ifWritten fields.smallMapThreshold settings.layouts.smallMapThreshold }

/-- The settings with a standard value in place of each one that is not written. -/
def standardElsewhere (settings : Settings) (fields : Fields) : Settings where
  log :=
    { level := if fields.log && fields.level then settings.log.level
        else LogSettings.standard.level
      console := if fields.log && fields.console then settings.log.console
        else LogSettings.standard.console
      directory := if fields.log && fields.directory then settings.log.directory
        else LogSettings.standard.directory }
  layouts :=
    { smallMapThreshold := if fields.layouts && fields.smallMapThreshold
        then settings.layouts.smallMapThreshold
        else TrackerSettings.standard.smallMapThreshold }

@[simp] theorem ifWritten_true {α : Type} (value : α) : ifWritten true value = some value := rfl

@[simp] theorem ifWritten_false {α : Type} (value : α) : ifWritten false value = none := rfl

theorem getD_ifWritten {α : Type} (written : Bool) (value standard : α) :
    (ifWritten written value).getD standard = if written then value else standard := by
  cases written <;> rfl

theorem map_ifWritten {α β : Type} (written : Bool) (value : α) (f : α → β) :
    (ifWritten written value).map f = ifWritten written (f value) := by
  cases written <;> rfl

theorem eq_of_ifWritten {α : Type} {written : Bool} {value given : α}
    (isGiven : ifWritten written value = some given) : value = given := by
  cases written with
  | false => cases isGiven
  | true => exact Option.some.inj isGiven

theorem complete_only (settings : Settings) (fields : Fields) :
    (settings.only fields).complete = settings.standardElsewhere fields := by
  obtain ⟨log, level, console, directory, layouts, smallMapThreshold⟩ := fields
  cases log <;> cases layouts <;>
    simp [only, standardElsewhere, PartialSettings.complete, PartialLog.complete,
      PartialTracker.complete, getD_ifWritten, LogSettings.standard, TrackerSettings.standard]

variable (level : Level) (console : Bool) (directory : Option String) (threshold : UInt64)

theorem exists_text (fields : Fields) :
    ∃ text : String,
      (only ⟨⟨level, console, directory.map .ofText⟩, ⟨threshold⟩⟩ fields).chars? =
        some text.toList ∧
      (only ⟨⟨level, console, directory.map .ofText⟩, ⟨threshold⟩⟩ fields).Spelled text.toList := by
  have logWritten : ∀ given,
      (only ⟨⟨level, console, directory.map .ofText⟩, ⟨threshold⟩⟩ fields).log = some given →
        ∃ chars, given.chars? = some chars ∧ given.Spelled chars := by
    intro given isGiven
    have written := PartialLog.exists_chars (ifWritten fields.level level)
      (ifWritten fields.console console) (ifWritten fields.directory directory)
    rw [map_ifWritten] at written
    rw [← eq_of_ifWritten isGiven]
    exact written
  obtain ⟨chars, written, spelled⟩ := PartialSettings.exists_chars _ logWritten
  exact ⟨String.ofList chars, by rw [String.toList_ofList]; exact written,
    by rw [String.toList_ofList]; exact spelled⟩

/-- The text of settings is read as the settings. A text that writes some of their fields, in
whatever order and with whatever blanks, is read as the settings with the others standard, and for
any choice of the fields there is such a text. -/
theorem read_back (fields : Fields) :
    let settings : Settings := ⟨⟨level, console, directory.map .ofText⟩, ⟨threshold⟩⟩
    (∃ text, settings.toText = .ok text ∧ ofText text = .ok settings) ∧
      (∃ text : String, (settings.only fields).chars? = some text.toList ∧
        (settings.only fields).Spelled text.toList) ∧
      ∀ text : String, (settings.only fields).Spelled text.toList →
        ofText text = .ok (settings.standardElsewhere fields) := by
  intro settings
  refine ⟨?_, exists_text level console directory threshold fields, ?_⟩
  · obtain ⟨text, written, spelled⟩ := exists_text level console directory threshold
      ⟨true, true, true, true, true, true⟩
    have written : settings.toPartial.chars? = some text.toList := written
    refine ⟨text, ?_, ofText_spelled spelled⟩
    rw [toText, written]
    exact congrArg Except.ok String.ofList_toList
  · intro text spelled
    rw [ofText_spelled spelled, complete_only]

/-- The second structure comes first and the first one by its name, and two of the fields of that
are left out. The directory is written with an escape. -/
theorem read_back_of_some_fields :
    let settings : Settings := ⟨⟨.warn, false, some (.ofText "a\"b")⟩, ⟨4⟩⟩
    let fields : Fields := ⟨true, false, false, true, true, true⟩
    let text := "(layouts: (small_map_threshold: 4), log: LogSettings(directory: Some(\"a\\\"b\")))"
    (settings.only fields).Spelled text.toList ∧
      ofText text = .ok ⟨⟨.info, true, some (.ofText "a\"b")⟩, ⟨4⟩⟩ := by
  intro settings fields text
  have space : Blank [' '] := List.forall_mem_singleton.mpr rfl
  have four : DecimalSpelled 4 ['4'] :=
    ⟨by decide, List.forall_mem_singleton.mpr rfl, rfl⟩
  have layouts : PartialTracker.Spelled ⟨some 4⟩ "(small_map_threshold: 4)".toList :=
    ⟨[], [], _, .unnamed, blank_nil, .last (.threshold rfl four
      ⟨[], [' '], blank_nil, space, rfl⟩) blank_nil, by decide⟩
  have body : BodySpelled '"' "a\"b".toList "a\\\"b".toList :=
    .cons (.itself (by decide) (by decide)) (.cons (.letter rfl)
      (.cons (.itself (by decide) (by decide)) .nil))
  have path : FilePath.Spelled (.ofText "a\"b") "\"a\\\"b\"".toList :=
    ⟨"a\"b", rfl, _, body, rfl⟩
  have directory : OptionSpelled FilePath.Spelled (some (.ofText "a\"b"))
      "Some(\"a\\\"b\")".toList := .some blank_nil blank_nil path (.bare blank_nil)
  have log : PartialLog.Spelled ⟨none, none, some (some (.ofText "a\"b"))⟩
      "LogSettings(directory: Some(\"a\\\"b\"))".toList :=
    ⟨_, [], _, .named blank_nil, blank_nil, .last (.directory rfl directory
      ⟨[], [' '], blank_nil, space, rfl⟩) blank_nil, by decide⟩
  have items : ItemsSpelled PartialSettings.Writes .empty
      ("layouts: (small_map_threshold: 4)".toList ++ ([] ++ [','] ++ [' ']) ++
        ("log: LogSettings(directory: Some(\"a\\\"b\"))".toList ++ [])) (settings.only fields) :=
    .more (.layouts rfl layouts ⟨[], [' '], blank_nil, space, rfl⟩) blank_nil space
      (.last (.log rfl log ⟨[], [' '], blank_nil, space, rfl⟩) blank_nil)
  have spelled : (settings.only fields).Spelled text.toList :=
    ⟨[], _, [], blank_nil, blank_nil, ⟨[], [], _, .unnamed, blank_nil, items, rfl⟩, by decide⟩
  obtain ⟨-, -, reads⟩ := read_back .warn false (some "a\"b") 4 fields
  exact ⟨spelled, reads text spelled⟩

end Settings

end LayoutTracking

import LayoutTracking.Proofs.Walking

/-!
# Updates index by index

Most of what is asked of an update is what it leaves at one index. Where the answers of an updater
depend on its state only through what the state comes to in the end, an index inside the range holds
the answer to what was there, and any other index holds what it held.
-/

set_option autoImplicit false

namespace LayoutTracking

theorem Span.overlaps_of_mem {left right : Span} {index : Nat} (inLeft : index ∈ left)
    (inRight : index ∈ right) : left.overlaps right = true := by
  rw [Span.mem_iff] at inLeft inRight
  rw [Span.overlaps_iff]
  omega

namespace Tile

variable {V : Type}

/-- What lies at an index: a value, or nothing in a gap. There is no answer where no tile is. -/
def contentAt? (tiles : List (Tile V)) (index : Nat) : Option (Option V) :=
  (at? tiles index).map Tile.content

def AllStored (Good : V → Prop) (tiles : List (Tile V)) : Prop :=
  ∀ tile ∈ tiles, ∀ value ∈ tile.content, Good value

theorem contentAt?_cons (tile : Tile V) (rest : List (Tile V)) (index : Nat) :
    contentAt? (tile :: rest) index =
      if index ∈ tile.span then some tile.content else contentAt? rest index := by
  by_cases inside : index ∈ tile.span
  · simp [contentAt?, at?, inside]
  · simp [contentAt?, at?, inside]

theorem contentAt?_trim (cut : Span → Span) (tile : Tile V) (rest : List (Tile V)) (index : Nat) :
    contentAt? ((tile.trim cut).toList ++ rest) index =
      if index ∈ cut tile.span then some tile.content else contentAt? rest index := by
  by_cases kept : (cut tile.span).start < (cut tile.span).stop
  · rw [trim_of_lt kept]
    exact contentAt?_cons _ _ _
  · have outside : index ∉ cut tile.span := by
      rw [Span.mem_iff]
      omega
    rw [trim_of_le (Nat.le_of_not_lt kept), if_neg outside]
    rfl

theorem contentAt?_replace (range : Span) (tile : Tile V) (answer : Option V)
    (rest : List (Tile V)) (index : Nat) :
    contentAt? (tile.replace range answer ++ rest) index =
      if index ∈ tile.span then
        some (if index ∈ range then answer <|> tile.content else tile.content)
      else contentAt? rest index := by
  cases answer with
  | none => simp [replace, contentAt?_cons]
  | some value =>
    simp only [replace, List.append_assoc, List.cons_append, contentAt?_trim, contentAt?_cons,
      Span.mem_before, Span.mem_intersect, Span.mem_after]
    by_cases around : index ∈ tile.span
    · by_cases inside : index ∈ range
      · have late : ¬ index < range.start := Nat.not_lt_of_le inside.1
        simp [around, inside, late]
      · by_cases early : index < range.start
        · simp [around, inside, early]
        · have past : range.stop ≤ index := Nat.le_of_not_lt fun bound =>
            inside ⟨Nat.le_of_not_lt early, bound⟩
          simp [around, inside, early, past]
    · simp [around]

theorem AllStored.append {Good : V → Prop} {front back : List (Tile V)}
    (frontGood : AllStored Good front) (backGood : AllStored Good back) :
    AllStored Good (front ++ back) := by
  intro tile member
  rcases List.mem_append.mp member with inFront | inBack
  · exact frontGood tile inFront
  · exact backGood tile inBack

theorem allStored_trim {Good : V → Prop} {tile : Tile V} (cut : Span → Span)
    (good : ∀ value ∈ tile.content, Good value) : AllStored Good (tile.trim cut).toList := by
  intro part member
  unfold trim at member
  split at member
  · cases member
  · obtain rfl := List.mem_singleton.mp member
    exact good

theorem allStored_replace {Good : V → Prop} {tile : Tile V} (range : Span) {answer : Option V}
    (good : ∀ value ∈ tile.content, Good value) (answered : ∀ value ∈ answer, Good value) :
    AllStored Good (tile.replace range answer) := by
  cases answer with
  | none =>
    intro part member
    obtain rfl := List.mem_singleton.mp member
    exact good
  | some value =>
    refine (allStored_trim _ good).append ?_
    intro part member
    rcases List.mem_cons.mp member with rfl | later
    · exact answered
    · exact allStored_trim _ good part later

end Tile

namespace Updater

variable {V σ : Type}

/-- The answer is the verdict, and good if it is a value. -/
def Accords (Good : V → Prop) (answer verdict : Option V) : Prop :=
  answer = verdict ∧ ∀ value ∈ verdict, Good value

/-- Seen from the end of a run, the updater answers by the verdict. The states on the way to that
end are those of `Toward`. -/
structure Settles (updater : Updater V σ) (Toward : σ → Prop) (Good : V → Prop)
    (verdict : Option V → Option V) : Prop where
  back (state : σ) (offer : Offer V) : Toward (updater.answer state offer).2 → Toward state
  insert (gap : Span) (state : σ) :
    Toward (updater.insert gap state).2 →
      Accords Good (updater.insert gap state).1 (verdict none)
  update (existing : V) (state : σ) :
    Good existing → Toward (updater.update existing state).2 →
      Accords Good (updater.update existing state).1 (verdict (some existing))

variable {updater : Updater V σ} {Toward : σ → Prop} {Good : V → Prop}
  {verdict : Option V → Option V}

theorem Settles.answer (settles : updater.Settles Toward Good verdict) (range : Span)
    (state : σ) {tile : Tile V} (good : ∀ value ∈ tile.content, Good value)
    (onTheWay : Toward (updater.answer state (tile.offer range)).2) :
    Accords Good (updater.answer state (tile.offer range)).1 (verdict tile.content) := by
  obtain ⟨span, content⟩ := tile
  cases content with
  | none => exact settles.insert _ state onTheWay
  | some existing => exact settles.update existing state (good existing rfl) onTheWay

theorem rewrite_keeps (Kept : σ → Prop)
    (keeps : ∀ state offer, Kept state → Kept (updater.answer state offer).2) (range : Span)
    (tiles : List (Tile V)) {state : σ} (kept : Kept state) :
    Kept (updater.rewrite range tiles state).state := by
  induction tiles generalizing state with
  | nil => exact kept
  | cons tile rest ih =>
    by_cases meets : tile.span.overlaps range = true
    · rw [rewrite, if_pos meets]
      exact ih (keeps state (tile.offer range) kept)
    · rw [rewrite, if_neg meets]
      exact ih kept

theorem Settles.rewrite_back (settles : updater.Settles Toward Good verdict) {range : Span}
    {tiles : List (Tile V)} {state : σ}
    (onTheWay : Toward (updater.rewrite range tiles state).state) : Toward state := by
  apply Classical.byContradiction
  intro astray
  exact rewrite_keeps (¬ Toward ·) (fun state offer => mt (settles.back state offer)) range tiles
    astray onTheWay

/-- The states on the way are closed backwards, so that of each answer is one of them. -/
theorem Settles.rewrite (settles : updater.Settles Toward Good verdict) {range : Span}
    {tiles : List (Tile V)} {state : σ} (good : Tile.AllStored Good tiles)
    (onTheWay : Toward (updater.rewrite range tiles state).state) :
    Tile.AllStored Good (updater.rewrite range tiles state).tiles ∧
      ∀ index, Tile.contentAt? (updater.rewrite range tiles state).tiles index =
        (Tile.contentAt? tiles index).map fun content =>
          if index ∈ range then verdict content <|> content else content := by
  induction tiles generalizing state with
  | nil => exact ⟨good, fun _ => rfl⟩
  | cons tile rest ih =>
    have goodTile := good tile List.mem_cons_self
    have goodRest : Tile.AllStored Good rest := fun other member => good other (.tail _ member)
    by_cases meets : tile.span.overlaps range = true
    · rw [Updater.rewrite, if_pos meets] at onTheWay ⊢
      have answered := settles.answer range state goodTile
      generalize updater.answer state (tile.offer range) = reply at onTheWay answered ⊢
      obtain ⟨answer, next⟩ := reply
      obtain ⟨rfl, goodAnswer⟩ := answered (settles.rewrite_back onTheWay)
      obtain ⟨goodLater, later⟩ := ih goodRest onTheWay
      refine ⟨(Tile.allStored_replace range goodTile goodAnswer).append goodLater, ?_⟩
      intro index
      rw [Tile.contentAt?_replace, Tile.contentAt?_cons, later]
      by_cases around : index ∈ tile.span
      · simp only [if_pos around, Option.map_some]
      · simp only [if_neg around]
    · rw [Updater.rewrite, if_neg meets] at onTheWay ⊢
      obtain ⟨goodLater, later⟩ := ih goodRest onTheWay
      refine ⟨List.forall_mem_cons.mpr ⟨goodTile, goodLater⟩, ?_⟩
      intro index
      rw [Tile.contentAt?_cons, Tile.contentAt?_cons, later]
      by_cases around : index ∈ tile.span
      · have outside : index ∉ range := fun inside => meets (Span.overlaps_of_mem around inside)
        simp only [if_pos around, Option.map_some, if_neg outside]
      · simp only [if_neg around]

theorem Settles.resume (settles : updater.Settles Toward Good verdict) {limit : Nat} {span : Span}
    {sofar : Rewriting V σ} (good : Tile.AllStored Good sofar.tiles)
    (onTheWay : Toward (updater.resume limit span sofar).state) :
    Tile.AllStored Good (updater.resume limit span sofar).tiles ∧
      ∀ index < limit, Tile.contentAt? (updater.resume limit span sofar).tiles index =
        (Tile.contentAt? sofar.tiles index).map fun content =>
          if index ∈ span then verdict content <|> content else content := by
  obtain ⟨goodNext, next⟩ := settles.rewrite good onTheWay
  refine ⟨goodNext, ?_⟩
  intro index bound
  have clipped : index ∈ span.intersect ⟨0, limit⟩ ↔ index ∈ span := by
    rw [Span.mem_intersect]
    exact and_iff_left ⟨Nat.zero_le index, bound⟩
  simp only [Updater.resume, next index, clipped]

def family {W : Type} (updaters : W → Updater V σ) (value : W) (state : σ) : Updater V σ × σ :=
  (updaters value, state)

end Updater

namespace Rewriting

variable {V W σ : Type} {limit : Nat} {updaters : W → Updater V σ} {sources : List (Span × W)}
  {sofar : Rewriting V σ}

theorem splice_cons (limit : Nat) (updaters : W → Updater V σ) (source : Span × W)
    (sources : List (Span × W)) (sofar : Rewriting V σ) :
    sofar.splice limit (Updater.family updaters) (source :: sources) =
      ((updaters source.2).resume limit source.1 sofar).splice limit (Updater.family updaters)
        sources := rfl

theorem splice_spans (limit : Nat) (updater : Updater V σ) (spans : List Span)
    (sofar : Rewriting V σ) :
    sofar.splice limit (Updater.family fun _ : Unit => updater) (spans.map (·, ())) =
      spans.foldl (fun sofar span => updater.resume limit span sofar) sofar := by
  rw [splice, List.foldl_map]
  rfl

theorem splice_keeps (Kept : σ → Prop)
    (keeps : ∀ source ∈ sources, ∀ state offer,
      Kept state → Kept ((updaters source.2).answer state offer).2)
    (kept : Kept sofar.state) :
    Kept (sofar.splice limit (Updater.family updaters) sources).state := by
  induction sources generalizing sofar with
  | nil => exact kept
  | cons source rest ih =>
    rw [splice_cons]
    refine ih (fun other member => keeps other (.tail _ member)) ?_
    exact Updater.rewrite_keeps Kept (keeps source List.mem_cons_self) _ sofar.tiles kept

theorem splice_preserves (Held : σ → List (Tile V) → Prop)
    (step : ∀ source ∈ sources, ∀ range state front tile rest, Held state (front ++ tile :: rest) →
      let (answer, next) := (updaters source.2).answer state (tile.offer range)
      Held next (front ++ tile.replace range answer ++ rest))
    (held : Held sofar.state sofar.tiles) :
    let done := sofar.splice limit (Updater.family updaters) sources
    Held done.state done.tiles := by
  induction sources generalizing sofar with
  | nil => exact held
  | cons source rest ih =>
    rw [splice_cons]
    refine ih (fun other member => step other (.tail _ member)) ?_
    exact Updater.rewrite_preserves _ _ Held (step source List.mem_cons_self _)
      (show Held sofar.state ([] ++ sofar.tiles) from held)

variable {Toward : σ → Prop} {Good : V → Prop} (verdicts : W → Option V → Option V)

theorem splice_back
    (settles : ∀ source ∈ sources,
      (updaters source.2).Settles Toward Good (verdicts source.2))
    (onTheWay : Toward (sofar.splice limit (Updater.family updaters) sources).state) :
    Toward sofar.state := by
  apply Classical.byContradiction
  intro astray
  refine splice_keeps (¬ Toward ·) ?_ astray onTheWay
  intro source member state offer
  exact mt ((settles source member).back state offer)

/-- Merged spans act at an index in turn, those of them that hold it. -/
theorem splice_settles
    (settles : ∀ source ∈ sources,
      (updaters source.2).Settles Toward Good (verdicts source.2))
    (good : Tile.AllStored Good sofar.tiles)
    (onTheWay : Toward (sofar.splice limit (Updater.family updaters) sources).state) :
    let done := sofar.splice limit (Updater.family updaters) sources
    Tile.AllStored Good done.tiles ∧
      ∀ index < limit, Tile.contentAt? done.tiles index =
        (Tile.contentAt? sofar.tiles index).map
          ((sources.filter fun source => index ∈ source.1).foldl
            fun content source => verdicts source.2 content <|> content) := by
  induction sources generalizing sofar with
  | nil => exact ⟨good, fun index _ => (Option.map_id_apply).symm⟩
  | cons source rest ih =>
    rw [splice_cons] at onTheWay ⊢
    have settlesRest := fun other member => settles other (List.mem_cons_of_mem source member)
    obtain ⟨goodNext, next⟩ :=
      (settles source List.mem_cons_self).resume good (splice_back verdicts settlesRest onTheWay)
    obtain ⟨goodLater, later⟩ := ih settlesRest goodNext onTheWay
    refine ⟨goodLater, ?_⟩
    intro index bound
    rw [later index bound, next index bound, Option.map_map, List.filter_cons]
    congr 1
    funext content
    by_cases inside : index ∈ source.1
    · simp [inside]
    · simp [inside]

theorem foldl_steady {A B : Type} {step : A → A}
    (steady : ∀ content, step (step content) = step content) (sources : List B) (content : A) :
    sources.foldl (fun content _ => step content) content =
      if sources = [] then content else step content := by
  induction sources generalizing content with
  | nil => rfl
  | cons source rest ih =>
    rw [List.foldl_cons, ih, steady, ite_self, if_neg (List.cons_ne_nil _ _)]

/-- Where a second answer changes nothing about the first, it does not matter how many of the spans
hold an index. -/
theorem splice_spans_settles (limit : Nat) (spans : List Span) {updater : Updater V σ}
    {verdict : Option V → Option V} (settles : updater.Settles Toward Good verdict)
    (steady : ∀ content, (verdict (verdict content <|> content) <|> (verdict content <|> content)) =
      (verdict content <|> content))
    (good : Tile.AllStored Good sofar.tiles)
    (onTheWay : Toward
      (sofar.splice limit (Updater.family fun _ : Unit => updater) (spans.map (·, ()))).state) :
    let done := sofar.splice limit (Updater.family fun _ : Unit => updater) (spans.map (·, ()))
    Tile.AllStored Good done.tiles ∧
      ∀ index < limit, Tile.contentAt? done.tiles index =
        (Tile.contentAt? sofar.tiles index).map fun content =>
          if ∃ span ∈ spans, index ∈ span then verdict content <|> content else content := by
  obtain ⟨goodLater, pointwise⟩ :=
    splice_settles (fun _ => verdict) (fun _ _ => settles) good onTheWay
  refine ⟨goodLater, ?_⟩
  intro index bound
  refine (pointwise index bound).trans ?_
  congr 1
  funext content
  refine (foldl_steady steady _ content).trans ?_
  by_cases covered : ∃ span ∈ spans, index ∈ span
  · obtain ⟨span, member, inside⟩ := covered
    rw [if_neg, if_pos ⟨span, member, inside⟩]
    intro missed
    exact List.filter_eq_nil_iff.mp missed (span, ()) (List.mem_map_of_mem member)
      (decide_eq_true inside)
  · rw [if_pos, if_neg covered]
    refine List.filter_eq_nil_iff.mpr ?_
    intro source member inside
    obtain ⟨span, within, rfl⟩ := List.mem_map.mp member
    exact covered ⟨span, within, of_decide_eq_true inside⟩

end Rewriting

/-! ## Values of a map -/

theorem Tiling.stored_filter {V : Type} {start stop : Nat} {tiles : List (Tile V)}
    (tiling : Tiling start tiles stop) (index : Nat) :
    (tiles.filterMap Tile.stored?).filter (fun entry => index ∈ entry.1) =
      (Tile.entryAt? tiles index).toList := by
  induction tiling with
  | nil => rfl
  | @cons start stop tile rest starts inhabited apart later ih =>
    have whole : Tiling start (tile :: rest) stop := .cons starts inhabited apart later
    obtain ⟨span, content⟩ := tile
    by_cases inside : index ∈ span
    · have none : Tile.at? rest index = none := later.at?_eq_none (.inl inside.2)
      have here : Tile.at? (⟨span, content⟩ :: rest) index = some ⟨span, content⟩ :=
        whole.at?_of_mem List.mem_cons_self inside
      rw [Tile.entryAt?, none] at ih
      rw [Tile.entryAt?, here]
      cases content with
      | none => exact ih
      | some value => simpa [inside] using ih
    · have missed : Tile.at? (⟨span, content⟩ :: rest) index = Tile.at? rest index := by
        simp [Tile.at?, inside]
      rw [Tile.entryAt?, missed, ← Tile.entryAt?, ← ih]
      cases content with
      | none => rfl
      | some value => simp [inside]

namespace SpanMap

variable {M V : Type} [SpanMap M V]

def value? (map : M) (index : Nat) : Option V := (get? map index).map (·.2)

/-- The later map differs from the earlier one index by index, as the change says. -/
structure Revised [LawfulSpanMap M V] (before after : M) (Good : V → Prop)
    (change : Nat → Option V → Option V) : Prop where
  holds : ∃ tiles, LawfulSpanMap.Holds after tiles
  limit : limit after = limit before
  good : ∀ index value, value? after index = some value → Good value
  value : ∀ index < SpanMap.limit before, value? after index = change index (value? before index)

variable [LawfulSpanMap M V] {map : M} {tiles : List (Tile V)}

theorem value?_eq (holds : LawfulSpanMap.Holds map tiles) (index : Nat) :
    value? map index = (Tile.contentAt? tiles index).join := by
  rw [value?, LawfulSpanMap.get?_eq index holds, Tile.entryAt?, Tile.contentAt?]
  cases Tile.at? tiles index with
  | none => rfl
  | some tile => cases content : tile.content <;> simp [Tile.stored?, content]

theorem contentAt?_eq (holds : LawfulSpanMap.Holds map tiles) {index : Nat}
    (bound : index < limit map) : Tile.contentAt? tiles index = some (value? map index) := by
  obtain ⟨tile, found⟩ := (LawfulSpanMap.tiling holds).exists_at? (Nat.zero_le index) bound
  rw [value?_eq holds, Tile.contentAt?, found]
  rfl

theorem value?_eq_none (holds : LawfulSpanMap.Holds map tiles) {index : Nat}
    (past : limit map ≤ index) : value? map index = none := by
  rw [value?_eq holds, Tile.contentAt?, (LawfulSpanMap.tiling holds).at?_eq_none (.inr past)]
  rfl

theorem lt_limit_of_value? (holds : LawfulSpanMap.Holds map tiles) {index : Nat} {value : V}
    (stored : value? map index = some value) : index < limit map := by
  apply Nat.lt_of_not_le
  intro past
  rw [value?_eq_none holds past] at stored
  cases stored

theorem Revised.change_eq {before after : M} {Good : V → Prop}
    {change : Nat → Option V → Option V} (revised : Revised before after Good change) {index : Nat}
    {value : V} (stored : value? after index = some value) :
    change index (value? before index) = some value := by
  obtain ⟨tiles, holds⟩ := revised.holds
  have bound := lt_limit_of_value? holds stored
  exact (revised.value index (revised.limit ▸ bound)).symm.trans stored

theorem allStored_iff (holds : LawfulSpanMap.Holds map tiles) {Good : V → Prop} :
    Tile.AllStored Good tiles ↔ ∀ index value, value? map index = some value → Good value := by
  have tiling := LawfulSpanMap.tiling holds
  constructor
  · intro good index value stored
    rw [value?_eq holds, Tile.contentAt?] at stored
    obtain ⟨tile, found, content⟩ := Option.map_eq_some_iff.mp (Option.join_eq_some_iff.mp stored)
    exact good tile (tiling.at?_eq_some.mp found).1 value content
  · intro good tile member value content
    have bounds := tiling.bounds member
    refine good tile.span.start value ?_
    rw [value?_eq holds, Tile.contentAt?,
      tiling.at?_of_mem member ⟨Nat.le_refl tile.span.start, bounds.2.1⟩]
    exact congrArg (Option.join ∘ some) content

theorem value?_of_mem_entries (holds : LawfulSpanMap.Holds map tiles) {entry : Span × V}
    (member : entry ∈ entries map) {index : Nat} (inside : index ∈ entry.1) :
    value? map index = some entry.2 := by
  obtain ⟨tile, within, stored⟩ := List.mem_filterMap.mp (entries_eq holds ▸ member)
  obtain rfl := Tile.stored?_eq_some.mp stored
  rw [value?, get?_of_mem holds within inside]
  rfl

theorem entries_filter (holds : LawfulSpanMap.Holds map tiles) (index : Nat) :
    (entries map).filter (fun entry => index ∈ entry.1) = (get? map index).toList := by
  rw [entries_eq holds, LawfulSpanMap.get?_eq index holds]
  exact (LawfulSpanMap.tiling holds).stored_filter index

end SpanMap

theorem Updater.runAll_becomes {M V σ : Type} [SpanMap M V] [LawfulSpanMap M V] {map : M}
    {tiles : List (Tile V)} (updater : Updater V σ) (holds : LawfulSpanMap.Holds map tiles)
    (spans : List Span) (state : σ) :
    (Walk.start map .fresh state).Becomes (updater.runAll spans (.start map .fresh state)) []
      (Rewriting.splice (SpanMap.limit map) (family fun _ : Unit => updater) (spans.map (·, ()))
        ⟨tiles, state, 0⟩) := by
  have fresh : Cursor.fresh.Fits map := Cursor.fits_of_slot_eq_none rfl map
  have becomes := (Walk.becomes_start holds fresh state).runAll updater spans
  rw [← Rewriting.splice_spans] at becomes
  exact becomes

theorem Walk.Becomes.revised {M V σ : Type} [SpanMap M V] [LawfulSpanMap M V] {map : M}
    {cursor : Cursor} {state : σ} {walk : Walk M σ} {tiles : List (Tile V)}
    {done : Rewriting V σ} (becomes : (Walk.start map cursor state).Becomes walk [] done)
    (holds : LawfulSpanMap.Holds map tiles) {Good : V → Prop}
    {change : Nat → Option V → Option V} (good : Tile.AllStored Good done.tiles)
    (pointwise : ∀ index < SpanMap.limit map,
      Tile.contentAt? done.tiles index = (Tile.contentAt? tiles index).map (change index)) :
    SpanMap.Revised map walk.map Good change := by
  have sameLimit : SpanMap.limit walk.map = SpanMap.limit map := becomes.limit
  refine ⟨⟨_, becomes.holds⟩, sameLimit, (SpanMap.allStored_iff becomes.holds).mp good, ?_⟩
  intro index bound
  have after := SpanMap.contentAt?_eq becomes.holds (sameLimit.symm ▸ bound)
  have changed := pointwise index bound
  rw [SpanMap.contentAt?_eq holds bound] at changed
  exact Option.some.inj (after.symm.trans changed)

end LayoutTracking

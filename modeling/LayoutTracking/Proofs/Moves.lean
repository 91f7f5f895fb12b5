import LayoutTracking.Proofs.Pointwise

/-!
# What an update moves

An updater that answers only with values other than those it was asked about leaves a trace of every
write, as long as nothing later in the run writes to the same place again. The flag of such a run
says whether any index has changed.
-/

set_option autoImplicit false

namespace LayoutTracking

theorem Span.exists_mem_of_overlaps {left right : Span} (overlap : left.overlaps right = true) :
    ∃ index, index ∈ left ∧ index ∈ right := by
  rw [overlaps_iff] at overlap
  refine ⟨max left.start right.start, ?_, ?_⟩
  · rw [mem_iff]
    omega
  · rw [mem_iff]
    omega

namespace Updater

variable {V σ : Type} {updater : Updater V σ}

/-- A stored value is never replaced by itself. -/
def Differs (updater : Updater V σ) : Prop :=
  ∀ existing state value, value ∈ (updater.update existing state).1 → value ≠ existing

/-- In whatever state it is asked, the updater has nothing to put in the place of the value. -/
def Spares (updater : Updater V σ) (value : V) : Prop :=
  ∀ state, (updater.update value state).1 = none

/-- The updater fills every gap, moves every value that is not at rest, and answers with values that
are. -/
structure Settling (updater : Updater V σ) (AtRest : V → Prop) : Prop where
  insert : ∀ gap state, ∃ value ∈ (updater.insert gap state).1, AtRest value
  update : ∀ existing state, ¬ AtRest existing →
    ∃ value ∈ (updater.update existing state).1, AtRest value
  spares : ∀ existing, AtRest existing → updater.Spares existing

namespace Settling

variable {AtRest : V → Prop}

theorem atRest_of_answer (settling : updater.Settling AtRest) {state : σ} (offer : Offer V)
    {value : V} (answered : value ∈ (updater.answer state offer).1) : AtRest value := by
  cases offer with
  | insert gap =>
    obtain ⟨filled, isFilled, atRest⟩ := settling.insert gap state
    exact Option.mem_unique answered isFilled ▸ atRest
  | update existing =>
    by_cases resting : AtRest existing
    · rw [answer, settling.spares existing resting] at answered
      cases answered
    · obtain ⟨moved, isMoved, atRest⟩ := settling.update existing state resting
      exact Option.mem_unique answered isMoved ▸ atRest

theorem differs (settling : updater.Settling AtRest) : updater.Differs := by
  intro existing state value answered same
  have atRest := settling.atRest_of_answer (.update existing) answered
  rw [settling.spares existing (same ▸ atRest)] at answered
  cases answered

end Settling

/-! ## One range -/

theorem rewrite_met {range : Span} {tile : Tile V} (meets : tile.span.overlaps range = true)
    (rest : List (Tile V)) (state : σ) :
    updater.rewrite range (tile :: rest) state =
      let reply := updater.answer state (tile.offer range)
      let later := updater.rewrite range rest reply.2
      { later with
        tiles := tile.replace range reply.1 ++ later.tiles
        writes := reply.1.toList.length + later.writes } := by
  rw [rewrite, if_pos meets]

/-- What lies at an index of the range is the answer to what lay there, or else that itself. -/
theorem exists_answer (updater : Updater V σ) (range : Span) {tiles : List (Tile V)} (state : σ) {index : Nat}
    {content : Option V} (here : Tile.contentAt? tiles index = some content) :
    ∃ (tile : Tile V) (asked : σ), tile.content = content ∧
      Tile.contentAt? (updater.rewrite range tiles state).tiles index =
        some (if index ∈ range then (updater.answer asked (tile.offer range)).1 <|> content
          else content) := by
  induction tiles generalizing state with
  | nil => cases here
  | cons tile rest ih =>
    rw [Tile.contentAt?_cons] at here
    by_cases around : index ∈ tile.span
    · rw [if_pos around] at here
      obtain rfl := Option.some.inj here
      refine ⟨tile, state, rfl, ?_⟩
      by_cases meets : tile.span.overlaps range = true
      · rw [rewrite, if_pos meets]
        exact (Tile.contentAt?_replace range tile _ _ index).trans (if_pos around)
      · have outside : index ∉ range := fun inside => meets (Span.overlaps_of_mem around inside)
        rw [rewrite, if_neg meets, Tile.contentAt?_cons, if_pos around, if_neg outside]
    · rw [if_neg around] at here
      by_cases meets : tile.span.overlaps range = true
      · rw [rewrite, if_pos meets]
        obtain ⟨other, asked, same, later⟩ := ih (updater.answer state (tile.offer range)).2 here
        exact ⟨other, asked, same,
          (Tile.contentAt?_replace range tile _ _ index).trans ((if_neg around).trans later)⟩
      · rw [rewrite, if_neg meets]
        obtain ⟨other, asked, same, later⟩ := ih state here
        exact ⟨other, asked, same, (Tile.contentAt?_cons _ _ _).trans ((if_neg around).trans later)⟩

theorem rewrite_spared (range : Span) {tiles : List (Tile V)} (state : σ) {index : Nat} {value : V}
    (here : Tile.contentAt? tiles index = some (some value))
    (spared : index ∈ range → updater.Spares value) :
    Tile.contentAt? (updater.rewrite range tiles state).tiles index = some (some value) := by
  obtain ⟨⟨span, content⟩, asked, rfl, later⟩ :=
    updater.exists_answer range state here
  rw [later]
  by_cases inside : index ∈ range
  · rw [if_pos inside, show updater.answer asked (Tile.offer range ⟨span, some value⟩) =
      updater.update value asked from rfl, spared inside asked]
    rfl
  · rw [if_neg inside]

theorem Settling.rewrite {AtRest : V → Prop} (settling : updater.Settling AtRest) {range : Span}
    {tiles : List (Tile V)} (state : σ) {index : Nat} {content : Option V} (inside : index ∈ range)
    (here : Tile.contentAt? tiles index = some content) :
    ∃ value, Tile.contentAt? (updater.rewrite range tiles state).tiles index = some (some value) ∧
      AtRest value := by
  obtain ⟨⟨span, content⟩, asked, rfl, later⟩ :=
    updater.exists_answer range state here
  rw [if_pos inside] at later
  cases content with
  | none =>
    obtain ⟨value, answered, atRest⟩ := settling.insert (span.intersect range) asked
    exact ⟨value, later.trans (congrArg (fun answer => some (answer <|> none)) answered), atRest⟩
  | some existing =>
    by_cases resting : AtRest existing
    · exact ⟨existing, rewrite_spared range state here fun _ => settling.spares existing resting,
        resting⟩
    · obtain ⟨value, answered, atRest⟩ := settling.update existing asked resting
      exact ⟨value, later.trans (congrArg (fun answer => some (answer <|> some existing)) answered),
        atRest⟩

/-- A write shows at any index that the tile has in common with the range. -/
theorem Differs.exists_moved (differs : updater.Differs) {range : Span} {start stop : Nat}
    {tiles : List (Tile V)} (tiling : Tiling start tiles stop) {state : σ}
    (written : 0 < (updater.rewrite range tiles state).writes) :
    ∃ index value asked offer, start ≤ index ∧ index < stop ∧ index ∈ range ∧
      value ∈ (updater.answer asked offer).1 ∧
      Tile.contentAt? (updater.rewrite range tiles state).tiles index = some (some value) ∧
      Tile.contentAt? tiles index ≠ some (some value) := by
  induction tiling generalizing state with
  | nil => exact absurd written (Nat.lt_irrefl 0)
  | @cons start stop tile rest starts inhabited apart later ih =>
    have bound := later.le
    have onward {moved : List (Tile V)} {writes : Nat} {next : σ}
        (sameTiles : moved = (updater.rewrite range rest next).tiles)
        (sameWrites : writes = (updater.rewrite range rest next).writes) (some : 0 < writes) :
        ∃ index value asked offer, start ≤ index ∧ index < stop ∧ index ∈ range ∧
          value ∈ (updater.answer asked offer).1 ∧
          Tile.contentAt? (tile :: moved) index = .some (.some value) ∧
          Tile.contentAt? (tile :: rest) index ≠ .some (.some value) := by
      obtain ⟨index, value, asked, offer, past, inDomain, inside, answered, after, before⟩ :=
        ih (sameWrites ▸ some)
      have beyond : index ∉ tile.span := fun around => Nat.not_lt_of_le past around.2
      refine ⟨index, value, asked, offer, by omega, inDomain, inside, answered, ?_, ?_⟩
      · rw [Tile.contentAt?_cons, if_neg beyond, sameTiles]
        exact after
      · rw [Tile.contentAt?_cons, if_neg beyond]
        exact before
    by_cases meets : tile.span.overlaps range = true
    · rw [rewrite_met meets] at written ⊢
      cases answered : (updater.answer state (tile.offer range)).1 with
      | none =>
        simp only [answered, Option.toList_none, List.length_nil, Nat.zero_add] at written ⊢
        exact onward rfl rfl written
      | some value =>
        obtain ⟨index, around, inside⟩ := Span.exists_mem_of_overlaps meets
        have past := around.1
        have early := around.2
        refine ⟨index, value, state, tile.offer range, by omega, by omega, inside, answered, ?_, ?_⟩
        · refine (Tile.contentAt?_replace range tile _ _ _).trans ?_
          rw [if_pos around, if_pos inside, answered]
          rfl
        · rw [Tile.contentAt?_cons, if_pos around]
          intro same
          obtain ⟨span, content⟩ := tile
          obtain rfl : content = some value := Option.some.inj same
          exact differs value state value answered rfl
    · rw [rewrite, if_neg meets] at written ⊢
      exact onward rfl rfl written

theorem rewrite_silent {range : Span} {tiles : List (Tile V)} {state : σ}
    (silent : ∀ tile ∈ tiles, tile.span.overlaps range = true →
      ∀ state, (updater.answer state (tile.offer range)).1 = none) :
    (updater.rewrite range tiles state).writes = 0 := by
  induction tiles generalizing state with
  | nil => rfl
  | cons tile rest ih =>
    obtain ⟨here, later⟩ := List.forall_mem_cons.mp silent
    by_cases meets : tile.span.overlaps range = true
    · rw [rewrite_met meets]
      simp only [here meets state, Option.toList_none, List.length_nil, Nat.zero_add]
      exact ih later
    · rw [rewrite, if_neg meets]
      exact ih later

/-- Where every value in the range is spared, the update writes nothing. -/
theorem resume_silent {limit : Nat} {span : Span} {sofar : Rewriting V σ}
    (tiling : Tiling 0 sofar.tiles limit)
    (spared : ∀ index ∈ span, index < limit → ∃ value,
      Tile.contentAt? sofar.tiles index = some (some value) ∧ updater.Spares value) :
    (updater.resume limit span sofar).writes = sofar.writes := by
  refine (congrArg (sofar.writes + ·) (rewrite_silent ?_)).trans (Nat.add_zero _)
  intro tile member meets state
  obtain ⟨index, around, inside⟩ := Span.exists_mem_of_overlaps meets
  obtain ⟨inSpan, inDomain⟩ := Span.mem_intersect.mp inside
  obtain ⟨value, here, spares⟩ := spared index inSpan inDomain.2
  rw [Tile.contentAt?, tiling.at?_of_mem member around, Option.map_some] at here
  obtain ⟨tileSpan, content⟩ := tile
  obtain rfl : content = some value := Option.some.inj here
  exact spares state

end Updater

/-! ## One span after the other -/

namespace Rewriting

variable {V W σ : Type} {limit : Nat} {updaters : W → Updater V σ} {sources : List (Span × W)}
  {sofar : Rewriting V σ}

theorem splice_spared (sofar : Rewriting V σ) {index : Nat} {value : V}
    (here : Tile.contentAt? sofar.tiles index = some (some value))
    (spared : ∀ source ∈ sources, index ∈ source.1 → (updaters source.2).Spares value) :
    Tile.contentAt? (sofar.splice limit (Updater.family updaters) sources).tiles index =
      some (some value) := by
  induction sources generalizing sofar with
  | nil => exact here
  | cons source rest ih =>
    obtain ⟨now, later⟩ := List.forall_mem_cons.mp spared
    rw [splice_cons]
    refine ih _ (Updater.rewrite_spared _ sofar.state here fun inside => now ?_) later
    exact (Span.mem_intersect.mp inside).1

/-- What one updater writes, no later one takes away: then a run that writes leaves an index that it
has changed. -/
theorem exists_moved_of_splice (sofar : Rewriting V σ) (tiling : Tiling 0 sofar.tiles limit)
    (differs : ∀ source ∈ sources, (updaters source.2).Differs)
    (spares : sources.Pairwise fun earlier later => ∀ index ∈ earlier.1, index ∈ later.1 →
      ∀ state offer value, value ∈ ((updaters earlier.2).answer state offer).1 →
        (updaters later.2).Spares value)
    (written : sofar.writes < (sofar.splice limit (Updater.family updaters) sources).writes) :
    ∃ index < limit,
      Tile.contentAt? (sofar.splice limit (Updater.family updaters) sources).tiles index ≠
        Tile.contentAt? sofar.tiles index := by
  induction sources generalizing sofar with
  | nil => exact absurd written (Nat.lt_irrefl _)
  | cons source rest ih =>
    obtain ⟨differsNow, differsLater⟩ := List.forall_mem_cons.mp differs
    obtain ⟨sparesNow, sparesLater⟩ := List.pairwise_cons.mp spares
    rw [splice_cons] at written ⊢
    cases wrote : ((updaters source.2).rewrite (source.1.intersect ⟨0, limit⟩) sofar.tiles
      sofar.state).writes with
    | zero =>
      have same : ((updaters source.2).resume limit source.1 sofar).tiles = sofar.tiles :=
        (updaters source.2).rewrite_unwritten _ wrote
      have count : ((updaters source.2).resume limit source.1 sofar).writes = sofar.writes :=
        congrArg (sofar.writes + ·) wrote
      rw [← same]
      exact ih _ (same.symm ▸ tiling) differsLater sparesLater (count.symm ▸ written)
    | succ count =>
      obtain ⟨index, value, asked, offer, -, inDomain, inside, answered, after, before⟩ :=
        differsNow.exists_moved tiling (Nat.lt_of_lt_of_eq count.succ_pos wrote.symm)
      have inSpan := (Span.mem_intersect.mp inside).1
      refine ⟨index, inDomain, fun same => before (same ▸ ?_)⟩
      refine splice_spared ((updaters source.2).resume limit source.1 sofar) after ?_
      intro later member alsoInside
      exact sparesNow later member index inSpan alsoInside asked offer value answered

/-- A run over values that are all spared writes nothing. -/
theorem splice_silent (tiling : Tiling 0 sofar.tiles limit)
    (spared : ∀ source ∈ sources, ∀ index ∈ source.1, index < limit → ∃ value,
      Tile.contentAt? sofar.tiles index = some (some value) ∧
        (updaters source.2).Spares value) :
    (sofar.splice limit (Updater.family updaters) sources).writes = sofar.writes := by
  induction sources generalizing sofar with
  | nil => rfl
  | cons source rest ih =>
    obtain ⟨now, later⟩ := List.forall_mem_cons.mp spared
    have count := Updater.resume_silent tiling now
    have same : ((updaters source.2).resume limit source.1 sofar).tiles = sofar.tiles := by
      refine (updaters source.2).rewrite_unwritten _ ?_
      have added : sofar.writes + ((updaters source.2).rewrite (source.1.intersect ⟨0, limit⟩)
        sofar.tiles sofar.state).writes = sofar.writes := count
      omega
    rw [splice_cons]
    exact (ih (same.symm ▸ tiling) (same.symm ▸ later)).trans count

end Rewriting

/-- A settling updater leaves every index that it goes over at rest. -/
theorem Updater.Settling.splice {V σ : Type} {updater : Updater V σ} {AtRest : V → Prop}
    (settling : updater.Settling AtRest) {limit : Nat} {spans : List Span} (sofar : Rewriting V σ)
    {span : Span} (member : span ∈ spans) {index : Nat} (inside : index ∈ span)
    (inDomain : index < limit) {content : Option V}
    (here : Tile.contentAt? sofar.tiles index = some content) :
    ∃ value, Tile.contentAt? (sofar.splice limit (family fun _ : Unit => updater)
      (spans.map (·, ()))).tiles index = some (some value) ∧ AtRest value := by
  induction spans generalizing sofar content with
  | nil => cases member
  | cons first rest ih =>
    rw [List.map_cons, Rewriting.splice_cons]
    by_cases now : index ∈ first
    · have clipped : index ∈ first.intersect ⟨0, limit⟩ :=
        Span.mem_intersect.mpr ⟨now, Nat.zero_le index, inDomain⟩
      obtain ⟨value, after, atRest⟩ := settling.rewrite sofar.state clipped here
      refine ⟨value, Rewriting.splice_spared (updater.resume limit first sofar) after ?_,
        atRest⟩
      intro _ _ _
      exact settling.spares value atRest
    · obtain ⟨_, _, _, after⟩ := updater.exists_answer
        (first.intersect ⟨0, limit⟩) sofar.state here
      rcases List.mem_cons.mp member with rfl | later
      · exact absurd inside now
      · exact ih (updater.resume limit first sofar) later after

/-! ## Maps -/

section

variable {M V σ : Type} [SpanMap M V] [LawfulSpanMap M V] {map : M} {cursor : Cursor} {state : σ}
  {walk : Walk M σ} {tiles : List (Tile V)} {done : Rewriting V σ}

theorem Walk.Becomes.changed_eq (becomes : (Walk.start map cursor state).Becomes walk [] done) :
    walk.changed = decide (0 < done.writes) :=
  becomes.changed.trans (Bool.false_or _)

/-- The flag of a walk says whether an index changed, if a write leaves a trace and nothing but a
write does. -/
theorem Walk.Becomes.changed_iff (becomes : (Walk.start map cursor state).Becomes walk [] done)
    (holds : LawfulSpanMap.Holds map tiles) (unwritten : done.writes = 0 → done.tiles = tiles)
    (moved : 0 < done.writes → ∃ index < SpanMap.limit map,
      Tile.contentAt? done.tiles index ≠ Tile.contentAt? tiles index) :
    walk.changed = true ↔
      ∃ index, SpanMap.value? walk.map index ≠ SpanMap.value? map index := by
  have sameLimit : SpanMap.limit walk.map = SpanMap.limit map := becomes.limit
  have standing : LawfulSpanMap.Holds walk.map done.tiles := becomes.holds
  rw [becomes.changed_eq, decide_eq_true_iff]
  constructor
  · intro written
    obtain ⟨index, bound, differs⟩ := moved written
    refine ⟨index, fun same => differs ?_⟩
    rw [SpanMap.contentAt?_eq standing (sameLimit.symm ▸ bound), SpanMap.contentAt?_eq holds bound,
      same]
  · rintro ⟨index, differs⟩
    apply Nat.pos_of_ne_zero
    intro none
    rw [SpanMap.value?_eq standing, SpanMap.value?_eq holds, unwritten none] at differs
    exact differs rfl

namespace Updater.Settling

variable {updater : Updater V σ} {AtRest : V → Prop}

theorem runAll_changed_iff (settling : updater.Settling AtRest)
    (holds : LawfulSpanMap.Holds map tiles) (spans : List Span) (state : σ) :
    (updater.runAll spans (.start map .fresh state)).changed = true ↔
      ∃ index, SpanMap.value? (updater.runAll spans (.start map .fresh state)).map index ≠
        SpanMap.value? map index := by
  refine (updater.runAll_becomes holds spans state).changed_iff holds ?_ ?_
  · intro unwritten
    exact (Rewriting.splice_unwritten unwritten).1
  · refine Rewriting.exists_moved_of_splice ⟨tiles, state, 0⟩ (LawfulSpanMap.tiling holds) ?_ ?_
    · exact fun _ _ => settling.differs
    · refine List.pairwise_of_forall ?_
      intro _ _ _ _ _ _ _ value answered
      exact settling.spares value (settling.atRest_of_answer _ answered)

/-- What the updater has been over is at rest, so it writes nothing there again. -/
theorem runAll_again (settling : updater.Settling AtRest) (holds : LawfulSpanMap.Holds map tiles)
    (spans : List Span) (state later : σ) :
    (updater.runAll spans
      (.start (updater.runAll spans (.start map .fresh state)).map .fresh later)).changed =
        false := by
  have becomes := updater.runAll_becomes holds spans state
  have standing := becomes.holds
  have sameLimit : SpanMap.limit (updater.runAll spans (.start map .fresh state)).map =
      SpanMap.limit map := becomes.limit
  rw [List.nil_append] at standing
  refine (updater.runAll_becomes standing spans later).changed_eq.trans ?_
  refine decide_eq_false (Nat.not_lt_of_le (Nat.le_of_eq ?_))
  refine Rewriting.splice_silent (LawfulSpanMap.tiling standing) ?_
  intro source member index inside bound
  obtain ⟨span, within, rfl⟩ := List.mem_map.mp member
  have inDomain : index < SpanMap.limit map := sameLimit ▸ bound
  obtain ⟨value, here, atRest⟩ :=
    settling.splice ⟨tiles, state, 0⟩ within inside inDomain (SpanMap.contentAt?_eq holds inDomain)
  exact ⟨value, here, settling.spares value atRest⟩

end Updater.Settling

end

/-! ## Walks step by step -/

section

variable {M V σ : Type} [SpanMap M V] {updater : Updater V σ}

/-- What an offer can come to. -/
inductive Walk.Offered (updater : Updater V σ) (walk : Walk M σ) : Walk M σ → Prop where
  /-- There was nothing to ask about. -/
  | passed (cursor : Cursor) : Offered updater walk { walk with cursor }
  | declined (cursor : Cursor) (offer : Offer V) :
      (updater.answer walk.state offer).1 = none →
      Offered updater walk { walk with cursor, state := (updater.answer walk.state offer).2 }
  | written (cursor : Cursor) (offer : Offer V) (span : Span) (value : V) :
      (updater.answer walk.state offer).1 = some value →
      Offered updater walk
        ({ walk with cursor, state := (updater.answer walk.state offer).2 }.write span value)

theorem Updater.offer_offered (updater : Updater V σ) (span : Span) (index : Nat)
    (walk : Walk M σ) : walk.Offered updater (updater.offer span index walk).2 := by
  unfold offer
  cases walk.cursor.seek walk.map index with
  | mk slot cursor =>
    cases slot with
    | gap gap =>
      cases answered : updater.insert ⟨index, min gap.stop span.stop⟩ walk.state with
      | mk answer state =>
        obtain rfl : (updater.answer walk.state (.insert ⟨index, min gap.stop span.stop⟩)).2 =
          state := congrArg Prod.snd answered
        cases answer with
        | none =>
          simp only [answered]
          exact .declined cursor _ (congrArg Prod.fst answered)
        | some value =>
          simp only [answered]
          exact .written cursor _ _ value (congrArg Prod.fst answered)
    | known known =>
      cases found : SpanMap.get? walk.map index with
      | none =>
        simp only [found]
        exact .passed cursor
      | some entry =>
        cases answered : updater.update entry.2 walk.state with
        | mk answer state =>
          obtain rfl : (updater.answer walk.state (.update entry.2)).2 = state :=
            congrArg Prod.snd answered
          cases answer with
          | none =>
            simp only [found, answered]
            exact .declined cursor _ (congrArg Prod.fst answered)
          | some value =>
            simp only [found, answered]
            exact .written cursor _ _ value (congrArg Prod.fst answered)

/-- What each offer keeps, from the walk before it to the walk after it, a run keeps. -/
theorem Updater.offerFrom_of_offered (Leads : Walk M σ → Walk M σ → Prop)
    (refl : ∀ walk, Leads walk walk)
    (trans : ∀ {first second third}, Leads first second → Leads second third → Leads first third)
    (step : ∀ walk next, walk.Offered updater next → Leads walk next)
    (span : Span) (index : Nat) (walk : Walk M σ) :
    Leads walk (updater.offerFrom span index walk) := by
  fun_induction offerFrom updater span index walk with
  | case1 index walk more stop next offered ih =>
    have here := step walk _ (updater.offer_offered span index walk)
    rw [offered] at here
    exact trans here ih
  | case2 index walk done => exact refl walk

end

/-! ## Walks that write nothing -/

section

variable {M V W σ : Type} [SpanMap M V] {Kept : σ → Prop} {first second third : Walk M σ}

/-- Unless it has written something, the later walk has the map of the earlier one, and its state is
one of those still. -/
def Walk.IdleFrom (Kept : σ → Prop) (earlier later : Walk M σ) : Prop :=
  later.changed = false →
    earlier.changed = false ∧ later.map = earlier.map ∧ (Kept earlier.state → Kept later.state)

theorem Walk.IdleFrom.refl (walk : Walk M σ) : Walk.IdleFrom Kept walk walk :=
  fun idle => ⟨idle, rfl, id⟩

theorem Walk.IdleFrom.trans (earlier : Walk.IdleFrom Kept first second)
    (later : Walk.IdleFrom Kept second third) : Walk.IdleFrom Kept first third := by
  intro idle
  obtain ⟨idleBefore, sameLater, keptLater⟩ := later idle
  obtain ⟨idleFirst, same, kept⟩ := earlier idleBefore
  exact ⟨idleFirst, sameLater.trans same, keptLater ∘ kept⟩

theorem Walk.idleFrom_foldl (Kept : σ → Prop) {α : Type} {step : Walk M σ → α → Walk M σ}
    (items : List α) (each : ∀ item ∈ items, ∀ walk, Walk.IdleFrom Kept walk (step walk item))
    (walk : Walk M σ) : Walk.IdleFrom Kept walk (items.foldl step walk) := by
  induction items generalizing walk with
  | nil => exact .refl walk
  | cons item rest ih =>
    obtain ⟨now, later⟩ := List.forall_mem_cons.mp each
    exact (now walk).trans (ih later (step walk item))

theorem Updater.run_idle {updater : Updater V σ}
    (keeps : ∀ state offer, Kept state → (updater.answer state offer).1 = none →
      Kept (updater.answer state offer).2)
    (span : Span) (walk : Walk M σ) : Walk.IdleFrom Kept walk (updater.run span walk) := by
  refine offerFrom_of_offered (Walk.IdleFrom Kept) .refl .trans ?_ _ _ walk
  intro walk next offered
  cases offered with
  | passed cursor => exact fun idle => ⟨idle, rfl, id⟩
  | declined cursor offer silent =>
    exact fun idle => ⟨idle, rfl, fun kept => keeps walk.state offer kept silent⟩
  | written cursor offer span value answered => exact fun idle => nomatch idle

/-- What no write takes from the map, no update takes from it. -/
theorem Updater.run_keeps_map {updater : Updater V σ} (Kept : M → Prop)
    (writes : ∀ map span (value : V), Kept map → Kept (SpanMap.overwrite map span value))
    (span : Span) (walk : Walk M σ) (kept : Kept walk.map) : Kept (updater.run span walk).map := by
  refine offerFrom_of_offered (fun earlier later : Walk M σ => Kept earlier.map → Kept later.map)
    (fun _ => id) (fun earlier later => later ∘ earlier) ?_ _ _ walk kept
  intro walk next offered
  cases offered with
  | passed cursor => exact id
  | declined cursor offer silent => exact id
  | written cursor offer span value answered => exact writes walk.map span value

end

end LayoutTracking

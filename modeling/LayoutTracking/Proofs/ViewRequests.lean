import LayoutTracking.Proofs.CopyOrder
import LayoutTracking.Proofs.ExactFlags
import LayoutTracking.Proofs.ResolvedSelectors
import LayoutTracking.Proofs.Searches
import LayoutTracking.Proofs.StoreNames

/-!
# Requests through views

A view has its selector resolved for its image. To resolve it again changes nothing, so a request
through the view goes over what a request for its selector goes over. The two make the same map and
issue the same handle: what a snapshot says has no part in either. And a request for initial layouts
does nothing but fill gaps.
-/

set_option autoImplicit false

namespace LayoutTracking

/-- The snapshot as it is taken through a view. -/
def Snapshot.through (view : View) (snapshot : Snapshot) : Snapshot :=
  { snapshot with view := some view.id, aspects := view.selector.aspects }

theorem Snapshot.take_view (recorder : Recorder) (view : View) :
    Snapshot.take recorder (some view) = .through view (.take recorder none) := rfl

/-! ## Walks side by side -/

/-- The walks have made the same map and stand at the same slot, in like states. -/
structure Walk.Beside {M σ τ : Type} (Alike : σ → τ → Prop) (left : Walk M σ) (right : Walk M τ) :
    Prop where
  map : left.map = right.map
  cursor : left.cursor = right.cursor
  state : Alike left.state right.state
  changed : left.changed = right.changed

namespace Updater.Mirrors

variable {M V σ τ : Type} [SpanMap M V] {left : Updater V σ} {right : Updater V τ}
  {Alike : σ → τ → Prop} {walk : Walk M σ} {other : Walk M τ}

theorem offer (mirrors : left.Mirrors right Eq Alike) (span : Span) (index : Nat)
    (beside : walk.Beside Alike other) :
    (right.offer span index other).1 = (left.offer span index walk).1 ∧
      (left.offer span index walk).2.Beside Alike (right.offer span index other).2 := by
  obtain ⟨map, cursor, state, changed⟩ := walk
  obtain ⟨_, _, counterpart, _⟩ := other
  obtain ⟨rfl, rfl, alike, rfl⟩ := beside
  unfold Updater.offer
  dsimp only at alike ⊢
  generalize cursor.seek map index = sought
  obtain ⟨slot, cursor⟩ := sought
  cases slot with
  | gap gap =>
    have replies := mirrors.insert ⟨index, min gap.stop span.stop⟩ state counterpart alike
    dsimp only
    generalize left.insert ⟨index, min gap.stop span.stop⟩ state = reply at replies ⊢
    generalize right.insert ⟨index, min gap.stop span.stop⟩ counterpart = otherReply at replies ⊢
    obtain ⟨answer, next⟩ := reply
    obtain ⟨otherAnswer, otherNext⟩ := otherReply
    obtain ⟨answers, alikeNext⟩ := replies
    cases answers with
    | none => exact ⟨rfl, rfl, rfl, alikeNext, rfl⟩
    | some same =>
      subst same
      exact ⟨rfl, rfl, rfl, alikeNext, rfl⟩
  | known known =>
    dsimp only
    cases SpanMap.get? map index with
    | none => exact ⟨rfl, rfl, rfl, alike, rfl⟩
    | some stored =>
      have replies := mirrors.update stored.2 stored.2 state counterpart rfl alike
      dsimp only
      generalize left.update stored.2 state = reply at replies ⊢
      generalize right.update stored.2 counterpart = otherReply at replies ⊢
      obtain ⟨answer, next⟩ := reply
      obtain ⟨otherAnswer, otherNext⟩ := otherReply
      obtain ⟨answers, alikeNext⟩ := replies
      cases answers with
      | none => exact ⟨rfl, rfl, rfl, alikeNext, rfl⟩
      | some same =>
        subst same
        exact ⟨rfl, rfl, rfl, alikeNext, rfl⟩

/-- Step by step the two go on from the same index, as the answers do not differ. -/
theorem offerFrom (mirrors : left.Mirrors right Eq Alike) (span : Span) (index : Nat)
    (beside : walk.Beside Alike other) :
    (left.offerFrom span index walk).Beside Alike (right.offerFrom span index other) := by
  fun_induction left.offerFrom span index walk generalizing other with
  | case1 index walk more stop next offered ih =>
    obtain ⟨sameStop, besideNext⟩ := mirrors.offer span index beside
    rw [offered] at sameStop besideNext
    rw [Updater.offerFrom.eq_def right span index other, if_pos more]
    dsimp only at sameStop ⊢
    rw [sameStop]
    exact ih besideNext
  | case2 index walk done =>
    rw [Updater.offerFrom.eq_def right span index other, if_neg done]
    exact beside

theorem run (mirrors : left.Mirrors right Eq Alike) (span : Span)
    (beside : walk.Beside Alike other) :
    (left.run span walk).Beside Alike (right.run span other) := by
  rw [Updater.run, Updater.run, beside.map]
  exact mirrors.offerFrom _ _ beside

theorem runAll (mirrors : left.Mirrors right Eq Alike) (spans : List Span)
    (beside : walk.Beside Alike other) :
    (left.runAll spans walk).Beside Alike (right.runAll spans other) := by
  induction spans generalizing walk other with
  | nil => exact beside
  | cons span rest ih => exact ih (mirrors.run span beside)

end Updater.Mirrors

namespace Registry

/-! ## Two requests that differ in their snapshot -/

/-- The handles are the same, and so is what the next one depends on. -/
structure Filling.Alike (left right : Filling) : Prop where
  handle : left.handle = right.handle
  id : left.store.id = right.store.id
  size : left.store.snapshots.size = right.store.snapshots.size

namespace Filling.Alike

variable {left right : Filling}

theorem ask (alike : left.Alike right) (first second : Snapshot) :
    (left.ask first).Alike (right.ask second) := by
  unfold Filling.ask
  rw [alike.handle]
  cases asked : right.handle with
  | some _ => exact alike
  | none =>
    simp only [SnapshotStore.push, alike.size, alike.id]
    by_cases room : right.store.snapshots.size < SnapshotStore.capacity
    · simp only [room, ↓reduceIte]
      exact ⟨rfl, rfl, by simp [alike.size]⟩
    · simp only [room, ↓reduceIte]
      exact ⟨rfl, alike.id, alike.size⟩

theorem entry (alike : left.Alike right) (template : LayoutEntry) :
    left.entry template = right.entry template := by
  rw [Filling.entry, Filling.entry, alike.handle]

/-- What became of two requests on one store: none was asked for a snapshot, or each took its own,
or there was no room for either. -/
theorem stores {store : SnapshotStore} {first second : Snapshot} (alike : left.Alike right)
    (leftSince : left.Since store first) (rightSince : right.Since store second) :
    left.store = store ∧ right.store = store ∨
      store.Appends left.store [first] ∧ store.Appends right.store [second] := by
  have same := alike.handle
  cases leftSince with
  | unasked =>
    cases rightSince with
    | unasked => exact .inl ⟨rfl, rfl⟩
    | issued => cases same
    | refused => cases same
  | issued pushed =>
    cases rightSince with
    | unasked => cases same
    | issued otherPushed =>
      exact .inr ⟨store.appends_nil.push pushed, store.appends_nil.push otherPushed⟩
    | refused => cases same
  | refused =>
    cases rightSince with
    | unasked => cases same
    | issued => cases same
    | refused => exact .inl ⟨rfl, rfl⟩

end Filling.Alike

theorem filler_mirrors (template : LayoutEntry) (first second : Snapshot) :
    (filler template first).Mirrors (filler template second) Eq Filling.Alike where
  insert gap left right alike := by
    have asked := alike.ask first second
    exact ⟨.some (asked.entry template), asked⟩
  update existing counterpart left right same alike := by
    subst same
    simp only [filler]
    by_cases moves : existing.movesTo template.current = true
    · rw [if_pos moves, if_pos moves]
      exact ⟨.some (congrArg existing.merge (alike.entry template)), alike⟩
    · rw [if_neg moves, if_neg moves]
      exact ⟨.none, alike⟩

/-- The outcomes are the same but for the snapshots that were taken, which stand at the same place. -/
structure SameButSnapshot (before : Registry) (left right : Outcome) (first second : Snapshot) :
    Prop where
  shapes : before.SameShape left.registry ∧ before.SameShape right.registry
  layouts : left.registry.layouts = right.registry.layouts
  changed : left.changed = right.changed
  failure : left.failure = right.failure
  stores : left.registry.snapshots = before.snapshots ∧ right.registry.snapshots = before.snapshots ∨
    before.snapshots.Appends left.registry.snapshots [first] ∧
      before.snapshots.Appends right.registry.snapshots [second]

theorem SameButSnapshot.withNotices {before : Registry} {left right : Outcome}
    {first second : Snapshot} (same : before.SameButSnapshot left right first second)
    (notices : List Notice) :
    before.SameButSnapshot left { right with notices } first second :=
  ⟨same.shapes, same.layouts, same.changed, same.failure, same.stores⟩

variable {registry : Registry} {tiles : List (Tile LayoutEntry)}

/-- What a request over the spans comes to. -/
def requestWalk (registry : Registry) (template : LayoutEntry) (snapshot : Snapshot)
    (spans : List Span) : Walk (AdaptiveMap LayoutEntry) Filling :=
  (filler template snapshot).runAll spans
    (.start registry.layouts .fresh ⟨registry.snapshots, none, []⟩)

theorem requestWalk_beside (registry : Registry) (template : LayoutEntry)
    (first second : Snapshot) (spans : List Span) :
    (registry.requestWalk template first spans).Beside Filling.Alike
      (registry.requestWalk template second spans) :=
  (filler_mirrors template first second).runAll spans ⟨rfl, rfl, ⟨rfl, rfl, rfl⟩, rfl⟩

theorem requestWalk_becomes (holds : LawfulSpanMap.Holds registry.layouts tiles)
    (template : LayoutEntry) (snapshot : Snapshot) (spans : List Span) :
    (Walk.start registry.layouts .fresh (⟨registry.snapshots, none, []⟩ : Filling)).Becomes
      (registry.requestWalk template snapshot spans) []
      (requested (SpanMap.limit registry.layouts) template snapshot spans tiles
        registry.snapshots) :=
  (filler template snapshot).runAll_becomes holds spans ⟨registry.snapshots, none, []⟩

theorem requestWalk_since (holds : LawfulSpanMap.Holds registry.layouts tiles)
    (template : LayoutEntry) (snapshot : Snapshot) (spans : List Span) :
    (registry.requestWalk template snapshot spans).state.Since registry.snapshots snapshot := by
  rw [(requestWalk_becomes holds template snapshot spans).state]
  exact requested_since _ _ _ _ _ _

theorem fill_sameButSnapshot (holds : LawfulSpanMap.Holds registry.layouts tiles)
    (template : LayoutEntry) (first second : Snapshot) (swept : Swept) :
    SameButSnapshot registry (registry.fill template first swept)
      (registry.fill template second swept) first second := by
  have beside := registry.requestWalk_beside template first second swept.spans
  exact ⟨⟨fill_shape _ _ _ _, fill_shape _ _ _ _⟩, beside.map, beside.changed, rfl,
    beside.state.stores (requestWalk_since holds template first swept.spans)
      (requestWalk_since holds template second swept.spans)⟩

/-! ## Requests that do nothing but fill gaps -/

/-- What a request for initial layouts does to what it covers. The handle is that of the snapshot it
takes, if it meets a gap and there is room. -/
structure FillsGaps (before after : Registry) (layout : ImageLayout) (snapshot : Snapshot)
    (Covers : Nat → Prop) (handle : Option SnapshotId) : Prop where
  known : ∀ index entry, SpanMap.get? before.layouts index = some entry →
    SpanMap.get? after.layouts index = some entry
  filled : ∀ index < before.addressing.count, Covers index → before.known? index = none →
    after.known? index = some ⟨some layout, none, handle⟩
  outside : ∀ index, ¬ Covers index → after.known? index = before.known? index
  taken : (∃ index < before.addressing.count, Covers index ∧ before.known? index = none) →
    before.snapshots.snapshots.size < SnapshotStore.capacity →
      before.snapshots.Appends after.snapshots [snapshot] ∧
        ∃ issued, handle = some issued ∧ before.snapshots.get? issued = none ∧
          after.snapshots.get? issued = some snapshot
  refused : SnapshotStore.capacity ≤ before.snapshots.snapshots.size →
    handle = none ∧ after.snapshots = before.snapshots
  spared : (∀ index < before.addressing.count, Covers index → before.known? index ≠ none) →
    after = before

section

variable {template : LayoutEntry} {snapshot : Snapshot} {spans : List Span}

/-- What a request without a current layout answers, with what it was told of its snapshot. -/
def gapVerdict (template : LayoutEntry) (asked : Option (Option SnapshotId)) :
    Option LayoutEntry → Option LayoutEntry
  | none => asked.map fun handle => { template with snapshot := handle }
  | some _ => none

/-- What the request has been over it leaves alone. -/
theorem gapVerdict_gapVerdict (template : LayoutEntry) (asked : Option (Option SnapshotId))
    (content : Option LayoutEntry) :
    (gapVerdict template asked (gapVerdict template asked content <|> content) <|>
        (gapVerdict template asked content <|> content)) =
      (gapVerdict template asked content <|> content) := by
  cases content with
  | none => cases asked <;> simp [gapVerdict]
  | some existing => rfl

theorem filler_update_eq_none (quiet : template.current = none) (existing : LayoutEntry)
    (filling : Filling) : (filler template snapshot).update existing filling = (none, filling) := by
  simp [filler, LayoutEntry.movesTo, quiet]

theorem filler_settles_gaps (snapshot : Snapshot) (quiet : template.current = none)
    (final : Filling) :
    (filler template snapshot).Settles final.Toward (fun _ => True)
      (gapVerdict template final.handle) where
  back := filler_back template snapshot
  insert gap filling onTheWay := by
    obtain ⟨asked, known⟩ := filling.exists_handle_ask snapshot
    have told : final.handle = some asked := onTheWay asked known
    refine ⟨?_, fun _ _ => trivial⟩
    simp [filler, Filling.entry, known, gapVerdict, told]
  update existing filling _ _ := by
    rw [filler_update_eq_none quiet]
    exact ⟨rfl, fun _ _ => trivial⟩

/-- Nothing is answered for a span that is stored, so it stays where it is. -/
theorem requested_keeps (limit : Nat) (quiet : template.current = none) (store : SnapshotStore)
    {tile : Tile LayoutEntry} (stored : tile.content.isSome = true) (member : tile ∈ tiles) :
    tile ∈ (requested limit template snapshot spans tiles store).tiles := by
  refine Rewriting.splice_preserves (fun _ tiles => tile ∈ tiles) ?_ member
  intro _ _ range state front other rest among
  obtain ⟨span, content⟩ := other
  cases content with
  | some existing =>
    simp only [Tile.offer, Updater.answer, filler_update_eq_none quiet, Tile.replace]
    simpa using among
  | none =>
    dsimp only
    rcases List.mem_append.mp among with early | late
    · exact List.mem_append_left _ (List.mem_append_left _ early)
    · rcases List.mem_cons.mp late with rfl | late
      · cases stored
      · exact List.mem_append_right _ late

theorem requested_gaps (quiet : template.current = none) (snapshot : Snapshot)
    (spans : List Span) (store : SnapshotStore) {limit index : Nat} (bound : index < limit)
    {content : Option LayoutEntry} (here : Tile.contentAt? tiles index = some content) :
    Tile.contentAt? (requested limit template snapshot spans tiles store).tiles index =
      some (if ∃ span ∈ spans, index ∈ span then
        gapVerdict template (requested limit template snapshot spans tiles store).state.handle
          content <|> content
      else content) := by
  obtain ⟨-, pointwise⟩ := Rewriting.splice_spans_settles limit spans
    (filler_settles_gaps snapshot quiet _) (gapVerdict_gapVerdict template _)
    (fun _ _ _ _ => trivial) (fun _ known => known)
  refine (pointwise index bound).trans ?_
  rw [here]
  rfl

variable {index : Nat}

theorem requestWalk_value? (holds : LawfulSpanMap.Holds registry.layouts tiles)
    (quiet : template.current = none) (snapshot : Snapshot) (spans : List Span)
    (bound : index < SpanMap.limit registry.layouts) :
    SpanMap.value? (registry.requestWalk template snapshot spans).map index =
      if ∃ span ∈ spans, index ∈ span then
        gapVerdict template (registry.requestWalk template snapshot spans).state.handle
          (registry.known? index) <|> registry.known? index
      else registry.known? index := by
  have becomes := requestWalk_becomes holds template snapshot spans
  have value := requested_gaps quiet snapshot spans registry.snapshots bound
    (SpanMap.contentAt?_eq holds bound)
  rw [SpanMap.value?_eq becomes.holds, List.nil_append, value, becomes.state]
  rfl

/-- A gap that is gone over is filled, and so the snapshot has been asked for. -/
theorem requestWalk_asked (holds : LawfulSpanMap.Holds registry.layouts tiles)
    (quiet : template.current = none) (snapshot : Snapshot) (spans : List Span)
    (bound : index < SpanMap.limit registry.layouts) (covered : ∃ span ∈ spans, index ∈ span)
    (unknown : registry.known? index = none) :
    ∃ asked, (registry.requestWalk template snapshot spans).state.handle = some asked := by
  have becomes := requestWalk_becomes holds template snapshot spans
  have value := requestWalk_value? holds quiet snapshot spans bound
  rw [if_pos covered, unknown, SpanMap.value?_eq becomes.holds, List.nil_append] at value
  obtain ⟨span, member, inside⟩ := covered
  obtain ⟨entry, filled, -⟩ := (filler_settling template snapshot).splice
    ⟨tiles, ⟨registry.snapshots, none, []⟩, 0⟩ member inside bound
    (SpanMap.contentAt?_eq holds bound)
  rw [requested, filled] at value
  cases asked : (registry.requestWalk template snapshot spans).state.handle with
  | none =>
    rw [asked] at value
    cases value
  | some handle => exact ⟨handle, rfl⟩

theorem Filling.Since.appends {store : SnapshotStore} {filling : Filling}
    (since : filling.Since store snapshot) {asked : Option SnapshotId}
    (isAsked : filling.handle = some asked)
    (room : store.snapshots.size < SnapshotStore.capacity) :
    store.Appends filling.store [snapshot] ∧
      ∃ issued, filling.handle.join = some issued ∧ store.get? issued = none ∧
        filling.store.get? issued = some snapshot := by
  cases since with
  | unasked => cases isAsked
  | issued pushed =>
    exact ⟨store.appends_nil.push pushed, _, rfl, SnapshotStore.get?_eq_none_of_push pushed,
      SnapshotStore.get?_of_push pushed⟩
  | refused full =>
    rw [SnapshotStore.push, if_pos room] at full
    cases full

theorem Filling.Since.unchanged {store : SnapshotStore} {filling : Filling}
    (since : filling.Since store snapshot)
    (full : SnapshotStore.capacity ≤ store.snapshots.size) :
    filling.handle.join = none ∧ filling.store = store := by
  cases since with
  | unasked => exact ⟨rfl, rfl⟩
  | issued pushed =>
    rw [SnapshotStore.push, if_neg (Nat.not_lt_of_le full)] at pushed
    cases pushed
  | refused => exact ⟨rfl, rfl⟩

end

theorem fill_fillsGaps (measured : registry.Measured) (layout : ImageLayout)
    (snapshot : Snapshot) (swept : Swept) :
    FillsGaps registry (registry.fill ⟨some layout, none, none⟩ snapshot swept).registry layout
      snapshot (fun index => ∃ span ∈ swept.spans, index ∈ span)
      (registry.requestWalk ⟨some layout, none, none⟩ snapshot swept.spans).state.handle.join := by
  obtain ⟨tiles, holds⟩ := measured.holds
  have quiet : (⟨some layout, none, none⟩ : LayoutEntry).current = none := rfl
  have becomes := requestWalk_becomes holds ⟨some layout, none, none⟩ snapshot swept.spans
  have since := requestWalk_since holds ⟨some layout, none, none⟩ snapshot swept.spans
  have value {index : Nat} (bound : index < registry.addressing.count) :=
    requestWalk_value? holds quiet snapshot swept.spans (measured.limit.symm ▸ bound)
  have asked {index : Nat} (bound : index < registry.addressing.count) :=
    requestWalk_asked holds quiet snapshot swept.spans (measured.limit.symm ▸ bound)
  have beyond (index : Nat) (past : registry.addressing.count ≤ index) :
      SpanMap.value? (registry.requestWalk ⟨some layout, none, none⟩ snapshot swept.spans).map index =
        registry.known? index := by
    rw [← measured.limit] at past
    exact (SpanMap.value?_eq_none becomes.holds (becomes.limit.symm ▸ past)).trans
      (SpanMap.value?_eq_none holds past).symm
  have outside (index : Nat) (missed : ¬ ∃ span ∈ swept.spans, index ∈ span) :
      SpanMap.value? (registry.requestWalk ⟨some layout, none, none⟩ snapshot swept.spans).map index =
        registry.known? index := by
    by_cases bound : index < registry.addressing.count
    · exact (value bound).trans (if_neg missed)
    · exact beyond index (Nat.le_of_not_lt bound)
  refine ⟨?_, ?_, outside, ?_, since.unchanged, ?_⟩
  · intro index entry found
    obtain ⟨member, inside⟩ := (SpanMap.get?_eq_some_iff holds index entry).mp found
    rw [SpanMap.entries_eq holds] at member
    obtain ⟨⟨span, content⟩, isTile, isEntry⟩ := List.mem_filterMap.mp member
    cases content with
    | none => cases isEntry
    | some value =>
      obtain rfl := Option.some.inj isEntry
      exact SpanMap.get?_of_mem becomes.holds (requested_keeps _ rfl _ rfl isTile) inside
  · intro index bound covered unknown
    obtain ⟨handle, isAsked⟩ := asked bound covered unknown
    refine (value bound).trans ?_
    rw [if_pos covered, unknown, isAsked]
    rfl
  · rintro ⟨index, bound, covered, unknown⟩ room
    obtain ⟨handle, isAsked⟩ := asked bound covered unknown
    exact since.appends isAsked room
  · intro known
    refine fill_idle _ _ _ (Bool.eq_false_iff.mpr fun written => ?_)
    obtain ⟨index, differs⟩ := (fill_flagIsExact holds _ _ _).flag.mp written
    refine differs ?_
    by_cases covered : ∃ span ∈ swept.spans, index ∈ span
    · by_cases bound : index < registry.addressing.count
      · obtain ⟨entry, isKnown⟩ := Option.ne_none_iff_exists'.mp (known index bound covered)
        refine (value bound).trans ?_
        rw [if_pos covered, isKnown]
        rfl
      · exact beyond index (Nat.le_of_not_lt bound)
    · exact outside index covered

/-! ## Views and selectors -/

theorem fill_nothing (registry : Registry) (template : LayoutEntry) (snapshot : Snapshot) :
    registry.fill template snapshot ⟨[], none⟩ = ⟨registry, false, [], none⟩ := rfl

/-- A selector that does not fit the image is swept to nothing, so that the check for it shows in
the notices alone. -/
theorem fillSelector_eq_fill (registry : Registry) (recorder : Recorder) (selector : Selector)
    (template : LayoutEntry) (request : Request) :
    ∃ notices, registry.fillSelector recorder selector template request =
      { registry.fill template (.take recorder none)
          (.ofSelector registry.addressing (registry.addressing.normalize selector)) with
        notices } := by
  by_cases admitted : registry.addressing.admits (registry.addressing.normalize selector) = true
  · have eta (outcome : Outcome) : ∃ notices, outcome = { outcome with notices } := ⟨_, rfl⟩
    rw [fillSelector, if_pos admitted]
    exact eta _
  · have nothing := Swept.ofSelector_of_not_admits (Bool.eq_false_iff.mpr admitted)
    rw [fillSelector, if_neg admitted, nothing, fill_nothing]
    generalize Notice.outOfRange _ _ _ = notice
    exact ⟨[notice], rfl⟩

/-- The image is the one that the registry was made for. -/
structure Shows (registry : Registry) (image : Image) : Prop where
  id : image.id = registry.image
  addressing : image.addressing = registry.addressing

/-- Asking for an initial layout through the view, and asking for it for the selector of the view,
come to the same. -/
structure ViewAgrees (registry : Registry) (recorder : Recorder) (layout : ImageLayout)
    (view : View) : Prop where
  same : SameButSnapshot registry (registry.setInitialFromView recorder layout view)
    (registry.setInitial recorder view.selector layout)
    (.through view (.take recorder none)) (.take recorder none)
  fills : ∃ handle,
    FillsGaps registry (registry.setInitialFromView recorder layout view).registry layout
      (.through view (.take recorder none)) (fun index => ∃ span ∈ view.swept.spans, index ∈ span)
      handle ∧
    FillsGaps registry (registry.setInitial recorder view.selector layout).registry layout
      (.take recorder none) (fun index => ∃ span ∈ view.swept.spans, index ∈ span) handle

variable {image : Image}

theorem Shows.setInitialFromView_eq (shows : registry.Shows image) (recorder : Recorder)
    (layout : ImageLayout) (id : ViewId) (selector : Selector) :
    let view := View.ofSelector id image selector
    registry.setInitialFromView recorder layout view =
      registry.fill ⟨some layout, none, none⟩ (.through view (.take recorder none))
        view.swept := by
  intro view
  rw [← Snapshot.take_view]
  exact if_pos shows.id

/-- The selector of a view is resolved already, and for the same image. -/
theorem Shows.setInitial_eq (shows : registry.Shows image) (recorder : Recorder)
    (layout : ImageLayout) (id : ViewId) (selector : Selector) :
    let view := View.ofSelector id image selector
    ∃ notices, registry.setInitial recorder view.selector layout =
      { registry.fill ⟨some layout, none, none⟩ (.take recorder none) view.swept with
        notices } := by
  intro view
  have swept : view.swept = .ofSelector registry.addressing
      (registry.addressing.normalize view.selector) := by
    rw [← shows.addressing]
    exact congrArg (Swept.ofSelector image.addressing)
      (image.addressing.normalize_normalize selector).symm
  rw [swept]
  exact registry.fillSelector_eq_fill recorder view.selector _ _

/-- A view of any selector agrees with its selector, whether it fits the image or not. -/
theorem Edited.view_agrees (edited : registry.Edited) (shows : registry.Shows image)
    (recorder : Recorder) (layout : ImageLayout) (id : ViewId) (selector : Selector) :
    registry.ViewAgrees recorder layout (.ofSelector id image selector) := by
  have measured := edited.measured
  obtain ⟨tiles, holds⟩ := measured.holds
  have viaView := shows.setInitialFromView_eq recorder layout id selector
  obtain ⟨notices, viaSelector⟩ := shows.setInitial_eq recorder layout id selector
  generalize View.ofSelector id image selector = view at viaView viaSelector ⊢
  have same := fill_sameButSnapshot holds ⟨some layout, none, none⟩
    (.through view (.take recorder none)) (.take recorder none) view.swept
  have viewFills := fill_fillsGaps measured layout (.through view (.take recorder none))
    view.swept
  have selectorFills := fill_fillsGaps measured layout (.take recorder none)
    view.swept
  have beside := registry.requestWalk_beside ⟨some layout, none, none⟩
    (.through view (.take recorder none)) (.take recorder none) view.swept.spans
  rw [← beside.state.handle] at selectorFills
  refine ⟨?_, (registry.requestWalk ⟨some layout, none, none⟩ (.through view (.take recorder none))
    view.swept.spans).state.handle.join, ?_, ?_⟩
  · rw [viaView, viaSelector]
    exact same.withNotices notices
  · rw [viaView]
    exact viewFills
  · rw [viaSelector]
    exact selectorFills

/-- A view of colour of an image with two planes, where one layer is known. -/
theorem view_agrees_of_planes :
    let image : Image := ⟨⟨1⟩, ⟨⟨48⟩, 2, 3, .undefined, none⟩, 0, by decide⟩
    let registry :=
      ((Registry.empty image 0 ⟨1⟩).setLayout ⟨⟨1⟩, none⟩ ⟨⟨32⟩, 0, 1, 1, 1⟩ .general none).registry
    registry.Edited ∧ registry.Shows image ∧
      registry.ViewAgrees ⟨⟨2⟩, none⟩ .presentSrc
        (.ofSelector ⟨5⟩ image ⟨.color, 0, remaining, 1, remaining⟩) := by
  intro image registry
  have edited : registry.Edited := .edit (.setLayout _ _ _ _) (.empty image 0 ⟨1⟩)
  have shape := (fillSelector_answers (Registry.empty image 0 ⟨1⟩) ⟨⟨1⟩, none⟩ ⟨⟨32⟩, 0, 1, 1, 1⟩
    ⟨some .general, some .general, none⟩ .transition).shape
  have shows : registry.Shows image := ⟨shape.1.symm, shape.2.symm⟩
  exact ⟨edited, shows, edited.view_agrees shows _ _ _ _⟩

end Registry

end LayoutTracking

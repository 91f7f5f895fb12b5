import LayoutTracking.Proofs.Devices
import LayoutTracking.Proofs.Selectors

/-!
# Device-wide layouts

The map of an image is as long as the line of the image. A layout set on a device reaches the
subresources that the selector names and no other, so that every subresource can be set alone: all
but colour of a multi-planar image, which stands for the planes.
-/

set_option autoImplicit false

namespace LayoutTracking.Device

/-! ## Painting -/

/-- What painting answers to a gap, and to a layout. -/
def preferred (layout : ImageLayout) (content : Option ImageLayout) : Option ImageLayout :=
  if content = some layout then none else some layout

theorem prefer_settles (layout : ImageLayout) :
    (Updater.prefer layout : Updater ImageLayout Unit).Settles (fun _ => True) (fun _ => True)
      (preferred layout) where
  back _ _ _ := trivial
  insert _ _ _ := ⟨rfl, fun _ _ => trivial⟩
  update existing _ _ _ := by
    refine ⟨?_, fun _ _ => trivial⟩
    simp only [Updater.prefer, preferred, Option.some.injEq]

theorem preferred_orElse (layout : ImageLayout) (content : Option ImageLayout) :
    (preferred layout content <|> content) = some layout := by
  by_cases same : content = some layout
  · rw [preferred, if_pos same]
    exact same
  · rw [preferred, if_neg same]
    rfl

/-- Painting, on tiles. -/
def painted (limit : Nat) (layout : ImageLayout) (spans : List Span)
    (tiles : List (Tile ImageLayout)) : Rewriting ImageLayout Unit :=
  Rewriting.splice limit (Updater.family fun _ : Unit => Updater.prefer layout)
    (spans.map (·, ())) ⟨tiles, (), 0⟩

theorem painted_settles (limit : Nat) (layout : ImageLayout) (spans : List Span)
    (tiles : List (Tile ImageLayout)) {index : Nat} (bound : index < limit) :
    Tile.contentAt? (painted limit layout spans tiles).tiles index =
      (Tile.contentAt? tiles index).map fun content =>
        if ∃ span ∈ spans, index ∈ span then some layout else content := by
  have steady : ∀ content, (preferred layout (preferred layout content <|> content) <|>
      (preferred layout content <|> content)) = (preferred layout content <|> content) := by
    intro content
    rw [preferred_orElse, preferred_orElse]
  have anything : Tile.AllStored (fun _ => True)
      (⟨tiles, (), 0⟩ : Rewriting ImageLayout Unit).tiles := fun _ _ _ _ => trivial
  obtain ⟨-, pointwise⟩ := Rewriting.splice_spans_settles limit spans (prefer_settles layout)
    steady anything trivial
  refine (pointwise index bound).trans ?_
  simp only [preferred_orElse]

theorem paint_revised {map : AdaptiveMap ImageLayout} (isMap : IsMap map) (spans : List Span)
    (layout : ImageLayout) :
    SpanMap.Revised map (paint map spans layout).map (fun _ => True) fun index content =>
      if ∃ span ∈ spans, index ∈ span then some layout else content := by
  obtain ⟨tiles, holds⟩ := isMap.holds
  have becomes := (Updater.prefer layout).runAll_becomes holds spans ()
  exact becomes.revised holds (fun _ _ _ _ => trivial)
    fun _ bound => painted_settles _ layout spans tiles bound

variable {device : Device} {image : Image}

/-! ## The maps of a device -/

theorem layoutMap_putMap_of_ne {other : Image} (apart : other.layoutMap ≠ image.layoutMap)
    (map : AdaptiveMap ImageLayout) :
    (device.putMap image map).layoutMap other = device.layoutMap other := by
  rw [layoutMap, layoutMap, putMap, List.getD_eq_getElem?_getD, List.getD_eq_getElem?_getD,
    List.getElem?_set_ne apart.symm]

theorem layoutMap_of_shared {other : Image} (shared : other.layoutMap = image.layoutMap)
    (device : Device) : device.layoutMap other = device.layoutMap image := by
  rw [layoutMap, layoutMap, shared]

theorem layoutMap_createImage (device : Device) (info : ImageInfo)
    (fits : info.addressing.count < UInt64.size) (threshold : Nat) :
    (device.createImage info fits threshold).2.layoutMap
      (device.createImage info fits threshold).1 = freshMap info threshold := by
  rw [layoutMap, createImage_maps, createImage_layoutMap, List.getD_eq_getElem?_getD,
    List.getElem?_concat_length, Option.getD_some]

theorem layoutMap_createImage_of_lt (placed : image.layoutMap < device.maps.length)
    (info : ImageInfo) (fits : info.addressing.count < UInt64.size) (threshold : Nat) :
    (device.createImage info fits threshold).2.layoutMap image = device.layoutMap image := by
  rw [layoutMap, layoutMap, createImage_maps, List.getD_eq_getElem?_getD,
    List.getD_eq_getElem?_getD, List.getElem?_append_left placed]

/-- The map of each image goes with its shape, in the sense given. -/
def EachMap (device : Device) (Goes : Addressing → AdaptiveMap ImageLayout → Prop) : Prop :=
  ∀ image ∈ device.images, Goes image.addressing (device.layoutMap image)

/-- New maps are as given, and so is what painting makes of a map that is. -/
structure Lasting (Goes : Addressing → AdaptiveMap ImageLayout → Prop) : Prop where
  fresh : ∀ info threshold, info.addressing.count < UInt64.size →
    Goes info.addressing (freshMap info threshold)
  paint : ∀ map, IsMap map → ∀ spans layout shape, Goes shape map →
    Goes shape (paint map spans layout).map

section

variable {Goes : Addressing → AdaptiveMap ImageLayout → Prop}

theorem EachMap.putMap (each : device.EachMap Goes) (sound : device.Sound) (image : Image)
    {map : AdaptiveMap ImageLayout}
    (next : ∀ shape, Goes shape (device.layoutMap image) → Goes shape map) :
    (device.putMap image map).EachMap Goes := by
  intro other member
  have goes := each other member
  by_cases shared : other.layoutMap = image.layoutMap
  · have placed : image.layoutMap < device.maps.length := shared ▸ sound.placed other member
    rw [layoutMap_of_shared shared] at goes ⊢
    rw [layoutMap_putMap placed]
    exact next other.addressing goes
  · rw [layoutMap_putMap_of_ne shared]
    exact goes

theorem EachMap.setSpans (each : device.EachMap Goes) (lasting : Lasting Goes)
    (sound : device.Sound) (image : Image) (spans : List Span) (layout : ImageLayout) :
    (device.setSpans image spans layout).device.EachMap Goes :=
  each.putMap sound image (lasting.paint _ (sound.isMap image) spans layout)

theorem EachMap.setLayout (each : device.EachMap Goes) (lasting : Lasting Goes)
    (sound : device.Sound) (image : Image) (selector : Selector) (layout : ImageLayout) :
    (device.setLayout image selector layout).device.EachMap Goes := by
  rw [setLayout_eq]
  split
  · exact each.setSpans lasting sound image _ layout
  · exact each

theorem EachMap.createImage (each : device.EachMap Goes) (lasting : Lasting Goes)
    (sound : device.Sound) (info : ImageInfo) (fits : info.addressing.count < UInt64.size)
    (threshold : Nat) : (device.createImage info fits threshold).2.EachMap Goes := by
  intro image member
  rw [createImage_images] at member
  rcases List.mem_append.mp member with earlier | isNew
  · rw [layoutMap_createImage_of_lt (sound.placed image earlier)]
    exact each image earlier
  · obtain rfl := List.mem_singleton.mp isNew
    rw [layoutMap_createImage]
    exact lasting.fresh info threshold fits

theorem EachMap.createAlias (each : device.EachMap Goes) (lasting : Lasting Goes)
    (sound : device.Sound) {aliased : Image} (member : aliased ∈ device.images) (info : ImageInfo)
    (fits : info.addressing.count < UInt64.size) (threshold : Nat) :
    (device.createAlias info fits threshold aliased).2.EachMap Goes := by
  unfold Device.createAlias
  split
  · next alike =>
    intro image within
    rcases List.mem_append.mp within with earlier | isNew
    · exact each image earlier
    · obtain rfl := List.mem_singleton.mp isNew
      have goes := each aliased member
      rwa [← alike] at goes
  · exact each.createImage lasting sound info fits threshold

/-- What lasts, and what no operation inside the domain of a map takes from it, holds of each map of
a reachable device. -/
theorem Reachable.eachMap (reachable : device.Reachable) (lasting : Lasting Goes)
    (write : ∀ map, IsMap map → ∀ operations : List (Operation ImageLayout),
      (∀ operation ∈ operations, operation.Within (SpanMap.limit map)) → ∀ shape, Goes shape map →
      Goes shape ((History.start map).after operations).map) : device.EachMap Goes := by
  induction reachable with
  | empty => exact nofun
  | createImage info fits threshold earlier ih =>
    exact ih.createImage lasting earlier.sound info fits threshold
  | createAlias info fits threshold earlier member ih =>
    exact ih.createAlias lasting earlier.sound member info fits threshold
  | setSpans spans layout earlier _ ih => exact ih.setSpans lasting earlier.sound _ spans layout
  | setLayout selector layout earlier _ ih =>
    exact ih.setLayout lasting earlier.sound _ selector layout
  | write operations earlier _ within ih =>
    exact ih.putMap earlier.sound _ (write _ (earlier.sound.isMap _) operations within)

end

/-! ## The length of the maps -/

/-- Each map is as long as the line of every image that writes to it. -/
def Measured (device : Device) : Prop :=
  ∀ image ∈ device.images, SpanMap.limit (device.layoutMap image) = image.addressing.count

theorem limit_paint_empty (limit threshold : Nat) (spans : List Span) (layout : ImageLayout) :
    SpanMap.limit (paint (.empty limit threshold) spans layout).map = limit :=
  (paint_revised (.empty limit threshold) spans layout).limit.trans
    (AdaptiveMap.limit_empty limit threshold)

theorem freshMap_apply (info : ImageInfo) (threshold : Nat) :
    freshMap info threshold =
      (paint (.empty info.addressing.count threshold) (Swept.full info.addressing).spans
        info.initialLayout).map :=
  congrFun (congrFun freshMap_eq info) threshold

theorem limit_freshMap (info : ImageInfo) (threshold : Nat) :
    SpanMap.limit (freshMap info threshold) = info.addressing.count := by
  rw [freshMap_apply]
  exact limit_paint_empty _ threshold _ info.initialLayout

theorem lasting_limit : Lasting fun shape map => SpanMap.limit map = shape.count where
  fresh info threshold _ := limit_freshMap info threshold
  paint _ isMap spans layout _ same := (paint_revised isMap spans layout).limit.trans same

theorem limit_after {map : AdaptiveMap ImageLayout} (isMap : IsMap map)
    (operations : List (Operation ImageLayout))
    (within : ∀ operation ∈ operations, operation.Within (SpanMap.limit map)) :
    SpanMap.limit ((History.start map).after operations).map = SpanMap.limit map := by
  obtain ⟨tiles, holds⟩ := isMap.holds
  have stands := History.start_stands holds
  obtain ⟨_, _, standing, -⟩ := History.exists_stands stands stands operations within
  exact standing.limit

theorem Reachable.measured (reachable : device.Reachable) : device.Measured :=
  reachable.eachMap lasting_limit fun _ isMap operations within _ same =>
    (limit_after isMap operations within).trans same

/-! ## Setting a layout -/

theorem setLayout_images (device : Device) (image : Image) (selector : Selector)
    (layout : ImageLayout) :
    (device.setLayout image selector layout).device.images = device.images := by
  rw [setLayout_eq]
  split
  · rfl
  · rfl

theorem layoutAt?_setSpans (sound : device.Sound) (member : image ∈ device.images)
    (spans : List Span) (layout : ImageLayout) {index : Nat}
    (bound : index < SpanMap.limit (device.layoutMap image)) :
    (device.setSpans image spans layout).device.layoutAt? image index =
      if ∃ span ∈ spans, index ∈ span then some layout else device.layoutAt? image index := by
  have revised := paint_revised (sound.isMap image) spans layout
  have mapped : (device.setSpans image spans layout).device.layoutMap image =
      (paint (device.layoutMap image) spans layout).map :=
    layoutMap_putMap (sound.placed image member) _
  rw [layoutAt?, mapped]
  exact revised.value index bound

theorem layoutOf?_eq (device : Device) {subresource : Subresource}
    (has : image.addressing.Has subresource) :
    device.layoutOf? image subresource =
      device.layoutAt? image (image.addressing.encode subresource) :=
  if_pos has.admitsSubresource

/-- Of the subresources of the image, the chosen ones are in the layout, and the others are in the
layout they were in before. -/
structure SetsOnly (before after : Device) (image : Image) (layout : ImageLayout)
    (Chosen : Subresource → Prop) : Prop where
  chosen : ∀ subresource, image.addressing.Has subresource → Chosen subresource →
    after.layoutOf? image subresource = some layout
  rest : ∀ subresource, image.addressing.Has subresource → ¬ Chosen subresource →
    after.layoutOf? image subresource = before.layoutOf? image subresource

theorem SetsOnly.congr {before after : Device} {layout : ImageLayout}
    {Chosen Named : Subresource → Prop} (sets : SetsOnly before after image layout Named)
    (same : ∀ subresource, image.addressing.Has subresource →
      (Named subresource ↔ Chosen subresource)) :
    SetsOnly before after image layout Chosen where
  chosen _ has isChosen := sets.chosen _ has ((same _ has).mpr isChosen)
  rest _ has others := sets.rest _ has (mt (same _ has).mp others)

theorem setLayout_succeeds {selector : Selector} (succeeds : (Swept.ofSelector image.addressing
    (image.addressing.normalize selector)).failure = none) (device : Device) (layout : ImageLayout) :
    (device.setLayout image selector layout).failure = none := by
  rw [setLayout_eq]
  split
  · exact succeeds
  · rfl

theorem setsOnly_setLayout (reachable : device.Reachable) (member : image ∈ device.images)
    {selector : Selector} (layout : ImageLayout)
    (encloses : image.addressing.Encloses (image.addressing.normalize selector)) :
    SetsOnly device (device.setLayout image selector layout).device image layout
      (image.addressing.normalize selector).Names := by
  have sound := reachable.sound
  have value : ∀ subresource, image.addressing.Has subresource →
      (device.setLayout image selector layout).device.layoutOf? image subresource =
        if ∃ span ∈ (Swept.ofSelector image.addressing
            (image.addressing.normalize selector)).spans,
          image.addressing.encode subresource ∈ span
        then some layout else device.layoutOf? image subresource := by
    intro subresource has
    rw [layoutOf?_eq _ has, layoutOf?_eq _ has, setLayout_eq, if_pos encloses.admits]
    exact layoutAt?_setSpans sound member _ layout
      (reachable.measured image member ▸ has.encode_lt)
  refine ⟨?_, ?_⟩
  · intro subresource has named
    have covered := (Swept.covers_iff image.addressing_fits encloses has).mpr named
    rw [value subresource has, if_pos covered]
  · intro subresource has unnamed
    have missed := mt (Swept.covers_iff image.addressing_fits encloses has).mp unnamed
    rw [value subresource has, if_neg missed]

/-! ## New images -/

theorem value?_paint_empty {limit threshold index : Nat} {spans : List Span} (layout : ImageLayout)
    (bound : index < limit) (covered : ∃ span ∈ spans, index ∈ span) :
    SpanMap.value? (paint (.empty limit threshold) spans layout).map index = some layout := by
  have revised := paint_revised (.empty limit threshold) spans layout
  rw [revised.value index ((AdaptiveMap.limit_empty limit threshold).symm ▸ bound), if_pos covered]

theorem layoutOf?_createImage (device : Device) (info : ImageInfo)
    (fits : info.addressing.count < UInt64.size) (threshold : Nat) {subresource : Subresource}
    (has : info.addressing.Has subresource) :
    (device.createImage info fits threshold).2.layoutOf?
      (device.createImage info fits threshold).1 subresource = some info.initialLayout := by
  have inside : (device.createImage info fits threshold).1.addressing.Has subresource := has
  rw [layoutOf?_eq _ inside, layoutAt?, layoutMap_createImage, freshMap_apply]
  exact value?_paint_empty info.initialLayout has.encode_lt (has.covered_by_full fits)

/-! ## One subresource -/

/-- A layout set on one subresource of the image is set on that one alone, or on the planes that it
means, whatever the device has been through before. -/
theorem setLayout_single (reachable : device.Reachable) (member : image ∈ device.images)
    {subresource : Subresource} (has : image.addressing.Has subresource) (layout : ImageLayout) :
    (device.setLayout image (.single subresource) layout).failure = none ∧
      SetsOnly device (device.setLayout image (.single subresource) layout).device image layout
        (image.addressing.Means subresource) :=
  have encloses := has.encloses_normalize_single
  have swept := Swept.ofSelector_eq image.addressing_fits encloses
  ⟨setLayout_succeeds (congrArg Swept.failure swept) device layout,
    (setsOnly_setLayout reachable member layout encloses).congr
      fun _ otherHas => has.names_normalize_single_iff otherHas⟩

/-- A plane of the second mip level, in an image of colour and three planes. -/
theorem setLayout_single_of_plane :
    let made := Device.empty.createImage ⟨⟨0x71⟩, 2, 2, .undefined, none⟩ (by decide) 16
    let earlier := (made.2.setLayout made.1 (.all .color) .general).device
    let plane : Subresource := ⟨.plane1, 1, 0⟩
    earlier.Reachable ∧ made.1 ∈ earlier.images ∧ made.1.addressing.Has plane ∧
      (earlier.setLayout made.1 (.single plane) .presentSrc).failure = none ∧
      SetsOnly earlier (earlier.setLayout made.1 (.single plane) .presentSrc).device made.1
        .presentSrc (made.1.addressing.Means plane) := by
  intro made earlier plane
  have member : made.1 ∈ made.2.images := List.mem_cons_self
  have reachable : earlier.Reachable := .setLayout _ _ (.createImage _ _ _ .empty) member
  have has : made.1.addressing.Has plane := ⟨by decide, by decide, by decide⟩
  have still : made.1 ∈ earlier.images := by
    rw [setLayout_images]
    exact member
  exact ⟨reachable, still, has, setLayout_single reachable still has .presentSrc⟩

/-- Set on colour alone, a layout is set on the plane of the image, and colour is as it was. -/
theorem color_set_as_plane :
    let made := Device.empty.createImage ⟨⟨0x11⟩, 1, 1, .undefined, none⟩ (by decide) 16
    let later := (made.2.setLayout made.1 (.single ⟨.color, 0, 0⟩) .general).device
    made.2.Reachable ∧ made.1 ∈ made.2.images ∧ made.1.addressing.Has ⟨.color, 0, 0⟩ ∧
      later.layoutOf? made.1 ⟨.color, 0, 0⟩ = some .undefined ∧
      made.2.layoutOf? made.1 ⟨.plane0, 0, 0⟩ = some .undefined ∧
      later.layoutOf? made.1 ⟨.plane0, 0, 0⟩ = some .general := by
  intro made later
  have reachable : made.2.Reachable := .createImage _ _ _ .empty
  have member : made.1 ∈ made.2.images := List.mem_cons_self
  have color : made.1.addressing.Has ⟨.color, 0, 0⟩ := ⟨by decide, by decide, by decide⟩
  have plane : made.1.addressing.Has ⟨.plane0, 0, 0⟩ := ⟨by decide, by decide, by decide⟩
  have sets := setsOnly_setLayout reachable member .general color.encloses_normalize_single
  refine ⟨reachable, member, color, ?_, layoutOf?_createImage _ _ _ _ plane, ?_⟩
  · refine (sets.rest _ color ?_).trans (layoutOf?_createImage _ _ _ _ color)
    exact mt (color.names_normalize_single_iff color).mp (by decide)
  · exact sets.chosen _ plane ((color.names_normalize_single_iff plane).mpr (by decide))

end LayoutTracking.Device

import LayoutTracking.Proofs.DeviceLayouts

/-!
# Total device-wide layouts

The map of a new image has a layout at every index, and painting takes none away, whatever spans it
is told to go over. The stored spans then follow one another along the whole line of the image.
-/

set_option autoImplicit false

namespace LayoutTracking

/-! ## Maps without a gap -/

def Tile.ofEntry {V : Type} (entry : Span × V) : Tile V := ⟨entry.1, some entry.2⟩

theorem Tile.map_ofEntry {V : Type} {tiles : List (Tile V)}
    (filled : ∀ tile ∈ tiles, tile.content ≠ none) :
    (tiles.filterMap stored?).map ofEntry = tiles := by
  induction tiles with
  | nil => rfl
  | cons tile rest ih =>
    obtain ⟨here, later⟩ := List.forall_mem_cons.mp filled
    obtain ⟨span, content⟩ := tile
    cases content with
    | none => exact absurd rfl here
    | some value => simp [ofEntry, ih later]

namespace SpanMap

variable {M V : Type} [SpanMap M V] [LawfulSpanMap M V] {map : M}

def Total (map : M) : Prop := ∀ index < limit map, ∃ value, value? map index = some value

/-- The stored spans of a total map tile its domain on their own. -/
theorem Total.tiling (total : Total map) {tiles : List (Tile V)}
    (holds : LawfulSpanMap.Holds map tiles) :
    Tiling 0 ((entries map).map Tile.ofEntry) (limit map) := by
  have tiling := LawfulSpanMap.tiling holds
  have filled : ∀ tile ∈ tiles, tile.content ≠ none := by
    intro tile member isGap
    obtain ⟨-, inhabited, bound⟩ := tiling.bounds member
    obtain ⟨value, stored⟩ := total tile.span.start (Nat.lt_of_lt_of_le inhabited bound)
    rw [value?, get?_of_mem holds member ⟨Nat.le_refl _, inhabited⟩, Tile.stored?, isGap] at stored
    cases stored
  rw [entries_eq holds, Tile.map_ofEntry filled]
  exact tiling

/-- A change that leaves a value wherever there was one leaves a total map total. -/
theorem Total.revised {after : M} (total : Total map) {Good : V → Prop}
    {change : Nat → Option V → Option V} (revised : Revised map after Good change)
    (keeps : ∀ index value, ∃ later, change index (some value) = some later) : Total after := by
  intro index bound
  have inDomain : index < limit map := revised.limit ▸ bound
  obtain ⟨value, stored⟩ := total index inDomain
  obtain ⟨later, changed⟩ := keeps index value
  exact ⟨later, (revised.value index inDomain).trans (stored ▸ changed)⟩

end SpanMap

namespace Device

variable {device : Device} {image : Image}

theorem total_paint {map : AdaptiveMap ImageLayout} (isMap : IsMap map)
    (total : SpanMap.Total map) (spans : List Span) (layout : ImageLayout) :
    SpanMap.Total (paint map spans layout).map := by
  refine total.revised (paint_revised isMap spans layout) fun index value => ?_
  by_cases covered : ∃ span ∈ spans, index ∈ span
  · exact ⟨layout, if_pos covered⟩
  · exact ⟨value, if_neg covered⟩

/-- Every index of a new image is that of a subresource, and the full sweep reaches it. -/
theorem total_freshMap (info : ImageInfo) (threshold : Nat)
    (fits : info.addressing.count < UInt64.size) : SpanMap.Total (freshMap info threshold) := by
  intro index bound
  rw [limit_freshMap] at bound
  obtain ⟨subresource, -, has, rfl⟩ := Addressing.exists_decode? bound
  rw [freshMap_apply]
  exact ⟨info.initialLayout, value?_paint_empty info.initialLayout bound
    (has.covered_by_full fits)⟩

theorem lasting_total : Lasting fun _ map => SpanMap.Total map where
  fresh := total_freshMap
  paint _ isMap spans layout _ total := total_paint isMap total spans layout

/-! ## Devices that are only painted -/

/-- The devices that come from making images and from painting. The spans need not be those of a
sweep of the image. -/
inductive Painted : Device → Prop where
  | empty : Painted .empty
  | createImage {device : Device} (info : ImageInfo) (fits : info.addressing.count < UInt64.size)
      (threshold : Nat) : Painted device → Painted (device.createImage info fits threshold).2
  | createAlias {device : Device} {aliased : Image} (info : ImageInfo)
      (fits : info.addressing.count < UInt64.size) (threshold : Nat) :
      Painted device → aliased ∈ device.images →
      Painted (device.createAlias info fits threshold aliased).2
  | setSpans {device : Device} {image : Image} (spans : List Span) (layout : ImageLayout) :
      Painted device → image ∈ device.images → Painted (device.setSpans image spans layout).device
  | setLayout {device : Device} {image : Image} (selector : Selector) (layout : ImageLayout) :
      Painted device → image ∈ device.images →
      Painted (device.setLayout image selector layout).device

theorem Painted.reachable (painted : device.Painted) : device.Reachable := by
  induction painted with
  | empty => exact .empty
  | createImage info fits threshold _ ih => exact .createImage info fits threshold ih
  | createAlias info fits threshold _ member ih => exact .createAlias info fits threshold ih member
  | setSpans spans layout _ member ih => exact .setSpans spans layout ih member
  | setLayout selector layout _ member ih => exact .setLayout selector layout ih member

theorem Painted.eachMap (painted : device.Painted)
    {Goes : Addressing → AdaptiveMap ImageLayout → Prop} (lasting : Lasting Goes) :
    device.EachMap Goes := by
  induction painted with
  | empty => exact nofun
  | createImage info fits threshold earlier ih =>
    exact ih.createImage lasting earlier.reachable.sound info fits threshold
  | createAlias info fits threshold earlier member ih =>
    exact ih.createAlias lasting earlier.reachable.sound member info fits threshold
  | setSpans spans layout earlier _ ih =>
    exact ih.setSpans lasting earlier.reachable.sound _ spans layout
  | setLayout selector layout earlier _ ih =>
    exact ih.setLayout lasting earlier.reachable.sound _ selector layout

/-- The map of the image has the length of its line, which the stored spans fill without hole or
overlap, and there is a layout exactly at the indices of the line. -/
structure LaidOut (device : Device) (image : Image) : Prop where
  limit : SpanMap.limit (device.layoutMap image) = image.addressing.count
  tiling : Tiling 0 ((SpanMap.entries (device.layoutMap image)).map Tile.ofEntry)
    image.addressing.count
  layout : ∀ index, (∃ layout, device.layoutAt? image index = some layout) ↔
    index < image.addressing.count

/-- However images are made and painted, each is laid out at all times. -/
theorem Painted.laidOut (painted : device.Painted) (member : image ∈ device.images) :
    device.LaidOut image := by
  have reachable := painted.reachable
  have limit := reachable.measured image member
  have total := painted.eachMap lasting_total image member
  obtain ⟨tiles, holds⟩ := (reachable.sound.isMap image).holds
  refine ⟨limit, limit ▸ total.tiling holds, fun index => ?_⟩
  rw [← limit]
  constructor
  · rintro ⟨layout, stored⟩
    exact SpanMap.lt_limit_of_value? holds stored
  · exact total index

/-- Depth and stencil, with bits in the mask that count for nothing. An alias of the image is
painted over a span given backwards, and over the sweep of a larger image. -/
theorem Painted.laidOut_after_foreign_sweep :
    let info : ImageInfo := ⟨⟨0x306⟩, 2, 3, .undefined, none⟩
    let first := Device.empty.createImage info (by decide) 16
    let second := first.2.createAlias info (by decide) 16 first.1
    let larger : Addressing := ⟨.color, 5, 4⟩
    let spans := ⟨9, 4⟩ :: (Swept.ofSelector larger ⟨.color, 1, 4, 0, 4⟩).spans
    let later := (second.2.setSpans second.1 spans .general).device
    later.Painted ∧ first.1 ∈ later.images ∧ later.LaidOut first.1 := by
  intro info first second larger spans later
  have made : first.1 ∈ first.2.images := List.mem_cons_self
  have still : first.1 ∈ later.images := List.mem_cons_self
  have aliasMade : second.1 ∈ second.2.images := List.mem_cons_of_mem _ List.mem_cons_self
  have painted : later.Painted :=
    .setSpans spans .general
      (.createAlias info _ 16 (.createImage info _ 16 .empty) made) aliasMade
  exact ⟨painted, still, painted.laidOut still⟩

end Device

end LayoutTracking

import LayoutTracking.Layout.Device
import LayoutTracking.Proofs.BackendEquivalence
import LayoutTracking.Proofs.Pointwise

/-!
# Reachable devices

Each image of a device has a map in it, and every map there stands for a tiling, whoever writes to
it and by whatever way.
-/

set_option autoImplicit false

namespace LayoutTracking.Device

/-! ## Device-wide maps -/

/-- The maps that writing builds up: by layouts stored over spans, and by operations of whoever holds
the map, inside its domain. -/
inductive IsMap : AdaptiveMap ImageLayout → Prop where
  | empty (limit threshold : Nat) : IsMap (.empty limit threshold)
  | paint {map : AdaptiveMap ImageLayout} (spans : List Span) (layout : ImageLayout) :
      IsMap map → IsMap (paint map spans layout).map
  | write {map : AdaptiveMap ImageLayout} (operations : List (Operation ImageLayout)) :
      IsMap map → (∀ operation ∈ operations, operation.Within (SpanMap.limit map)) →
      IsMap ((History.start map).after operations).map

theorem IsMap.holds {map : AdaptiveMap ImageLayout} (isMap : IsMap map) :
    ∃ tiles, LawfulSpanMap.Holds map tiles := by
  induction isMap with
  | empty limit threshold => exact ⟨_, AdaptiveMap.holds_empty limit threshold⟩
  | paint spans layout _ ih =>
    obtain ⟨tiles, holds⟩ := ih
    exact ⟨_, ((Updater.prefer layout).runAll_becomes holds spans ()).holds⟩
  | write operations _ within ih =>
    obtain ⟨tiles, holds⟩ := ih
    have stands := History.start_stands holds
    obtain ⟨later, _, standing, -⟩ := History.exists_stands stands stands operations within
    exact ⟨later, standing.holds⟩

/-! ## Images and their maps -/

/-- The devices that operations build up. Whoever holds the map of an image may do with it whatever
keeps to its domain. -/
inductive Reachable : Device → Prop where
  | empty : Reachable .empty
  | createImage {device : Device} (info : ImageInfo) (fits : info.addressing.count < UInt64.size)
      (threshold : Nat) : Reachable device → Reachable (device.createImage info fits threshold).2
  | createAlias {device : Device} {aliased : Image} (info : ImageInfo)
      (fits : info.addressing.count < UInt64.size) (threshold : Nat) :
      Reachable device → aliased ∈ device.images →
      Reachable (device.createAlias info fits threshold aliased).2
  | setSpans {device : Device} {image : Image} (spans : List Span) (layout : ImageLayout) :
      Reachable device → image ∈ device.images →
      Reachable (device.setSpans image spans layout).device
  | setLayout {device : Device} {image : Image} (selector : Selector) (layout : ImageLayout) :
      Reachable device → image ∈ device.images →
      Reachable (device.setLayout image selector layout).device
  | write {device : Device} {image : Image} (operations : List (Operation ImageLayout)) :
      Reachable device → image ∈ device.images →
      (∀ operation ∈ operations, operation.Within (SpanMap.limit (device.layoutMap image))) →
      Reachable
        (device.putMap image ((History.start (device.layoutMap image)).after operations).map)

structure Sound (device : Device) : Prop where
  maps : ∀ map ∈ device.maps, IsMap map
  placed : ∀ image ∈ device.images, image.layoutMap < device.maps.length

variable {device : Device} {image : Image}

theorem Sound.isMap (sound : device.Sound) (image : Image) : IsMap (device.layoutMap image) := by
  rw [layoutMap, List.getD_eq_getElem?_getD]
  cases found : device.maps[image.layoutMap]? with
  | none => exact .empty 0 0
  | some map => exact sound.maps map (List.mem_of_getElem? found)

theorem layoutMap_putMap (placed : image.layoutMap < device.maps.length)
    (map : AdaptiveMap ImageLayout) : (device.putMap image map).layoutMap image = map := by
  rw [layoutMap, putMap, List.getD_eq_getElem?_getD, List.getElem?_set_self placed]
  rfl

theorem putMap_layoutMap (placed : image.layoutMap < device.maps.length) :
    device.putMap image (device.layoutMap image) = device := by
  rw [putMap, layoutMap, List.getD_eq_getElem?_getD, List.getElem?_eq_getElem placed,
    Option.getD_some, List.set_getElem_self]

theorem Sound.putMap (sound : device.Sound) (image : Image) {map : AdaptiveMap ImageLayout}
    (isMap : IsMap map) : (device.putMap image map).Sound := by
  refine ⟨?_, ?_⟩
  · intro other member
    rcases List.mem_or_eq_of_mem_set member with earlier | rfl
    · exact sound.maps other earlier
    · exact isMap
  · intro other member
    exact Nat.lt_of_lt_of_eq (sound.placed other member) List.length_set.symm

theorem Sound.setSpans (sound : device.Sound) (image : Image) (spans : List Span)
    (layout : ImageLayout) : (device.setSpans image spans layout).device.Sound :=
  sound.putMap image (.paint spans layout (sound.isMap image))

theorem setLayout_eq (device : Device) (image : Image) (selector : Selector)
    (layout : ImageLayout) :
    device.setLayout image selector layout =
      if image.addressing.admits (image.addressing.normalize selector) = true then
        device.setSwept image
          (.ofSelector image.addressing (image.addressing.normalize selector)) layout
      else ⟨device, false,
        [.outOfRange .layoutUpdate image.id (image.addressing.normalize selector)], none⟩ := rfl

theorem Sound.setLayout (sound : device.Sound) (image : Image) (selector : Selector)
    (layout : ImageLayout) : (device.setLayout image selector layout).device.Sound := by
  rw [setLayout_eq]
  split
  · exact sound.setSpans image _ layout
  · exact sound

theorem freshMap_eq : freshMap = fun info threshold =>
    (paint (.empty info.addressing.count threshold) (Swept.full info.addressing).spans
      info.initialLayout).map := rfl

theorem isMap_freshMap (info : ImageInfo) (threshold : Nat) : IsMap (freshMap info threshold) := by
  rw [freshMap_eq]
  exact .paint (Swept.full info.addressing).spans info.initialLayout
    (.empty info.addressing.count threshold)

section Creating

variable (device : Device) (info : ImageInfo) (fits : info.addressing.count < UInt64.size)
  (threshold : Nat)

theorem createImage_maps :
    (device.createImage info fits threshold).2.maps =
      device.maps ++ [freshMap info threshold] := rfl

theorem createImage_images :
    (device.createImage info fits threshold).2.images =
      device.images ++ [(device.createImage info fits threshold).1] := rfl

theorem createImage_layoutMap :
    (device.createImage info fits threshold).1.layoutMap = device.maps.length := rfl

end Creating

theorem Sound.createImage (sound : device.Sound) (info : ImageInfo)
    (fits : info.addressing.count < UInt64.size) (threshold : Nat) :
    (device.createImage info fits threshold).2.Sound := by
  refine ⟨?_, ?_⟩
  · intro map member
    rw [createImage_maps] at member
    rcases List.mem_append.mp member with earlier | isNew
    · exact sound.maps map earlier
    · exact List.mem_singleton.mp isNew ▸ isMap_freshMap info threshold
  · intro image member
    rw [createImage_images] at member
    rw [createImage_maps, List.length_append, List.length_singleton]
    rcases List.mem_append.mp member with earlier | isNew
    · exact Nat.lt_succ_of_lt (sound.placed image earlier)
    · rw [List.mem_singleton.mp isNew, createImage_layoutMap]
      exact Nat.lt_succ_self device.maps.length

theorem Sound.createAlias (sound : device.Sound) {aliased : Image} (member : aliased ∈ device.images)
    (info : ImageInfo) (fits : info.addressing.count < UInt64.size) (threshold : Nat) :
    (device.createAlias info fits threshold aliased).2.Sound := by
  unfold Device.createAlias
  split
  · refine ⟨sound.maps, ?_⟩
    intro image within
    rcases List.mem_append.mp within with earlier | isNew
    · exact sound.placed image earlier
    · obtain rfl := List.mem_singleton.mp isNew
      exact sound.placed aliased member
  · exact sound.createImage info fits threshold

theorem Reachable.sound (reachable : device.Reachable) : device.Sound := by
  induction reachable with
  | empty => exact ⟨nofun, nofun⟩
  | createImage info fits threshold _ ih => exact ih.createImage info fits threshold
  | createAlias info fits threshold _ member ih => exact ih.createAlias member info fits threshold
  | setSpans spans layout _ _ ih => exact ih.setSpans _ spans layout
  | setLayout selector layout _ _ ih => exact ih.setLayout _ selector layout
  | write operations _ _ within ih => exact ih.putMap _ (.write operations (ih.isMap _) within)

end LayoutTracking.Device

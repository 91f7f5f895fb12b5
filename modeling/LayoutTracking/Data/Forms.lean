import LayoutTracking.Data.Basic
import LayoutTracking.Layout.Image
import LayoutTracking.Settings.Basic
import LayoutTracking.Subresource.AspectText

/-!
# Data forms

How the library's values are written as self-describing data and read from it. Records of the
settings may lack fields, which are standard then, and so may lists in their place; all other
records and lists have to be complete, except that an image may have no name.
-/

set_option autoImplicit false

namespace LayoutTracking

/-! ## Subresources -/

namespace Aspects

def toData (aspects : Aspects) : Data := .text aspects.text

def ofData? (data : Data) : Option Aspects := data.text?.bind ofText?

end Aspects

namespace Subresource

def fieldNames : List String := ["aspect", "mip_level", "array_layer"]

def toData (subresource : Subresource) : Data :=
  .record
    [("aspect", subresource.aspect.toData), ("mip_level", .ofWord subresource.mipLevel),
     ("array_layer", .ofWord subresource.arrayLayer)]

def ofData? (data : Data) : Option Subresource := do
  match ← data.fields? fieldNames 3 with
  | [aspect, mipLevel, arrayLayer] =>
    return {
      aspect := ← Data.required? Aspects.ofData? aspect
      mipLevel := ← Data.required? Data.word32? mipLevel
      arrayLayer := ← Data.required? Data.word32? arrayLayer }
  | _ => none

end Subresource

namespace Selector

def fieldNames : List String :=
  ["aspects", "base_mip_level", "level_count", "base_array_layer", "layer_count"]

def toData (selector : Selector) : Data :=
  .record
    [("aspects", selector.aspects.toData),
     ("base_mip_level", .ofWord selector.baseMipLevel),
     ("level_count", .ofWord selector.levelCount),
     ("base_array_layer", .ofWord selector.baseArrayLayer),
     ("layer_count", .ofWord selector.layerCount)]

def ofData? (data : Data) : Option Selector := do
  match ← data.fields? fieldNames 5 with
  | [aspects, baseMipLevel, levelCount, baseArrayLayer, layerCount] =>
    return {
      aspects := ← Data.required? Aspects.ofData? aspects
      baseMipLevel := ← Data.required? Data.word32? baseMipLevel
      levelCount := ← Data.required? Data.word32? levelCount
      baseArrayLayer := ← Data.required? Data.word32? baseArrayLayer
      layerCount := ← Data.required? Data.word32? layerCount }
  | _ => none

end Selector

/-! ## Images -/

namespace ImageLayout

def toData (layout : ImageLayout) : Data := .text layout.name

def ofData? (data : Data) : Option ImageLayout := data.alternative?.bind ofName?

end ImageLayout

namespace ImageInfo

def fieldNames : List String :=
  ["aspects", "mip_levels", "array_layers", "initial_layout", "debug_name"]

def toData (info : ImageInfo) : Data :=
  .record
    [("aspects", info.aspects.toData), ("mip_levels", .ofWord info.mipLevels),
     ("array_layers", .ofWord info.arrayLayers), ("initial_layout", info.initialLayout.toData),
     ("debug_name", .ofOption .text info.debugName)]

def ofData? (data : Data) : Option ImageInfo := do
  match ← data.fields? fieldNames 5 with
  | [aspects, mipLevels, arrayLayers, initialLayout, debugName] =>
    return {
      aspects := ← Data.required? Aspects.ofData? aspects
      mipLevels := ← Data.required? Data.word32? mipLevels
      arrayLayers := ← Data.required? Data.word32? arrayLayers
      initialLayout := ← Data.required? ImageLayout.ofData? initialLayout
      debugName := (← Data.given? (Data.optional? Data.text?) debugName).join }
  | _ => none

end ImageInfo

/-! ## Settings -/

namespace Level

def toData (level : Level) : Data := .text level.name

def ofData? (data : Data) : Option Level := do
  ofName? (← data.alternative?).toList

end Level

namespace FilePath

def ofData? (data : Data) : Option FilePath := data.text?.map ofText

/-- A path is written as a text, so one that is none cannot be written. -/
def toData? (path : FilePath) : Option Data := path.text?.map .text

end FilePath

namespace LogSettings

def fieldNames : List String := ["level", "console", "directory"]

def toData? (settings : LogSettings) : Option Data := do
  let directory ← settings.directory.mapM FilePath.toData?
  return .record
    [("level", settings.level.toData), ("console", .bool settings.console),
     ("directory", .ofOption id directory)]

def ofData? (data : Data) : Option LogSettings := do
  match ← data.fields? fieldNames 0 with
  | [level, console, directory] =>
    let given : PartialLog := {
      level := ← Data.given? Level.ofData? level
      console := ← Data.given? Data.bool? console
      directory := ← Data.given? (Data.optional? FilePath.ofData?) directory }
    return given.complete
  | _ => none

end LogSettings

namespace TrackerSettings

def fieldNames : List String := ["small_map_threshold"]

def toData (settings : TrackerSettings) : Data :=
  .record [("small_map_threshold", .integer settings.smallMapThreshold.toNat)]

def ofData? (data : Data) : Option TrackerSettings := do
  match ← data.fields? fieldNames 0 with
  | [threshold] =>
    let given : PartialTracker := { smallMapThreshold := ← Data.given? Data.word64? threshold }
    return given.complete
  | _ => none

end TrackerSettings

namespace Settings

def fieldNames : List String := ["log", "layouts"]

def toData? (settings : Settings) : Option Data := do
  return .record [("log", ← settings.log.toData?), ("layouts", settings.layouts.toData)]

def ofData? (data : Data) : Option Settings := do
  match ← data.fields? fieldNames 0 with
  | [log, layouts] =>
    return {
      log := (← Data.given? LogSettings.ofData? log).getD .standard
      layouts := (← Data.given? TrackerSettings.ofData? layouts).getD .standard }
  | _ => none

end Settings

end LayoutTracking

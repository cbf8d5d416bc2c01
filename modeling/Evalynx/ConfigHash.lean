import Evalynx.JsonOrder
import Evalynx.JsonRoundTrip

namespace Evalynx

def normalizeConfig (value : Json) : Json := value.sortKeys

/-- The bytes `_compute_config_hash` hashes; `sort_keys=True` orders the members once more. -/
def configPayload (value : Json) : ByteArray :=
  (Json.dumps Json.compact value.sortKeys).toUTF8

def computeConfigHash (sha256 : ByteArray → String) (value : Json) : String :=
  sha256 (configPayload value)

theorem configPayload_normalizeConfig (value : Json) (distinct : value.distinctKeys = true) :
    configPayload (normalizeConfig value) = configPayload value := by
  rw [configPayload, normalizeConfig, Json.sortKeys_sortKeys value distinct, configPayload]

theorem configPayload_injective (first second : Json) (firstDistinct : first.distinctKeys = true)
    (secondDistinct : second.distinctKeys = true)
    (same : configPayload first = configPayload second) : first.sortKeys = second.sortKeys := by
  have text : Json.dumps Json.compact first.sortKeys = Json.dumps Json.compact second.sortKeys :=
    String.toByteArray_inj.mp same
  exact Json.dumps_injective Json.compact Json.compact_blank
    ((Json.distinctKeys_sortKeys first).mpr firstDistinct)
    ((Json.distinctKeys_sortKeys second).mpr secondDistinct) text

/-- The hashed bytes identify a config up to the order of object members. -/
theorem config_payload_identifies (first second : Json) (firstDistinct : first.distinctKeys = true)
    (secondDistinct : second.distinctKeys = true) :
    configPayload (normalizeConfig first) = configPayload (normalizeConfig second) ↔
      Json.Reorders first second := by
  rw [configPayload_normalizeConfig first firstDistinct,
    configPayload_normalizeConfig second secondDistinct]
  constructor
  · intro same
    have sorted := configPayload_injective first second firstDistinct secondDistinct same
    exact (Json.sortKeys_eq_iff first second firstDistinct).mp sorted
  · intro reordered
    rw [configPayload, configPayload, Json.sortKeys_eq_of_reorders reordered firstDistinct]

theorem config_payload_identifies_reordered :
    configPayload (normalizeConfig (.obj [("stop", .int 4), ("rows", .arr [.bool true, .null])])) =
        configPayload (normalizeConfig
          (.obj [("rows", .arr [.bool true, .null]), ("stop", .int 4)])) ↔
      Json.Reorders (.obj [("stop", .int 4), ("rows", .arr [.bool true, .null])])
        (.obj [("rows", .arr [.bool true, .null]), ("stop", .int 4)]) :=
  config_payload_identifies _ _ (by decide) (by decide)

end Evalynx

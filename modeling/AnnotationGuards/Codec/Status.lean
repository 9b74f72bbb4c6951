import AnnotationGuards.Chain.State
import AnnotationGuards.Codec.Basic

/-! # Reports on slots as data

The report on a slot is written as a choice named for the state of the slot.
-/

namespace AnnotationGuards.Encode

/-- The report on a slot as data. -/
def slotStatus : SlotStatus → Json
  | .passThrough => .str "PassThrough"
  | .guarded links => alternative "Guarded" (.record [("links", .int links)])
  | .disabled reason => alternative "Disabled" (.record [("reason", .str reason)])

end AnnotationGuards.Encode

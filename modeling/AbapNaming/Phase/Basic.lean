import AbapNaming.Run

/-! # Phases

A phase is a named step on the state of a run. Phases run in a fixed order, since the order
decides which names come first to the buckets and the type codes.
-/

namespace AbapNaming

structure Phase where
  name : String
  description : String
  run : Step Run

end AbapNaming

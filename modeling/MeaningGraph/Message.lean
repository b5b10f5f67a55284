/-
Messages: what an analysis reports to the world, and the descriptors that tell which parts of a
machine go into one.
-/
import MeaningGraph.Table

namespace MeaningGraph

/-- A payload for an endpoint: texts by field name. -/
structure Message where
  endpoint : String
  fields : Table String
deriving DecidableEq, Repr

/-- A required argument of a plugin, read from one partition of the machine that calls it. -/
structure PluginSlot where
  name : String
  partition : Nat
deriving DecidableEq, Repr

/-- The plugin to call and the arguments it needs. -/
structure PluginCall where
  endpoint : String
  slots : List PluginSlot := []
deriving DecidableEq, Repr

end MeaningGraph

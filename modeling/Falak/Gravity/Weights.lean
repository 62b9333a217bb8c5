import Mathlib.Algebra.Order.Ring.Unbundled.Rat

/-! The weights of the gravity factors, and how an override is merged into them. -/

namespace Falak.Gravity

structure Weights where
  cpuHeadroom : Rat
  memoryHeadroom : Rat
  diskHeadroom : Rat
  softPlacementMatch : Rat
  affinityProximity : Rat
  hardwareLabelMatch : Rat
  loadPenalty : Rat
  reliability : Rat
  diversity : Rat
  snapshotLocality : Rat

def defaultWeights : Weights :=
  { cpuHeadroom := 1
    memoryHeadroom := 1
    diskHeadroom := 1 / 2
    softPlacementMatch := 3 / 10
    affinityProximity := 4 / 5
    hardwareLabelMatch := 1 / 5
    loadPenalty := 1 / 2
    reliability := 2 / 5
    diversity := 1 / 5
    snapshotLocality := 3 / 5 }

def mergeWeight (base override : Rat) : Rat := if override ≠ 0 then override else base

def Weights.merge (w override : Weights) : Weights :=
  { cpuHeadroom := mergeWeight w.cpuHeadroom override.cpuHeadroom
    memoryHeadroom := mergeWeight w.memoryHeadroom override.memoryHeadroom
    diskHeadroom := mergeWeight w.diskHeadroom override.diskHeadroom
    softPlacementMatch := mergeWeight w.softPlacementMatch override.softPlacementMatch
    affinityProximity := mergeWeight w.affinityProximity override.affinityProximity
    hardwareLabelMatch := mergeWeight w.hardwareLabelMatch override.hardwareLabelMatch
    loadPenalty := mergeWeight w.loadPenalty override.loadPenalty
    reliability := mergeWeight w.reliability override.reliability
    diversity := mergeWeight w.diversity override.diversity
    snapshotLocality := mergeWeight w.snapshotLocality override.snapshotLocality }

end Falak.Gravity

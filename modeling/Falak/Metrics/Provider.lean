import Falak.Gravity.Calculator
import Falak.Metrics.Snapshot
import Falak.Node.Reannouncement
import Falak.Phonebook.Statements
import Mathlib.Data.Rat.Floor

/-! The state of the local node as the gravity calculator is given it. -/

namespace Falak.Metrics

open Gravity (FullNodeState)
open Phonebook (Book Capabilities Row)

abbrev CapsuleCounts := String → String → Int

def noCapsuleCounts : CapsuleCounts := fun _ _ => 0

structure Provider where
  localNodeID : String
  capsuleCounts : CapsuleCounts

def newProvider (localNodeID : String) (opts : List (Provider → Provider)) : Provider :=
  opts.foldl (fun p opt => opt p) ⟨localNodeID, noCapsuleCounts⟩

def withCapsuleCounts (counts : CapsuleCounts) (p : Provider) : Provider :=
  { p with capsuleCounts := counts }

def electionProvider (localNodeID : String) : Provider := newProvider localNodeID []

def computeFreeCPU (cores : Int) (usedPercent : Rat) : Int :=
  if cores ≤ 0 then 0
  else if usedPercent ≤ 0 then cores
  else if usedPercent ≥ 100 then 0
  else ⌊(cores : Rat) * (1 - usedPercent / 100)⌋

def labelsFromEntry (entry : Row) : Capsule.Labels :=
  match entry.capabilities with
  | none => ∅
  | some caps => caps.metadata.foldl (fun labels (k, v) => labels.insert k v) ∅

def translateStatus : Phonebook.NodeStatus → Gravity.NodeStatus
  | .active => .active
  | .suspected => .suspected
  | .quarantined => .quarantined
  | .failed => .failed
  | .unset => .active

structure Resources where
  cpuCoresTotal : Int := 0
  cpuCoresFree : Int := 0
  memoryMBTotal : Int := 0
  memoryMBFree : Int := 0
  diskMBTotal : Int := 0
  diskMBFree : Int := 0

def resources (entry : Row) (snap : Snapshot) : Resources :=
  if snap.capturedAt ≠ zeroTime then
    { cpuCoresTotal := snap.cpu.cores
      cpuCoresFree := computeFreeCPU snap.cpu.cores snap.cpu.usedPercent
      memoryMBTotal := snap.memory.totalMB
      memoryMBFree := snap.memory.availableMB
      diskMBTotal := snap.disk.totalMB
      diskMBFree := snap.disk.freeMB }
  else
    match entry.capabilities with
    | none => {}
    | some caps =>
      { cpuCoresTotal := caps.cpuCores
        cpuCoresFree := caps.cpuCores
        memoryMBTotal := caps.memoryMB
        memoryMBFree := caps.memoryMB
        diskMBTotal := int64 (caps.diskGB * 1024)
        diskMBFree := int64 (caps.diskGB * 1024) }

def buildState (nodeID clusterPath : String) (entry : Row) (snap : Snapshot) : FullNodeState :=
  let r := resources entry snap
  { nodeID := nodeID
    clusterPath := clusterPath
    datacenter := entry.datacenter
    region := entry.region
    labels := labelsFromEntry entry
    status := translateStatus entry.status
    reliabilityScore := entry.tracking.successRate
    cpuCoresTotal := r.cpuCoresTotal
    cpuCoresFree := r.cpuCoresFree
    memoryMBTotal := r.memoryMBTotal
    memoryMBFree := r.memoryMBFree
    diskMBTotal := r.diskMBTotal
    diskMBFree := r.diskMBFree
    runningCapsuleCount := 0 }

def Provider.localNode (p : Provider) (book : Book) (fault : Option String)
    (latest : Except String Snapshot) (clusterPath : String) : Except String FullNodeState :=
  match book.read fault p.localNodeID clusterPath with
  | none =>
    .error ("metrics provider: local node " ++ p.localNodeID ++ " not in phonebook for cluster "
      ++ clusterPath)
  | some entry =>
    match latest with
    | .error err => .error ("metrics provider: local snapshot: " ++ err)
    | .ok snap =>
      .ok { buildState p.localNodeID clusterPath entry snap with
        runningCapsuleCount := p.capsuleCounts clusterPath p.localNodeID }

def capsulesOn (m : Capsule.Manager) (clusterPath nodeID : String) : Nat :=
  m.list.countP fun c => c.clusterID = clusterPath ∧ ∃ r ∈ c.replicas, r.nodeID = nodeID

structure Plausible (snap : Snapshot) : Prop where
  memory : snap.memory.availableMB ≤ snap.memory.totalMB
  disk : snap.disk.freeMB ≤ snap.disk.totalMB
  used : 0 ≤ snap.cpu.usedPercent
  full : snap.cpu.usedPercent ≤ 100

structure Mirrors (entry : Row) (snap : Snapshot) (running : Nat) (state : FullNodeState) :
    Prop where
  cpu : state.cpuCoresFree ≤ state.cpuCoresTotal
  memory : state.memoryMBFree ≤ state.memoryMBTotal
  disk : state.diskMBFree ≤ state.diskMBTotal
  /-- What is free is not overestimated, once there are metrics. -/
  unused : snap.capturedAt ≠ zeroTime →
    (state.cpuCoresFree : Rat) ≤ snap.cpu.cores * (100 - snap.cpu.usedPercent) / 100
  reliability : state.reliabilityScore =
    if 0 < entry.tracking.connectionAttempts then entry.tracking.successRate else 1
  count : state.runningCapsuleCount = running

theorem computeFreeCPU_le {cores : Int} (nonneg : 0 ≤ cores) {used : Rat} (low : 0 ≤ used)
    (high : used ≤ 100) :
    computeFreeCPU cores used ≤ cores ∧
      (computeFreeCPU cores used : Rat) ≤ cores * (100 - used) / 100 := by
  unfold computeFreeCPU
  have positive : (0 : Rat) ≤ cores := by exact_mod_cast nonneg
  split_ifs with none idle busy
  · exact ⟨nonneg, by push_cast; exact div_nonneg (mul_nonneg positive (by linarith)) (by norm_num)⟩
  · -- Nothing is used, so everything is free.
    have zero : used = 0 := le_antisymm idle low
    exact ⟨le_refl _, by rw [zero]; linarith⟩
  · have all : used = 100 := le_antisymm high busy
    exact ⟨nonneg, by rw [all]; simp⟩
  · have share : (cores : Rat) * (1 - used / 100) = cores * (100 - used) / 100 := by ring
    have floor := Int.floor_le ((cores : Rat) * (1 - used / 100))
    have whole : (cores : Rat) * (1 - used / 100) ≤ cores :=
      mul_le_of_le_one_right positive (by linarith)
    exact ⟨by exact_mod_cast floor.trans whole, floor.trans_eq share⟩

theorem cores_iff {snap : Snapshot} (credible : Plausible snap) :
    computeFreeCPU snap.cpu.cores snap.cpu.usedPercent ≤ snap.cpu.cores ∧
      (computeFreeCPU snap.cpu.cores snap.cpu.usedPercent : Rat) ≤
        snap.cpu.cores * (100 - snap.cpu.usedPercent) / 100 ↔ 0 ≤ snap.cpu.cores := by
  constructor
  · rintro ⟨below, -⟩
    -- Of a negative number of cores, none are free.
    by_contra negative
    rw [computeFreeCPU, if_pos (by omega)] at below
    omega
  · exact fun nonneg => computeFreeCPU_le nonneg credible.used credible.full

theorem mirrors_buildState_iff (nodeID clusterPath : String) (entry : Row) {snap : Snapshot}
    (credible : Plausible snap) (running : Nat) (count : Int) :
    Mirrors entry snap running
        { buildState nodeID clusterPath entry snap with runningCapsuleCount := count } ↔
      (snap.capturedAt ≠ zeroTime → 0 ≤ snap.cpu.cores) ∧
        (0 < entry.tracking.connectionAttempts ∨ entry.tracking.successRate = 1) ∧
        count = running := by
  have rate : entry.tracking.successRate =
      (if 0 < entry.tracking.connectionAttempts then entry.tracking.successRate else 1) ↔
        0 < entry.tracking.connectionAttempts ∨ entry.tracking.successRate = 1 := by
    by_cases attempts : 0 < entry.tracking.connectionAttempts <;> simp [attempts]
  by_cases captured : snap.capturedAt ≠ zeroTime
  · have measured : resources entry snap =
        ⟨snap.cpu.cores, computeFreeCPU snap.cpu.cores snap.cpu.usedPercent, snap.memory.totalMB,
          snap.memory.availableMB, snap.disk.totalMB, snap.disk.freeMB⟩ := if_pos captured
    -- The metrics decide about the resources.
    constructor
    · intro mirrors
      have cpu := mirrors.cpu
      have unused := mirrors.unused captured
      simp only [buildState, measured] at cpu unused
      exact ⟨fun _ => (cores_iff credible).mp ⟨cpu, unused⟩, rate.mp mirrors.reliability,
        mirrors.count⟩
    · rintro ⟨cores, known, counted⟩
      obtain ⟨cpu, unused⟩ := (cores_iff credible).mpr (cores captured)
      constructor
      · simpa only [buildState, measured] using cpu
      · simpa only [buildState, measured] using credible.memory
      · simpa only [buildState, measured] using credible.disk
      · intro _
        simpa only [buildState, measured] using unused
      · exact rate.mpr known
      · exact counted
  · have even : (resources entry snap).cpuCoresFree = (resources entry snap).cpuCoresTotal ∧
        (resources entry snap).memoryMBFree = (resources entry snap).memoryMBTotal ∧
        (resources entry snap).diskMBFree = (resources entry snap).diskMBTotal := by
      rw [resources, if_neg captured]
      cases entry.capabilities <;> exact ⟨rfl, rfl, rfl⟩
    constructor
    · exact fun mirrors => ⟨fun there => absurd there captured, rate.mp mirrors.reliability,
        mirrors.count⟩
    · rintro ⟨-, known, counted⟩
      exact ⟨even.1.le, even.2.1.le, even.2.2.le, fun there => absurd there captured,
        rate.mpr known, counted⟩

/--
The state of the local node mirrors its sources exactly if the metrics do not report a negative
number of cores, the entry has attempts or the rate one, and no capsule of the cluster has a
replica on the node.
-/
theorem local_node_mirrors_iff (localNodeID : String) (book : Book) (clusterPath : String)
    (entry : Row) (known : book.get localNodeID clusterPath = some entry) (snap : Snapshot)
    (credible : Plausible snap) (m : Capsule.Manager) :
    ∃ state, (electionProvider localNodeID).localNode book none (.ok snap) clusterPath = .ok state ∧
      (Mirrors entry snap (capsulesOn m clusterPath localNodeID) state ↔
        (snap.capturedAt ≠ zeroTime → 0 ≤ snap.cpu.cores) ∧
          (0 < entry.tracking.connectionAttempts ∨ entry.tracking.successRate = 1) ∧
          capsulesOn m clusterPath localNodeID = 0) := by
  have found : book.read none localNodeID clusterPath = some entry := known
  refine ⟨{ buildState localNodeID clusterPath entry snap with runningCapsuleCount := 0 }, ?_, ?_⟩
  · simp [Provider.localNode, electionProvider, newProvider, found, noCapsuleCounts]
  · rw [mirrors_buildState_iff localNodeID clusterPath entry credible]
    have none : (0 : Int) = capsulesOn m clusterPath localNodeID ↔
        capsulesOn m clusterPath localNodeID = 0 := by omega
    rw [none]

def localEntry (attempts : Int) (rate : Rat) : Row :=
  ⟨[], [], "", "", none, 0, 0, 0,
    { connectionAttempts := attempts, connectionSuccess := attempts, successRate := rate },
    .active⟩

def halfUsed : Snapshot :=
  { capturedAt := 0
    cpu := ⟨4, 50⟩
    memory := ⟨8192, 4096, 4096, 50⟩
    disk := ⟨1000, 900, 100, 10⟩ }

/-- A node that has been connected to and hosts nothing is seen as it is. -/
theorem local_node_mirrors_iff_idle :
    ∃ state,
      (electionProvider "node-b").localNode (AList.singleton ("node-b", "cluster") (localEntry 1 1))
        none (.ok halfUsed) "cluster" = .ok state ∧
      Mirrors (localEntry 1 1) halfUsed
        (capsulesOn (.new Capsule.Store.new) "cluster" "node-b") state := by
  obtain ⟨state, returned, mirrors⟩ := local_node_mirrors_iff "node-b"
    (AList.singleton ("node-b", "cluster") (localEntry 1 1)) "cluster" (localEntry 1 1)
    (by decide +kernel) halfUsed
    ⟨by decide, by decide, by decide +kernel, by decide +kernel⟩ (.new Capsule.Store.new)
  exact ⟨state, returned, mirrors.mpr ⟨fun _ => by decide, .inl (by decide), by decide +kernel⟩⟩

/-- A node that hosts a replica and has no history is seen as unreliable and idle. -/
theorem local_node_misread :
    ∃ state,
      (electionProvider "node-b").localNode (AList.singleton ("node-b", "cluster") (localEntry 0 0))
        none (.ok halfUsed) "cluster" = .ok state ∧
      state.reliabilityScore = 0 ∧ state.runningCapsuleCount = 0 ∧
      capsulesOn Node.placed "cluster" "node-b" = 1 :=
  ⟨_, rfl, rfl, rfl, by decide +kernel⟩

end Falak.Metrics

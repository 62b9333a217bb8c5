import Falak.Phonebook.Book
import Mathlib.Algebra.Order.Ring.Rat

/-! The metrics of a node at one instant. The finite values of float64 are exact rationals. -/

namespace Falak.Metrics

structure CPUStats where
  cores : Int := 0
  usedPercent : Rat := 0
  deriving DecidableEq

structure MemoryStats where
  totalMB : Int := 0
  availableMB : Int := 0
  usedMB : Int := 0
  usedPercent : Rat := 0
  deriving DecidableEq

structure DiskStats where
  totalMB : Int := 0
  freeMB : Int := 0
  usedMB : Int := 0
  usedPercent : Rat := 0
  deriving DecidableEq

structure LoadStats where
  one : Rat := 0
  five : Rat := 0
  fifteen : Rat := 0
  deriving DecidableEq

structure NetworkStats where
  bytesSentPerSec : Int := 0
  bytesRecvPerSec : Int := 0
  deriving DecidableEq

structure Snapshot where
  nodeID : String := ""
  capturedAt : Int := zeroTime
  cpu : CPUStats := {}
  memory : MemoryStats := {}
  disk : DiskStats := {}
  load : LoadStats := {}
  network : NetworkStats := {}
  deriving DecidableEq

structure ResourceUpdate where
  nodeID : String
  capturedAt : Option Timestamp
  cpu : CPUStats
  memory : MemoryStats
  disk : DiskStats
  load : LoadStats
  network : NetworkStats
  deriving DecidableEq

def protoToSnapshot (u : ResourceUpdate) : Snapshot :=
  { nodeID := u.nodeID
    capturedAt := (u.capturedAt.map Timestamp.asTime).getD zeroTime
    cpu := u.cpu
    memory := u.memory
    disk := u.disk
    load := u.load
    network := u.network }

def Snapshot.row (snap : Snapshot) : Snapshot :=
  { snap with capturedAt := Capsule.unixMilli snap.capturedAt }

end Falak.Metrics

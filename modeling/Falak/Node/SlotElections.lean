import Falak.Election.Alone
import Falak.Election.DelayLaws
import Falak.Node.ElectionConfig
import Falak.Node.Scaling

/-! Which of the initial slots of a capsule can be elected. -/

namespace Falak.Node

open Falak.Capsule (Capsule CapsuleID CapsuleSpec defaultSpec)
open Falak.Election (RoundParams DelayStrategy replicaSlotID waitForScore waitForScore_nonneg
  waitForScore_le waitForScore_anti jitter jitter_bounds)
open Falak.Election.Cluster (alone ReportsWon)
open ElectionSettings (initializeElectionManager)

def slotWait (score : Score) (i : Nat) (random : Option (Fin (2 ^ 64))) : Int :=
  DelayStrategy.new.wait score (replicaSlotID i) random

def slotRound (nodeID : String) (c : Capsule) (score : Score) (i : Nat)
    (random : Option (Fin (2 ^ 64))) : Unit → RoundParams := fun _ =>
  let req := toRequest (initialRequest c i)
  { nodeID := nodeID
    req := req
    decide := DelayStrategy.new.decide (.ok ⟨score, true, ⟨.ok, ""⟩⟩) req random
    timeout := initializeElectionManager.timeoutFor req.clusterPath
    tiebreakWindow := 300 * millisecond }

structure Planned (c : Capsule) (score : Score) (i : Nat) (random : Option (Fin (2 ^ 64))) :
    Prop where
  nonneg : 0 ≤ slotWait score i random
  better : ∀ higher, score ≤ higher → slotWait higher i random ≤ slotWait score i random
  later : ∀ j : Nat, i ≤ j → initialRequest c j ∈ requests (requestInitialElections c) →
    slotWait score i random ≤ slotWait score j random

structure Wins (nodeID : String) (flag : Bool) (c : Capsule) (score : Score) (i : Nat)
    (random : Option (Fin (2 ^ 64))) (t latency : Int) : Prop where
  early : ((slotRound nodeID c score i random ()).decide t).publishAt
    < t + (slotRound nodeID c score i random ()).timeout
  reports : ReportsWon (slotRound nodeID c score i random) latency (alone flag t (.new 16))

variable {nodeID : String} {flag : Bool} {c : Capsule} {score : Score} {i : Nat}
  {random : Option (Fin (2 ^ 64))} {t latency : Int}

theorem slotWait_eq (narrow : i < 2 ^ 31) :
    slotWait score i random = waitForScore score (500 * millisecond) + i * (150 * millisecond)
      + jitter (200 * microsecond) random := by
  have base := waitForScore_le (show 0 ≤ 500 * millisecond by decide) score
  obtain ⟨low, high⟩ := jitter_bounds (show 0 < 200 * microsecond by decide) random
  simp only [millisecond, microsecond] at *
  refine DelayStrategy.wait_slot .new (by decide) (by decide) low ?_
  simp only [DelayStrategy.new, millisecond, microsecond]
  omega

theorem initialRequest_mem :
    initialRequest c i ∈ requests (requestInitialElections c) ↔
      i < initialReplicaCount c.spec.replicas := by
  rw [mem_requests_initial]
  constructor
  · rintro ⟨j, below, same⟩
    have named : replicaSlotID i = replicaSlotID j := congrArg ElectionRequested.replicaID same
    rwa [eq_of_toString_eq named]
  · exact fun below => ⟨i, below, rfl⟩

theorem planned (narrow : initialReplicaCount c.spec.replicas < 2 ^ 31)
    (below : i < initialReplicaCount c.spec.replicas) : Planned c score i random := by
  have positive : (0 : Int) ≤ 500 * millisecond := by decide
  have small : i < 2 ^ 31 := by omega
  refine ⟨?_, fun higher above => ?_, fun j after requested => ?_⟩
  · -- None of the three parts is negative.
    have base := waitForScore_nonneg positive score
    have low := (jitter_bounds (show 0 < 200 * microsecond by decide) random).1
    rw [slotWait_eq small]
    simp only [millisecond, microsecond] at *
    omega
  · rw [slotWait_eq small, slotWait_eq small]
    have base := waitForScore_anti positive above
    omega
  · -- The later slot has more staggers.
    have small' : j < 2 ^ 31 := by
      have := initialRequest_mem.mp requested
      omega
    rw [slotWait_eq small, slotWait_eq small']
    simp only [millisecond, microsecond]
    omega

theorem wins_iff :
    Wins nodeID flag c score i random t latency ↔
      flag = false ∧ slotWait score i random < 10 * second := by
  have won := Election.Cluster.reportsWon_iff (p := slotRound nodeID c score i random) (t := t)
    flag latency rfl (show (0 : Int) < 10 * second by decide)
  have time : ((slotRound nodeID c score i random ()).decide t).publishAt
        < t + (slotRound nodeID c score i random ()).timeout ↔
      slotWait score i random < 10 * second :=
    Int.add_lt_add_iff_left t
  constructor
  · rintro ⟨early, reports⟩
    exact ⟨(won.mp reports).1, time.mp early⟩
  · rintro ⟨free, short⟩
    exact ⟨time.mpr short, won.mpr ⟨free, time.mpr short⟩⟩

theorem slotWait_lt_iff (narrow : i < 2 ^ 31) :
    (∀ score random, slotWait score i random < 10 * second) ↔ i < 64 := by
  constructor
  · intro short
    have worst := short 0 none
    rw [slotWait_eq narrow, show waitForScore 0 (500 * millisecond) = 500 * millisecond
      by decide +kernel] at worst
    simp only [jitter, millisecond, microsecond, second] at worst
    omega
  · intro first score random
    have base := waitForScore_le (show 0 ≤ 500 * millisecond by decide) score
    have high := (jitter_bounds (show 0 < 200 * microsecond by decide) random).2
    rw [slotWait_eq narrow]
    simp only [millisecond, microsecond, second] at *
    omega

/--
Every initial slot of a capsule can be elected exactly if they are at most sixty-four and the node's
flag for the capsule is free.
-/
theorem slots_elected_iff {m : Capsule.Manager} {now : Int} {fault announceFault : Option String}
    {id : CapsuleID} {clusterID : String} {spec : CapsuleSpec}
    (accepted : (m.create now fault announceFault id clusterID spec).result = .ok c)
    (narrow : replicaBound (defaultSpec spec).replicas < 2 ^ 31) (nodeID : String) (flag : Bool)
    (t latency : Int) :
    (∀ i : Nat, initialRequest c i ∈ requests (requestInitialElections c) →
      ∀ score random, Planned c score i random) ∧
    ((∀ i : Nat, initialRequest c i ∈ requests (requestInitialElections c) →
      ∀ score random, Wins nodeID flag c score i random t latency) ↔
        flag = false ∧ initialReplicaCount c.spec.replicas ≤ 64) := by
  obtain ⟨checked, -, same, -⟩ := create_record accepted
  have fits := initialReplicaCount_le (Capsule.validateReplicas_of_validateSpec checked)
  have positive := initialReplicaCount_pos c.spec.replicas
  have narrow : initialReplicaCount c.spec.replicas < 2 ^ 31 := by
    rw [same]
    exact Int.lt_of_le_of_lt fits narrow
  simp only [initialRequest_mem, wins_iff]
  refine ⟨fun i below score random => planned narrow below, fun wins => ⟨?_, ?_⟩, ?_⟩
  · exact (wins 0 positive 0 none).1
  · by_contra many
    have short := (slotWait_lt_iff (i := 64) (by decide)).mp
      fun score random => (wins 64 (by omega) score random).2
    omega
  · rintro ⟨free, few⟩ i below score random
    exact ⟨free, (slotWait_lt_iff (by omega)).mpr (by omega) score random⟩

theorem exists_created {r : Capsule.ReplicaConfig} (ok : (creation r).result.isOk = true) :
    ∃ c, (creation r).result = .ok c ∧ c.spec.replicas = Capsule.defaultReplicas r := by
  cases created : (creation r).result with
  | error err =>
    rw [created] at ok
    cases ok
  | ok c =>
    obtain ⟨-, -, same, -⟩ := create_record created
    exact ⟨c, rfl, by rw [same]; rfl⟩

/--
The sixty-eighth slot of a capsule times out for every score, and a node that has claimed the first
slot of a capsule never wins the second one.
-/
theorem slots_time_out :
    (∃ c, (creation ⟨0, 0, 68⟩).result = .ok c ∧
      initialRequest c 67 ∈ requests (requestInitialElections c) ∧
      ∀ score random, ∃ w, Reach (Election.Cluster.step (slotRound "node-a" c score 67 random))
        (Election.Cluster.Undisturbed (slotRound "node-a" c score 67 random) 0)
        (alone false 0 (.new 16)) w ∧
        (w.rounds ()).past.reports = [.failure "election timeout"]) ∧
    ∃ c, (creation ⟨0, 0, 2⟩).result = .ok c ∧
      initialRequest c 1 ∈ requests (requestInitialElections c) ∧
      ∀ w, Reach (Election.Cluster.step (slotRound "node-a" c 100 1 none))
        (Election.Cluster.Undisturbed (slotRound "node-a" c 100 1 none) 0)
        (alone true 0 (.new 16)) w →
        ∀ v ∈ (w.rounds ()).past.reports, v.outcome ≠ .won := by
  constructor
  · obtain ⟨c, created, replicas⟩ := exists_created (r := ⟨0, 0, 68⟩) (by decide +kernel)
    refine ⟨c, created, initialRequest_mem.mpr (by rw [replicas]; decide), fun score random => ?_⟩
    have long : 10 * second ≤ slotWait score 67 random := by
      have base := waitForScore_nonneg (show 0 ≤ 500 * millisecond by decide) score
      have low := (jitter_bounds (show 0 < 200 * microsecond by decide) random).1
      rw [slotWait_eq (by decide)]
      simp only [millisecond, microsecond, second] at *
      omega
    exact Election.Cluster.times_out_of_late 0 rfl (show (0 : Int) < 10 * second by decide)
      (Int.add_le_add_left long 0)
  · obtain ⟨c, created, replicas⟩ := exists_created (r := ⟨0, 0, 2⟩) (by decide +kernel)
    refine ⟨c, created, initialRequest_mem.mpr (by rw [replicas]; decide), fun w reached => ?_⟩
    exact Election.Cluster.not_won_of_barred (.inr rfl) reached

/-- The three slots of a capsule can be elected. -/
theorem slots_elected_iff_three :
    ∃ c, (creation ⟨0, 0, 3⟩).result = .ok c ∧
      ∀ i : Nat, initialRequest c i ∈ requests (requestInitialElections c) →
        ∀ score random, Wins "node-a" false c score i random 0 0 := by
  obtain ⟨c, created, replicas⟩ := exists_created (r := ⟨0, 0, 3⟩) (by decide +kernel)
  refine ⟨c, created, ?_⟩
  have elected := (slots_elected_iff created (by decide) "node-a" false 0 0).2
  exact elected.mpr ⟨rfl, by rw [replicas]; decide⟩

end Falak.Node

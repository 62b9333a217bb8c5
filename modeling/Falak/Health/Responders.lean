import Falak.Health.Monitor
import Mathlib.Data.List.Count

/-!
The responders to a ping request: each node decides for itself, from its own copy of the phonebook.
-/

namespace Falak.Health

variable {P : Type} [DecidableEq P] (env : MonitorEnv P) (cfg : MonitorConfig) (rows : List Peer)
  (monitors : String → Monitor) (receipts : String → Receipt) (target : P)

structure Agree : Prop where
  named : (rows.map Peer.nodeID).Nodup
  apart : (rows.map (·.2.firstSeen)).Nodup
  same : ∀ p ∈ rows,
    ((monitors p.nodeID).tracked.book.getByCluster env.clusterPath).Perm rows
  sorted : ∀ p ∈ rows, (monitors p.nodeID).Sorted env (receipts p.nodeID).order
  read : ∀ p ∈ rows, (receipts p.nodeID).cluster = none

/-- The active members other than the target. -/
def others : List Peer :=
  rows.filter fun p => p.2.status = .active ∧ env.decode p.nodeID ≠ some target

/-- The members on which the node selects itself. -/
def responders : List Peer :=
  rows.filter fun p => Monitor.isTopResponder env cfg p.nodeID (receipts p.nodeID) target

def Probes (targetNodeID requesterID : String) (p : Peer) : Prop :=
  ((monitors p.nodeID).onPingRequest env cfg p.nodeID (receipts p.nodeID) targetNodeID
    requesterID).handler = some (.respond targetNodeID)

instance (targetNodeID requesterID : String) (p : Peer) :
    Decidable (Probes env cfg monitors receipts targetNodeID requesterID p) :=
  inferInstanceAs (Decidable (_ = _))

theorem isAmongFirst_eq (self : String) (position : Int) (order : List Peer) :
    Monitor.isAmongFirst env cfg self target position order
      = decide (self ∈ ((others env order target).take
          (cfg.maxResponders - position).toNat).map Peer.nodeID) := by
  induction order generalizing position with
  | nil => simp [Monitor.isAmongFirst, others]
  | cons p rest ih =>
    unfold Monitor.isAmongFirst
    by_cases skipped : env.decode p.nodeID = some target
    · simpa [others, skipped] using ih position
    by_cases active : p.2.status = .active
    · have first : others env (p :: rest) target = p :: others env rest target := by
        simp [others, skipped, active]
      rw [if_neg skipped, if_neg (not_not.mpr active), first]
      by_cases room : position < cfg.maxResponders
      · obtain ⟨left, many⟩ : ∃ left, (cfg.maxResponders - position).toNat = left + 1 :=
          ⟨(cfg.maxResponders - position - 1).toNat, by omega⟩
        have next : (cfg.maxResponders - (position + 1)).toNat = left := by omega
        rw [ih, next, many, List.take_succ_cons]
        by_cases mine : p.nodeID = self
        · simp [mine, room]
        · by_cases last : cfg.maxResponders ≤ position + 1
          · have none : left = 0 := by omega
            simp [mine, last, none, Ne.symm mine]
          · simp [mine, last, Ne.symm mine]
      · have none : (cfg.maxResponders - position).toNat = 0 := by omega
        have last : cfg.maxResponders ≤ position + 1 := by omega
        simp [none, room, last]
    · simpa [others, skipped, active] using ih position

variable {env cfg rows monitors receipts target}

namespace Agree

variable (agree : Agree env rows monitors receipts)
include agree

omit [DecidableEq P] in
/-- All nodes read the rows in one order. -/
theorem exists_order : ∃ order : List Peer, order.Perm rows ∧
    order.Pairwise (fun p q => p.2.firstSeen ≤ q.2.firstSeen) ∧
    ∀ p ∈ rows, (receipts p.nodeID).order = order := by
  have perm : ∀ p ∈ rows, (receipts p.nodeID).order.Perm rows := fun p member =>
    (agree.sorted p member).1.trans (agree.same p member)
  cases listed : rows with
  | nil => exact ⟨[], by simp⟩
  | cons first rest =>
    have member : first ∈ rows := by simp [listed]
    rw [← listed]
    refine ⟨(receipts first.nodeID).order, perm first member, (agree.sorted first member).2, ?_⟩
    intro p known
    refine List.Perm.eq_of_pairwise (fun a b ha hb before after => ?_) (agree.sorted p known).2
      (agree.sorted first member).2 ((perm p known).trans (perm first member).symm)
    exact List.inj_on_of_nodup_map agree.apart ((perm p known).subset ha)
      ((perm first member).subset hb) (Int.le_antisymm before after)

theorem responders_eq (cfg : MonitorConfig) (target : P) :
    ∃ order : List Peer, order.Perm rows ∧
      order.Pairwise (fun p q => p.2.firstSeen ≤ q.2.firstSeen) ∧
      (responders env cfg rows receipts target).Perm
        ((others env order target).take cfg.maxResponders.toNat) := by
  obtain ⟨order, perm, sorted, read⟩ := agree.exists_order
  refine ⟨order, perm, sorted, ?_⟩
  have named : (order.map Peer.nodeID).Nodup := (perm.map _).nodup_iff.mpr agree.named
  have known : ∀ q ∈ (others env order target).take cfg.maxResponders.toNat, q ∈ order :=
    fun q there => (List.mem_filter.mp (List.mem_of_mem_take there)).1
  have selected : ∀ p ∈ rows,
      (Monitor.isTopResponder env cfg p.nodeID (receipts p.nodeID) target = true ↔
        p.nodeID ∈ ((others env order target).take cfg.maxResponders.toNat).map Peer.nodeID) := by
    intro p member
    rw [Monitor.isTopResponder, agree.read p member, read p member, isAmongFirst_eq, Int.sub_zero]
    simp only [Option.isSome_none, Bool.false_eq_true, if_false, decide_eq_true_eq]
  have once : (responders env cfg rows receipts target).Nodup := agree.named.of_map.filter _
  have each : ((others env order target).take cfg.maxResponders.toNat).Nodup :=
    (named.of_map.filter _).sublist (List.take_sublist ..)
  refine (List.perm_ext_iff_of_nodup once each).mpr fun p => ?_
  rw [responders, List.mem_filter]
  constructor
  · rintro ⟨member, top⟩
    obtain ⟨q, there, same⟩ := List.mem_map.mp ((selected p member).mp top)
    rwa [← List.inj_on_of_nodup_map named (known q there) (perm.symm.subset member) same]
  · intro there
    have member : p ∈ rows := perm.subset (known p there)
    exact ⟨member, (selected p member).mpr (List.mem_map_of_mem there)⟩

theorem length_responders {cfg : MonitorConfig} (wanted : 0 ≤ cfg.maxResponders) (target : P) :
    ((responders env cfg rows receipts target).length : Int)
      = min cfg.maxResponders (others env rows target).length := by
  obtain ⟨order, perm, -, top⟩ := agree.responders_eq cfg target
  have same : (others env order target).Perm (others env rows target) := perm.filter _
  rw [top.length_eq, List.length_take, same.length_eq]
  omega

theorem responders_subset (cfg : MonitorConfig) (target : P) :
    responders env cfg rows receipts target ⊆ others env rows target := by
  obtain ⟨order, perm, -, top⟩ := agree.responders_eq cfg target
  exact fun p there => (perm.filter _).subset (List.mem_of_mem_take (top.subset there))

end Agree

/--
The nodes select the longest-lived active members other than the target, as many as are wanted or
as there are.
-/
theorem responders_longest_lived (agree : Agree env rows monitors receipts) (cfg : MonitorConfig)
    (wanted : 0 ≤ cfg.maxResponders) (target : P) :
    ((responders env cfg rows receipts target).length : Int)
        = min cfg.maxResponders (others env rows target).length ∧
      ∀ p ∈ responders env cfg rows receipts target, p ∈ others env rows target ∧
        ∀ q ∈ others env rows target, q.2.firstSeen < p.2.firstSeen →
          q ∈ responders env cfg rows receipts target := by
  refine ⟨agree.length_responders wanted target,
    fun p there => ⟨agree.responders_subset cfg target there, fun q member older => ?_⟩⟩
  obtain ⟨order, perm, sorted, top⟩ := agree.responders_eq cfg target
  have ordered : (others env order target).Pairwise (fun p q => p.2.firstSeen ≤ q.2.firstSeen) :=
    sorted.filter _
  have listed : q ∈ others env order target := (perm.filter _).symm.subset member
  rw [← List.take_append_drop cfg.maxResponders.toNat (others env order target)] at ordered listed
  rcases List.mem_append.mp listed with first | later
  · exact top.symm.subset first
  · have := (List.pairwise_append.mp ordered).2.2 p (top.subset there) q later
    omega

theorem probes_iff {p : Peer} {targetNodeID requesterID : String}
    (decoded : env.decode targetNodeID = some target)
    (idle : (monitors p.nodeID).handler = none) :
    Probes env cfg monitors receipts targetNodeID requesterID p ↔ p.nodeID ≠ requesterID ∧
      Monitor.isTopResponder env cfg p.nodeID (receipts p.nodeID) target = true := by
  unfold Probes Monitor.onPingRequest
  by_cases own : requesterID = p.nodeID
  · simp [own, idle]
  · simp only [own, if_false, decoded]
    split_ifs with selected <;> simp [selected, idle, Ne.symm own]

theorem length_filter_ne (members : List Peer) (named : (members.map Peer.nodeID).Nodup)
    (nodeID : String) :
    members.length = (members.filter (·.nodeID ≠ nodeID)).length
      + if nodeID ∈ members.map Peer.nodeID then 1 else 0 := by
  rw [List.length_eq_countP_add_countP (fun p : Peer => p.nodeID ≠ nodeID),
    ← List.countP_eq_length_filter, ← named.count, List.count, List.countP_map]
  congr 2
  funext p
  by_cases same : p.nodeID = nodeID <;> simp [same]

/--
There are as many probers as wanted, or as there are members to probe, unless the requester selects
itself and would be missed.
-/
theorem enough_probers_iff (agree : Agree env rows monitors receipts) (cfg : MonitorConfig)
    (wanted : 1 ≤ cfg.maxResponders) (idle : ∀ p ∈ rows, (monitors p.nodeID).handler = none)
    {targetNodeID : String} (decoded : env.decode targetNodeID = some target)
    (requesterID : String) :
    ((others env rows target).filter (·.nodeID ≠ requesterID) ≠ [] →
      min cfg.maxResponders ((others env rows target).filter (·.nodeID ≠ requesterID)).length
        ≤ ((rows.filter fun p => p.nodeID ≠ requesterID ∧ env.decode p.nodeID ≠ some target ∧
          Probes env cfg monitors receipts targetNodeID requesterID p).length : Int)) ↔
    ¬ (requesterID ∈ (responders env cfg rows receipts target).map Peer.nodeID ∧
      cfg.maxResponders ≤ ((others env rows target).filter (·.nodeID ≠ requesterID)).length) := by
  have many := agree.length_responders (show 0 ≤ cfg.maxResponders by omega) target
  have selected := agree.responders_subset cfg target
  have probers : (rows.filter fun p => p.nodeID ≠ requesterID ∧ env.decode p.nodeID ≠ some target ∧
        Probes env cfg monitors receipts targetNodeID requesterID p)
      = (responders env cfg rows receipts target).filter (·.nodeID ≠ requesterID) := by
    rw [responders, List.filter_filter]
    refine List.filter_congr fun p member => ?_
    rw [Bool.eq_iff_iff, decide_eq_true_iff, probes_iff decoded (idle p member), Bool.and_eq_true,
      decide_eq_true_iff]
    refine ⟨fun probes => ⟨probes.1, probes.2.2.2⟩, fun ⟨other, top⟩ => ⟨other, ?_, other, top⟩⟩
    have there := selected (List.mem_filter.mpr ⟨member, top⟩)
    exact (of_decide_eq_true (List.mem_filter.mp there).2).2
  have named : ∀ f : Peer → Bool, ((rows.filter f).map Peer.nodeID).Nodup := fun f =>
    agree.named.sublist ((List.filter_sublist ..).map _)
  have without := length_filter_ne (others env rows target) (named _) requesterID
  have chosen := length_filter_ne (responders env cfg rows receipts target) (named _) requesterID
  have inside : requesterID ∈ (responders env cfg rows receipts target).map Peer.nodeID →
      requesterID ∈ (others env rows target).map Peer.nodeID :=
    fun listed => List.map_subset _ selected listed
  rw [probers, ← List.length_pos_iff]
  by_cases top : requesterID ∈ (responders env cfg rows receipts target).map Peer.nodeID
  · rw [if_pos top] at chosen
    rw [if_pos (inside top)] at without
    simp only [top, true_and]
    omega
  · rw [if_neg top] at chosen
    simp only [top, false_and, not_false_eq_true, iff_true]
    split_ifs at without <;> omega

/-- A node that was first seen at an instant. -/
def seen (nodeID : String) (firstSeen : Int) : Peer :=
  ⟨(nodeID, "r/d/c"), ⟨[], [], "r", "d", none, firstSeen, 0, 0, {}, .active⟩⟩

def threeNodes : List Peer := [seen "node-r" 1, seen "node-s" 2, seen "node-t" 3]

def copies (_ : String) : Monitor := ⟨⟨threeNodes.toAList, ∅⟩, none, none, []⟩

def plainEnv : MonitorEnv String := ⟨"r/d/c", some, fun _ _ => true⟩

def readings (_ : String) : Receipt := ⟨none, none, {}, threeNodes⟩

theorem threeNodes_agree : Agree plainEnv threeNodes copies readings :=
  ⟨by decide, by decide, by decide +kernel, by decide +kernel, by decide⟩

/-- Of three nodes, the two other than the target select themselves. -/
theorem responders_longest_lived_two :
    ((responders plainEnv {} threeNodes readings "node-t").length : Int)
      = min 2 (others plainEnv threeNodes "node-t").length :=
  (responders_longest_lived threeNodes_agree {} (by decide) "node-t").1

/-- A request of the youngest node is answered by the one it wants. -/
theorem enough_probers_young :
    1 ≤ ((threeNodes.filter fun p =>
      p.nodeID ≠ "node-t" ∧ plainEnv.decode p.nodeID ≠ some "node-s" ∧
      Probes plainEnv { maxResponders := 1 } copies readings "node-s" "node-t" p).length : Int) :=
  (enough_probers_iff threeNodes_agree { maxResponders := 1 } (by decide) (fun _ _ => rfl) rfl
    "node-t").mpr (by decide +kernel) (by decide +kernel)

/-- The longest-lived node asks for one probe, and nobody makes it. -/
theorem no_prober_for_oldest :
    Agree plainEnv threeNodes copies readings ∧
      (threeNodes.filter fun p => p.2.status = .active ∧ p.nodeID ≠ "node-r" ∧ p.nodeID ≠ "node-t")
        = [seen "node-s" 2] ∧
      ∀ p ∈ threeNodes,
        ¬ Probes plainEnv { maxResponders := 1 } copies readings "node-t" "node-r" p :=
  ⟨threeNodes_agree, by decide +kernel, by decide +kernel⟩

end Falak.Health

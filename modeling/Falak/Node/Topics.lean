import Falak.Phonebook.Book

/-! The names of the topics of a cluster, and which messages a subscription receives. -/

namespace Falak.Node

open Falak.Phonebook (ClusterPath parseClusterPath length_splitOn)

section Builders

variable (clusterPath : String)

def buildHealthTopic : String := "falak/" ++ clusterPath ++ "/health"

def buildAuthTopic : String := "falak/" ++ clusterPath ++ "/auth"

def buildMetricsTopic : String := "falak/" ++ clusterPath ++ "/metrics"

def electionTopic : String := "falak/" ++ clusterPath ++ "/election"

def snapshotTopic : String := "falak/" ++ clusterPath ++ "/snapshot"

def buildOrbitTopic (orbitName : String) : String :=
  "falak/" ++ clusterPath ++ "/orbit/" ++ orbitName

def buildCapsuleTopic (capsuleID : String) : String :=
  "falak/" ++ clusterPath ++ "/capsule/" ++ capsuleID

end Builders

inductive Purpose
  | health
  | auth
  | metrics
  | election
  | snapshot
  | orbit (name : String)
  | capsule (id : String)
  deriving DecidableEq

def topic (clusterPath : String) : Purpose → String
  | .health => buildHealthTopic clusterPath
  | .auth => buildAuthTopic clusterPath
  | .metrics => buildMetricsTopic clusterPath
  | .election => electionTopic clusterPath
  | .snapshot => snapshotTopic clusterPath
  | .orbit name => buildOrbitTopic clusterPath name
  | .capsule id => buildCapsuleTopic clusterPath id

/-- What stands after the cluster path. -/
def Purpose.ending : Purpose → String
  | health => "health"
  | auth => "auth"
  | metrics => "metrics"
  | election => "election"
  | snapshot => "snapshot"
  | orbit name => "orbit/" ++ name
  | capsule id => "capsule/" ++ id

theorem topic_eq (clusterPath : String) (u : Purpose) :
    topic clusterPath u = "falak/" ++ clusterPath ++ "/" ++ u.ending := by
  cases u <;>
    simp [topic, buildHealthTopic, buildAuthTopic, buildMetricsTopic, electionTopic, snapshotTopic,
      buildOrbitTopic, buildCapsuleTopic, Purpose.ending, ← String.toList_inj]

theorem ending_inj {u v : Purpose} (same : u.ending = v.ending) : u = v := by
  have letters := congrArg String.toList same
  have first := congrArg List.head? letters
  cases u <;> cases v <;> simp [Purpose.ending] at first letters ⊢ <;>
    exact String.toList_inj.mp letters

theorem splitOn_topic (p : String) (u : Purpose) : (topic p u).toList.splitOn '/'
    = "falak".toList :: (p.toList.splitOn '/' ++ u.ending.toList.splitOn '/') := by
  have text : (topic p u).toList
      = "falak".toList ++ '/' :: (p.toList ++ '/' :: u.ending.toList) := by
    simp [topic_eq]
  rw [text, List.splitOn_append_cons_self, List.splitOn_append_cons_self,
    List.splitOn_eq_singleton (by decide), List.singleton_append]

theorem topic_inj {p q : String} {cp cq : ClusterPath}
    (accepted : parseClusterPath p = .ok cp) (accepted' : parseClusterPath q = .ok cq)
    {u v : Purpose} (same : topic p u = topic q v) : p = q ∧ u = v := by
  have parts := congrArg (List.splitOn '/' ∘ String.toList) same
  simp only [Function.comp_apply, splitOn_topic, List.cons.injEq, true_and] at parts
  have lengths := (length_splitOn accepted).trans (length_splitOn accepted').symm
  obtain ⟨path, ending⟩ := List.append_inj parts lengths
  have joined := congrArg ['/'].intercalate path
  have joined' := congrArg ['/'].intercalate ending
  rw [List.intercalate_splitOn, List.intercalate_splitOn, String.toList_inj] at joined joined'
  exact ⟨joined, ending_inj joined'⟩

def received {M : Type} (published : List (String × M)) (name : String) : List M :=
  (published.filter (·.1 = name)).map (·.2)

/--
The topics of different clusters and purposes have different names, so a subscription receives the
messages of its own cluster and purpose only.
-/
theorem topics_separate {p : String} {cp : ClusterPath} (accepted : parseClusterPath p = .ok cp)
    (u : Purpose) :
    (∀ q cq v, parseClusterPath q = .ok cq → topic q v = topic p u → q = p ∧ v = u) ∧
    ∀ (M : Type) (published : List ((String × Purpose) × M)),
      (∀ m ∈ published, ∃ cq, parseClusterPath m.1.1 = .ok cq) →
      received (published.map fun m => (topic m.1.1 m.1.2, m.2)) (topic p u)
        = (published.filter (·.1 = (p, u))).map (·.2) := by
  have apart (q : String) (cq : ClusterPath) (v : Purpose) (valid : parseClusterPath q = .ok cq)
      (same : topic q v = topic p u) : q = p ∧ v = u := topic_inj valid accepted same
  refine ⟨apart, fun M published valid => ?_⟩
  rw [received, List.filter_map, List.map_map]
  congr 1
  refine List.filter_congr fun m there => ?_
  obtain ⟨cq, valid⟩ := valid m there
  rw [Function.comp_apply, decide_eq_decide, Prod.ext_iff]
  refine ⟨apart _ cq _ valid, fun same => ?_⟩
  rw [same.1, same.2]

/-- An orbit may have the name of a purpose. -/
theorem topics_separate_named : topic "r/d/c" (.orbit "health") ≠ topic "r/d/c" .health :=
  have accepted : parseClusterPath "r/d/c" = .ok ⟨"r", "d", "c"⟩ := by decide +kernel
  fun same => nomatch ((topics_separate accepted .health).1 _ _ _ accepted same).2

end Falak.Node

import Falak.Election.Listener
import Mathlib.Data.List.AList

/-!
The routing of messages in a cluster's election topic.

Each definition that takes a `ClusterTopic` is one section under the topic's lock.
Listeners are references, since a section hands them on to code that runs without the lock.
-/

namespace Falak.Election

structure MessageKey where
  capsuleID : CapsuleID
  replicaID : String
  deriving DecidableEq, Repr

def Message.key : Message → MessageKey
  | .claim c => ⟨c.capsuleID, c.replicaID⟩
  | .failed f => ⟨f.capsuleID, f.replicaID⟩

def Request.key (req : Request) : MessageKey := ⟨req.capsuleID, req.replicaID⟩

structure Arrival where
  id : Nat
  message : Message
  deriving DecidableEq, Repr

structure BufferedMessage where
  receivedAt : Int
  arrival : Arrival
  deriving DecidableEq, Repr

def bufferTTL : Int := 3 * second

def maxMessageAge : Int := 30 * second

structure ElectionMessage where
  id : Nat
  receivedFrom : String
  senderID : String
  timestamp : Option Int
  verified : Bool
  payload : Option Message
  deriving DecidableEq, Repr

def ElectionMessage.stale (envelope : ElectionMessage) (now : Int) : Bool :=
  envelope.timestamp.any fun stamp => decide (now - stamp > maxMessageAge)

def ElectionMessage.handle (envelope : ElectionMessage) (nodeID : String) (now : Int) :
    Option Arrival :=
  if envelope.receivedFrom = nodeID then none
  else if envelope.senderID = nodeID then none
  else if envelope.stale now then none
  else if !envelope.verified then none
  else envelope.payload.map (⟨envelope.id, ·⟩)

structure ClusterTopic where
  listeners : AList fun _ : MessageKey => Nat
  buffered : MessageKey → List BufferedMessage

namespace ClusterTopic

variable (t : ClusterTopic)

def empty : ClusterTopic := ⟨∅, fun _ => []⟩

def receive (now : Int) (a : Arrival) : ClusterTopic × Option Nat :=
  match t.listeners.lookup a.message.key with
  | none =>
    ({ t with
      buffered := Function.update t.buffered a.message.key
        (t.buffered a.message.key ++ [⟨now, a⟩]) }, none)
  | some l => (t, some l)

def listen (key : MessageKey) (l : Nat) : ClusterTopic :=
  { listeners := t.listeners.insert key l
    buffered := Function.update t.buffered key [] }

def unlisten (key : MessageKey) (l : Nat) : ClusterTopic :=
  if t.listeners.lookup key = some l then { t with listeners := t.listeners.erase key } else t

def sweepBuffer (readAt : Int) : ClusterTopic :=
  let cutoff := readAt - bufferTTL
  { t with buffered := fun key => (t.buffered key).filter fun m => cutoff < m.receivedAt }

def registered (l : Nat) : Bool := t.listeners.entries.any (·.2 == l)

variable {t : ClusterTopic} {l : Nat}

theorem lookup_of_registered (registered : t.registered l = true) :
    ∃ key, t.listeners.lookup key = some l := by
  simp only [ClusterTopic.registered, List.any_eq_true, beq_iff_eq] at registered
  obtain ⟨⟨key, l'⟩, entry, rfl⟩ := registered
  exact ⟨key, AList.mem_lookup_iff.mpr entry⟩

theorem lookup_listen (t : ClusterTopic) (key other : MessageKey) (l : Nat) :
    (t.listen key l).listeners.lookup other
      = if other = key then some l else t.listeners.lookup other := by
  by_cases same : other = key
  · subst same
    simp [listen]
  · simp [listen, same]

theorem lookup_unlisten {key other : MessageKey} {l' : Nat}
    (found : (t.unlisten key l).listeners.lookup other = some l') :
    t.listeners.lookup other = some l' ∧ (other = key → l' ≠ l) := by
  unfold unlisten at found
  split at found
  · by_cases same : other = key
    · subst same
      simp at found
    · simp only [AList.lookup_erase_ne same] at found
      exact ⟨found, fun absurd => (same absurd).elim⟩
  · rename_i foreign
    refine ⟨found, ?_⟩
    rintro rfl rfl
    exact foreign found

theorem lookup_unlisten_of_ne {key other : MessageKey} {l' : Nat}
    (found : t.listeners.lookup other = some l') (different : l' ≠ l) :
    (t.unlisten key l).listeners.lookup other = some l' := by
  unfold unlisten
  split
  · rename_i own
    have apart : other ≠ key := by
      rintro rfl
      exact different (Option.some.inj (found.symm.trans own))
    simp only [AList.lookup_erase_ne apart]
    exact found
  · exact found

@[simp] theorem unlisten_buffered (t : ClusterTopic) (key : MessageKey) (l : Nat) :
    (t.unlisten key l).buffered = t.buffered := by
  unfold unlisten
  split <;> rfl

theorem receive_buffered {a : Arrival} (unheard : t.listeners.lookup a.message.key = none)
    (now : Int) (key : MessageKey) :
    (t.receive now a).1.buffered key
      = if key = a.message.key then t.buffered key ++ [⟨now, a⟩] else t.buffered key := by
  simp only [receive, unheard]
  by_cases same : key = a.message.key
  · subst same
    simp
  · simp [same]

theorem listen_buffered (t : ClusterTopic) (key other : MessageKey) (l : Nat) :
    (t.listen key l).buffered other = if other = key then [] else t.buffered other := by
  by_cases same : other = key <;> simp [listen, same]

@[simp] theorem receive_listeners (t : ClusterTopic) (now : Int) (a : Arrival) :
    (t.receive now a).1.listeners = t.listeners := by
  unfold receive
  split <;> rfl

@[simp] theorem receive_listener (t : ClusterTopic) (now : Int) (a : Arrival) :
    (t.receive now a).2 = t.listeners.lookup a.message.key := by
  unfold receive
  split <;> rename_i found <;> exact found.symm

end ClusterTopic

end Falak.Election

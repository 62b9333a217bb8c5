import Falak.Capsule.Lifecycle
import Falak.Capsule.Spec
import Falak.Capsule.Store

/-!
The capsule manager: a store, a state machine per capsule, and the events it emits.

A call is given the instant at which it is made and the errors that the database returns, and gives
the manager it leaves behind, the events in the order in which the handler is called, and what the
caller gets. A cached capsule is changed in place, so the change stays when its row is not written.
-/

namespace Falak.Capsule

inductive EventType
  | created
  | updated
  | deleted
  | received
  | announced
  | running
  | stopping
  | stopped
  | statusChanged
  deriving DecidableEq, Repr

structure ManagerEvent where
  type : EventType
  capsuleID : CapsuleID
  capsule : Capsule
  timestamp : Int
  deriving DecidableEq

def statusEventType : CapsuleStatus → EventType
  | .announced => .announced
  | .running => .running
  | .stopping => .stopping
  | .stopped => .stopped
  | _ => .statusChanged

structure Manager where
  store : Store
  lifecycles : AList fun _ : CapsuleID => Lifecycle

structure Call (α : Type) where
  manager : Manager
  events : List ManagerEvent
  result : Except String α

namespace Manager

variable (m : Manager) (now : Int)

def new (store : Store) : Manager :=
  ⟨store, ⟨store.capsules.entries.map fun entry => ⟨entry.1, .new entry.2.val.status⟩, by
    rw [List.NodupKeys, List.keys, List.map_map]
    exact store.capsules.nodupKeys⟩⟩

def get (id : CapsuleID) : Option Capsule := m.store.get id

def list : List Capsule := m.store.list

def getLifecycle (id : CapsuleID) : Option Lifecycle := m.lifecycles.lookup id

def setLifecycle (id : CapsuleID) (l : Lifecycle) : Manager :=
  { m with lifecycles := m.lifecycles.insert id l }

def notFound (id : CapsuleID) : String := "capsule " ++ id ++ " not found"

def refuse {α : Type} (m : Manager) (err : String) : Call α := ⟨m, [], .error err⟩

def status (id : CapsuleID) : Except String CapsuleStatus :=
  match m.getLifecycle id with
  | none => .error (notFound id)
  | some l => .ok l.state

def onLifecycleTransition (fault : Option String) (event : LifecycleEvent) :
    Manager × List ManagerEvent :=
  match m.get event.capsuleID with
  | none => (m, [])
  | some c =>
    let c := { c with status := event.target, updatedAt := now }
    let store := m.store.put c
    match store.update now fault c with
    -- The error is only logged.
    | .error _ => ({ m with store := store }, [])
    | .ok store => ({ m with store := store }, [⟨statusEventType event.target, c.id, c, now⟩])

def fire (fault : Option String) (id : CapsuleID) (trigger : Trigger) :
    Call Unit :=
  match m.getLifecycle id with
  | none => m.refuse (notFound id)
  | some l =>
    match l.fire id trigger with
    -- The attempt stays noted in the machine.
    | (l, .error err) => (m.setLifecycle id l).refuse ("capsule " ++ id ++ ": " ++ err)
    | (l, .ok event) =>
      let after := (m.setLifecycle id l).onLifecycleTransition now fault event
      ⟨after.1, after.2, .ok ()⟩

def announce (fault : Option String) (id : CapsuleID) : Call Unit :=
  m.fire now fault id .announce

def startElection (fault : Option String) (id : CapsuleID) : Call Unit :=
  m.fire now fault id .electionStarted

def winElection (fault : Option String) (id : CapsuleID) : Call Unit :=
  m.fire now fault id .electionWon

def electionTimeout (fault : Option String) (id : CapsuleID) :
    Call Unit :=
  m.fire now fault id .electionTimeout

def startExecution (fault : Option String) (id : CapsuleID) :
    Call Unit :=
  m.fire now fault id .executionStart

def markRunning (fault : Option String) (id : CapsuleID) : Call Unit :=
  m.fire now fault id .containerReady

def executionFailed (fault : Option String) (id : CapsuleID) :
    Call Unit :=
  m.fire now fault id .executionFailed

def stopCapsule (fault : Option String) (id : CapsuleID) : Call Unit :=
  m.fire now fault id .stopRequested

def markStopped (fault : Option String) (id : CapsuleID) : Call Unit :=
  m.fire now fault id .containerStopped

def freshCapsule (id : CapsuleID) (clusterID : String) (spec : CapsuleSpec) : Capsule :=
  { id := id
    clusterID := clusterID
    spec := spec
    status := .created
    replicas := []
    momentum := ⟨spec.momentumConfig.base, spec.momentumConfig.base, now⟩
    version := "1"
    createdAt := now
    updatedAt := now }

def createStored (fault : Option String) (id : CapsuleID)
    (clusterID : String) (spec : CapsuleSpec) : Call Capsule :=
  if clusterID = "" then m.refuse "clusterID is required"
  else
    let spec := defaultSpec spec
    let errs := validateSpec spec
    if errs ≠ [] then m.refuse ("invalid capsule spec: " ++ joinErrors errs)
    else
      let c := freshCapsule now id clusterID spec
      match m.store.create now fault c with
      | .error err => m.refuse ("failed to store capsule: " ++ err)
      | .ok store =>
        ⟨{ m with store := store }.setLifecycle id (.new .created), [⟨.created, id, c, now⟩], .ok c⟩

def create (fault announceFault : Option String) (id : CapsuleID) (clusterID : String)
    (spec : CapsuleSpec) : Call Capsule :=
  let stored := m.createStored now fault id clusterID spec
  match stored.result with
  | .error _ => stored
  | .ok c =>
    let announced := stored.manager.announce now announceFault id
    ⟨announced.manager, stored.events ++ announced.events,
      .ok ((announced.manager.get id).getD c)⟩

def update (fault : Option String) (id : CapsuleID) (spec : CapsuleSpec) : Call Capsule :=
  let spec := defaultSpec spec
  let errs := validateSpec spec
  if errs ≠ [] then m.refuse ("invalid capsule spec: " ++ joinErrors errs)
  else
    match m.get id with
    | none => m.refuse (notFound id)
    | some c =>
      let c := { c with spec := spec, updatedAt := now }
      let store := m.store.put c
      match store.update now fault c with
      | .error err => { m with store := store }.refuse ("failed to update capsule: " ++ err)
      | .ok store => ⟨{ m with store := store }, [⟨.updated, c.id, c, now⟩], .ok c⟩

def delete (fault : Option String) (id : CapsuleID) : Call Unit :=
  match m.get id with
  | none => m.refuse (notFound id)
  | some c =>
    match m.store.delete fault id with
    | .error err => m.refuse ("failed to delete capsule: " ++ err)
    | .ok store => ⟨⟨store, m.lifecycles.erase id⟩, [⟨.deleted, c.id, c, now⟩], .ok ()⟩

def receive (fault : Option String) (c : Capsule) : Call Unit :=
  match m.get c.id with
  | some _ =>
    match m.store.update now fault c with
    | .error err => m.refuse ("failed to update received capsule: " ++ err)
    | .ok store =>
      ⟨{ m with store := store }, [⟨.received, c.id, { c with updatedAt := now }, now⟩], .ok ()⟩
  | none =>
    match m.store.create now fault c with
    | .error err => m.refuse ("failed to store received capsule: " ++ err)
    | .ok store =>
      let initial := if c.status.valid then c.status else .announced
      ⟨{ m with store := store }.setLifecycle c.id (.new initial),
        [⟨.received, c.id, { c with createdAt := now, updatedAt := now }, now⟩], .ok ()⟩

def assignReplica (fault : Option String) (id : CapsuleID) (replicaID nodeID : String) :
    Call Unit :=
  match m.get id with
  | none => m.refuse (notFound id)
  | some c =>
    let c :=
      { c with
        replicas := Capsule.assignReplica replicaID nodeID now c.replicas
        updatedAt := now }
    let store := m.store.put c
    match store.update now fault c with
    | .error err =>
      { m with store := store }.refuse ("failed to persist replica assignment: " ++ err)
    | .ok store => ⟨{ m with store := store }, [], .ok ()⟩

def syncStatus (fault : Option String) (id : CapsuleID) (status : CapsuleStatus) : Call Unit :=
  if !status.valid then m.refuse ("invalid status " ++ quoted (Named.text status))
  else
    match m.get id with
    | none => m.refuse (notFound id)
    | some c =>
      let c := { c with status := status, updatedAt := now }
      let store := m.store.put c
      match store.update now fault c with
      | .error err => { m with store := store }.refuse ("failed to persist synced status: " ++ err)
      | .ok store =>
        ⟨{ m with store := store }.setLifecycle id (.new status),
          [⟨statusEventType status, c.id, c, now⟩], .ok ()⟩

/-- A manager that is started again on what its database holds. -/
def restart : Manager :=
  new (match m.store.db with
    -- What was only in memory is lost.
    | none => .new
    | some table => .openStore table)

inductive Op
  | create (id : CapsuleID) (clusterID : String) (spec : CapsuleSpec)
  | update (id : CapsuleID) (spec : CapsuleSpec)
  | receive (c : Capsule)
  | fire (id : CapsuleID) (trigger : Trigger)
  | syncStatus (id : CapsuleID) (status : CapsuleStatus)
  | assignReplica (id : CapsuleID) (replicaID nodeID : String)
  | delete (id : CapsuleID)
  | restart

structure Action where
  now : Int
  /-- The answer to the first statement. -/
  fault : Option String
  /-- The answer to the second statement of `Create`. -/
  announceFault : Option String
  op : Op

def step (a : Action) : Option Manager :=
  some <|
    match a.op with
    | .create id clusterID spec =>
      (m.create a.now a.fault a.announceFault id clusterID spec).manager
    | .update id spec => (m.update a.now a.fault id spec).manager
    | .receive c => (m.receive a.now a.fault c).manager
    | .fire id trigger => (m.fire a.now a.fault id trigger).manager
    | .syncStatus id status => (m.syncStatus a.now a.fault id status).manager
    | .assignReplica id replicaID nodeID =>
      (m.assignReplica a.now a.fault id replicaID nodeID).manager
    | .delete id => (m.delete a.now a.fault id).manager
    | .restart => m.restart

end Manager

end Falak.Capsule

import Falak.Auth.Authenticate
import Falak.Node.Topics

/-!
The clusters a node joins and leaves, with any number of requests in progress.

A request opens the auth topic of its cluster before it authenticates, and a topic that is open
cannot be opened again. Only `Leave` closes it, which is for members.
-/

namespace Falak.Auth

open Node (buildAuthTopic)
open Phonebook (Member)

variable {K C : Type}

/-- A bootstrap peer, with what the attempt to authenticate with it meets. -/
structure BootstrapPeer (C : Type) where
  address : String
  multiaddr : Except String Unit
  id : Except String String
  shortString : String
  connected : Except String Unit
  dial : Dial C

/-- One turn of the loop over the bootstrap peers. -/
def contact (a : Authenticator K C) (clusterPath : String) (p : BootstrapPeer C) (x : Joiner C) :
    Joiner C × Except String Session :=
  match p.multiaddr, p.id, p.connected with
  | .error err, _, _ => (x, .error ("invalid address " ++ p.address ++ ": " ++ err))
  | _, .error err, _ => (x, .error ("invalid peer info " ++ p.address ++ ": " ++ err))
  | _, .ok _, .error err => (x, .error ("connection to " ++ p.shortString ++ " failed: " ++ err))
  | _, .ok id, .ok () =>
    let attempt := authenticate a clusterPath id p.dial x
    (attempt.1, attempt.2.mapError ("authentication with " ++ p.shortString ++ " failed: " ++ ·))

structure ClusterJoinRequested (C : Type) where
  clusterPath : String
  psk : Bytes
  bootstrapPeers : List (BootstrapPeer C)

/-- How far the handler of a request is. -/
inductive JoinPhase (C : Type)
  | requested
  | keyed
  | provided
  | bootstrapping (rest : List (BootstrapPeer C)) (lastErr : Option String)
  | publishing (outcome : Except String String)
  | done

/-- A call of `Join`: its request, and since which event it waits for the outcome. -/
structure JoinJob (C : Type) where
  request : ClusterJoinRequested C
  phase : JoinPhase C := .requested
  waiting : Option Nat

/-- The handler has opened the topic and may still succeed. -/
def JoinPhase.live : JoinPhase C → Bool
  | .bootstrapping _ _ => true
  | .publishing (.ok _) => true
  | _ => false

/-- What a handler meets outside: its keys, its provider, its topic and its own certificate. -/
structure JoinWorld (K C : Type) where
  hmacKey : Except String Bytes
  provider : Except String (Provider K C)
  topicFault : Option String
  subscribed : Except String Unit
  certificate : Option C
  publicKey : Except String Bytes
  addresses : List String
  now : Int

structure Joins (K C : Type) where
  auth : Authenticator K C
  node : Joiner C := {}
  /-- The topics that are open at the publish-subscribe library. -/
  topics : String → Bool := fun _ => false
  authTopics : String → Bool := fun _ => false
  joinedClusters : String → Bool := fun _ => false
  /-- The calls of `Leave` that have not come to the authenticator yet. -/
  leaving : List String := []
  jobs : List (JoinJob C) := []

namespace Joins

variable (s : Joins K C)

def setClusterPSK (clusterPath : String) (psk : Bytes) (derived : Except String Bytes) :
    Except String (Joins K C) := do
  ensure (decide (32 ≤ psk.length)) "PSK must be at least 32 bytes"
  let hmacKey ← derived
  return { s with auth.hmacKeys := Function.update s.auth.hmacKeys clusterPath (some hmacKey) }

def joinTopic (name : String) (fault : Option String) : Except String (String → Bool) :=
  match s.topics name, fault with
  | true, _ => .error "topic already exists"
  | false, some err => .error err
  | false, none => .ok (Function.update s.topics name true)

def subscribeToCluster (clusterPath : String) (w : JoinWorld K C) :
    Joins K C × Except String Unit :=
  match s.joinTopic (buildAuthTopic clusterPath) w.topicFault with
  | .error err => (s, .error ("failed to join auth topic: " ++ err))
  | .ok topics =>
    ({ s with
      topics := topics
      authTopics := Function.update s.authTopics clusterPath true },
      w.subscribed.mapError ("failed to subscribe to auth topic: " ++ ·))

/-- The first node of a cluster has a session without a voucher. -/
def startFirst (clusterPath : String) (w : JoinWorld K C) : Joiner C :=
  { sessions := Function.update s.node.sessions clusterPath
      (some ⟨.authenticated, "", w.now, w.now, none⟩)
    certificates :=
      match s.auth.providers clusterPath, w.certificate with
      | some _, some cert => Function.update s.node.certificates clusterPath (some cert)
      | _, _ => s.node.certificates
    events := s.node.events ++
      match w.publicKey with
      | .ok publicKey => [.newMemberAnnounced ⟨s.auth.selfID, clusterPath, w.addresses, publicKey,
          none⟩]
      | .error _ => [] }

def outcomeEvent (clusterPath : String) : Except String String → JoinEvent
  | .ok voucherNodeID => .clusterJoined clusterPath voucherNodeID
  | .error reason => .clusterJoinFailed clusterPath reason

/-- The next step of `handleClusterJoinRequest`. -/
def handle (r : ClusterJoinRequested C) (w : JoinWorld K C) :
    JoinPhase C → Option (Joins K C × JoinPhase C)
  | .requested =>
    match s.setClusterPSK r.clusterPath r.psk w.hmacKey with
    | .error err => some (s, .publishing (.error ("invalid PSK: " ++ err)))
    | .ok s' => some (s', .keyed)
  | .keyed =>
    match w.provider with
    | .error err => some (s, .publishing (.error ("failed to init cert provider: " ++ err)))
    | .ok provider =>
      some ({ s with
        auth.providers := Function.update s.auth.providers r.clusterPath (some provider) },
        .provided)
  | .provided =>
    match s.subscribeToCluster r.clusterPath w with
    | (s', .error err) =>
      some (s', .publishing (.error ("failed to subscribe to cluster: " ++ err)))
    | (s', .ok ()) => some (s', .bootstrapping r.bootstrapPeers none)
  | .bootstrapping [] none =>
    some ({ s with node := s.startFirst r.clusterPath w }, .publishing (.ok ""))
  | .bootstrapping [] (some lastErr) =>
    some (s, .publishing (.error ("bootstrap failed: " ++ lastErr)))
  | .bootstrapping (p :: rest) _ =>
    match contact s.auth r.clusterPath p s.node with
    | (x, .ok session) => some ({ s with node := x }, .publishing (.ok session.voucherNodeID))
    | (x, .error err) => some ({ s with node := x }, .bootstrapping rest (some err))
  | .publishing outcome =>
    some ({ s with node.events := s.node.events ++ [outcomeEvent r.clusterPath outcome] }, .done)
  | .done => none

/-- `LeaveCluster` of the authenticator, with whether the library has closed the topic. -/
def leaveCluster (clusterPath : String) (closed : Bool) : Joins K C :=
  { s with
    topics :=
      if s.authTopics clusterPath && closed then
        Function.update s.topics (buildAuthTopic clusterPath) false
      else s.topics
    authTopics := Function.update s.authTopics clusterPath false
    node.sessions := Function.update s.node.sessions clusterPath none
    auth.hmacKeys := Function.update s.auth.hmacKeys clusterPath none
    auth.providers := Function.update s.auth.providers clusterPath none }

inductive Action (K C : Type)
  | join (r : ClusterJoinRequested C)
  | handle (i : Nat) (w : JoinWorld K C)
  /-- The call of `Join` reads an event. -/
  | hear (i event : Nat)
  | giveUp (i : Nat)
  | leave (clusterPath : String)
  | leaveCluster (clusterPath : String) (closed : Bool)

def step : Action K C → Option (Joins K C)
  | .join r =>
    some { s with jobs := s.jobs ++ [{ request := r, waiting := some s.node.events.length }] }
  | .handle i w => do
    let job ← s.jobs[i]?
    let (s', phase) ← s.handle job.request w job.phase
    some { s' with jobs := s.jobs.set i { job with phase := phase } }
  | .hear i event => do
    let job ← s.jobs[i]?
    let since ← job.waiting
    let told ← s.node.events[event]?
    if event < since then none
    else
      let returned := { s with jobs := s.jobs.set i { job with waiting := none } }
      match told with
      | .clusterJoined path _ =>
        if path = job.request.clusterPath then
          some { returned with joinedClusters := Function.update s.joinedClusters path true }
        else none
      | .clusterJoinFailed path _ => if path = job.request.clusterPath then some returned else none
      | _ => none
  | .giveUp i => do
    let job ← s.jobs[i]?
    some { s with jobs := s.jobs.set i { job with waiting := none } }
  | .leave path =>
    if s.joinedClusters path then
      some { s with
        joinedClusters := Function.update s.joinedClusters path false
        leaving := path :: s.leaving }
    else none
  | .leaveCluster path closed =>
    if path ∈ s.leaving then
      some { s.leaveCluster path closed with leaving := s.leaving.erase path }
    else none

variable {s} {s' : Joins K C} {path : String} {r : ClusterJoinRequested C}
  {phase phase' : JoinPhase C}

/-- Events are added, but none that announces a join. -/
def Quiet (x x' : Joiner C) : Prop :=
  x.events ⊆ x'.events ∧ ∀ path voucherNodeID, .clusterJoined path voucherNodeID ∈ x'.events →
    .clusterJoined path voucherNodeID ∈ x.events

theorem Quiet.refl (x : Joiner C) : Quiet x x := ⟨List.Subset.refl _, fun _ _ => id⟩

theorem quiet_authenticate (a : Authenticator K C) (clusterPath targetPeer : String) (d : Dial C)
    (x : Joiner C) : Quiet x (authenticate a clusterPath targetPeer d x).1 := by
  unfold authenticate
  split
  · exact ⟨List.subset_append_left _ _, fun path voucherNodeID joined => by simpa using joined⟩
  · refine ⟨List.Subset.trans (List.subset_append_left _ _) (List.subset_append_left _ _), ?_⟩
    intro path voucherNodeID joined
    dsimp only at joined
    split_ifs at joined <;> simpa using joined

theorem quiet_contact (a : Authenticator K C) (clusterPath : String) (p : BootstrapPeer C)
    (x : Joiner C) : Quiet x (contact a clusterPath p x).1 := by
  unfold contact
  split
  · exact .refl x
  · exact .refl x
  · exact .refl x
  · exact quiet_authenticate _ _ _ _ _

/-- What a step of a handler does. Only the last one may announce a join. -/
structure Handled (r : ClusterJoinRequested C) (phase phase' : JoinPhase C) (s s' : Joins K C) :
    Prop where
  members : s'.joinedClusters = s.joinedClusters
  leaving : s'.leaving = s.leaving
  open' : ∀ name, s.topics name = true → s'.topics name = true
  live : phase'.live = true → phase.live = true ∨ s.topics (buildAuthTopic r.clusterPath) = false
  events : Quiet s.node s'.node ∨ ∃ outcome, phase = .publishing outcome ∧
    s'.node.events = s.node.events ++ [outcomeEvent r.clusterPath outcome]

theorem joinTopic_ok {name : String} {fault : Option String} {topics : String → Bool}
    (joined : s.joinTopic name fault = .ok topics) :
    s.topics name = false ∧ ∀ other, s.topics other = true → topics other = true := by
  unfold joinTopic at joined
  split at joined
  · cases joined
  · cases joined
  · rename_i free
    cases joined
    refine ⟨free, fun other held => ?_⟩
    by_cases same : other = name
    · simp [same]
    · simpa [same] using held

theorem handled {w : JoinWorld K C} (taken : s.handle r w phase = some (s', phase')) :
    Handled r phase phase' s s' := by
  cases phase with
  | requested =>
    simp only [handle] at taken
    split at taken
    · cases taken
      exact ⟨rfl, rfl, fun _ => id, by simp [JoinPhase.live], .inl (.refl _)⟩
    · rename_i keyed
      simp only [setClusterPSK, bind_ok_iff, pure_ok_iff] at keyed
      obtain ⟨-, -, hmacKey, -, rfl⟩ := keyed
      cases taken
      exact ⟨rfl, rfl, fun _ => id, by simp [JoinPhase.live], .inl (.refl _)⟩
  | keyed =>
    simp only [handle] at taken
    split at taken <;> cases taken <;>
      exact ⟨rfl, rfl, fun _ => id, by simp [JoinPhase.live], .inl (.refl _)⟩
  | provided =>
    simp only [handle, subscribeToCluster] at taken
    cases joined : s.joinTopic (buildAuthTopic r.clusterPath) w.topicFault with
    | error err =>
      simp only [joined] at taken
      cases taken
      exact ⟨rfl, rfl, fun _ => id, by simp [JoinPhase.live], .inl (.refl _)⟩
    | ok topics =>
      obtain ⟨free, kept⟩ := joinTopic_ok joined
      simp only [joined] at taken
      cases subscribed : w.subscribed <;> simp only [subscribed, Except.mapError] at taken <;>
        cases taken <;>
        exact ⟨rfl, rfl, kept, fun _ => .inr free, .inl (.refl _)⟩
  | bootstrapping rest lastErr =>
    cases rest with
    | nil =>
      cases lastErr with
      | none =>
        cases taken
        refine ⟨rfl, rfl, fun _ => id, fun _ => .inl rfl, .inl ⟨List.subset_append_left _ _, ?_⟩⟩
        intro path voucherNodeID joined
        cases publicKey : w.publicKey <;> simpa [startFirst, publicKey] using joined
      | some err =>
        cases taken
        exact ⟨rfl, rfl, fun _ => id, by simp [JoinPhase.live], .inl (.refl _)⟩
    | cons p rest =>
      simp only [handle] at taken
      have quiet := quiet_contact s.auth r.clusterPath p s.node
      split at taken <;>
      · rename_i contacted
        rw [contacted] at quiet
        cases taken
        exact ⟨rfl, rfl, fun _ => id, fun _ => .inl rfl, .inl quiet⟩
  | publishing outcome =>
    cases taken
    exact ⟨rfl, rfl, fun _ => id, by simp [JoinPhase.live], .inr ⟨outcome, rfl, rfl⟩⟩
  | done => cases taken

theorem Handled.kept (did : Handled r phase phase' s s') : s.node.events ⊆ s'.node.events := by
  rcases did.events with quiet | ⟨outcome, -, more⟩
  · exact quiet.1
  · exact more ▸ List.subset_append_left _ _

/-- The node is a member of clusters, or leaves them, only after it has joined them. -/
def Sound (s : Joins K C) : Prop := ∀ path, s.joinedClusters path = true ∨ path ∈ s.leaving →
  ∃ voucherNodeID, .clusterJoined path voucherNodeID ∈ s.node.events

/-- The topic is open, but nobody is left who could join the cluster. -/
structure Barred (s : Joins K C) (path : String) : Prop where
  held : s.topics (buildAuthTopic path) = true
  unjoined : ∀ voucherNodeID, .clusterJoined path voucherNodeID ∉ s.node.events
  dead : ∀ job ∈ s.jobs, job.request.clusterPath = path → job.phase.live = false
  out : s.joinedClusters path = false ∧ path ∉ s.leaving

theorem Sound.step {a : Action K C} (sound : s.Sound) (taken : s.step a = some s') : s'.Sound := by
  cases a with
  | join r =>
    cases taken
    exact sound
  | handle i w =>
    simp only [Joins.step, Option.bind_eq_bind, Option.bind_eq_some_iff] at taken
    obtain ⟨job, -, ⟨middle, phase⟩, moved, ⟨⟩⟩ := taken
    have did := handled moved
    intro path still
    simp only [did.members, did.leaving] at still
    obtain ⟨voucherNodeID, joined⟩ := sound path still
    exact ⟨voucherNodeID, did.kept joined⟩
  | hear i event =>
    simp only [Joins.step, Option.bind_eq_bind, Option.bind_eq_some_iff] at taken
    obtain ⟨job, -, since, -, told, published, taken⟩ := taken
    split at taken
    · cases taken
    · split at taken
      · rename_i cluster voucherNodeID
        obtain ⟨-, rfl⟩ := of_guard taken
        intro path
        by_cases same : path = cluster
        · subst same
          exact fun _ => ⟨voucherNodeID, List.mem_of_getElem? published⟩
        · simpa [same] using sound path
      · obtain ⟨-, rfl⟩ := of_guard taken
        exact sound
      · cases taken
  | giveUp i =>
    simp only [Joins.step, Option.bind_eq_bind, Option.bind_eq_some_iff] at taken
    obtain ⟨job, -, ⟨⟩⟩ := taken
    exact sound
  | leave left =>
    obtain ⟨member, rfl⟩ := of_guard taken
    intro path
    by_cases same : path = left
    · subst same
      exact fun _ => sound path (.inl member)
    · simpa [same] using sound path
  | leaveCluster left closed =>
    obtain ⟨-, rfl⟩ := of_guard taken
    exact fun path still => sound path (still.imp_right List.mem_of_mem_erase)

theorem Barred.dead_waiting {i : Nat} {job : JoinJob C} (barred : s.Barred path)
    (there : s.jobs[i]? = some job) : ∀ other ∈ s.jobs.set i { job with waiting := none },
      other.request.clusterPath = path → other.phase.live = false := by
  intro other member same
  rcases List.mem_or_eq_of_mem_set member with before | rfl
  · exact barred.dead other before same
  · exact barred.dead job (List.mem_of_getElem? there) same

theorem buildAuthTopic_injective : Function.Injective buildAuthTopic := by
  intro path path' same
  simpa [buildAuthTopic, String.ext_iff] using same

theorem Barred.step {a : Action K C} (barred : s.Barred path) (taken : s.step a = some s') :
    s'.Barred path := by
  cases a with
  | join r =>
    cases taken
    refine ⟨barred.held, barred.unjoined, fun job member same => ?_, barred.out⟩
    rcases List.mem_append.mp member with before | new
    · exact barred.dead job before same
    · cases List.mem_singleton.mp new
      rfl
  | handle i w =>
    simp only [Joins.step, Option.bind_eq_bind, Option.bind_eq_some_iff] at taken
    obtain ⟨job, there, ⟨middle, phase⟩, moved, ⟨⟩⟩ := taken
    have did := handled moved
    have dead := barred.dead job (List.mem_of_getElem? there)
    refine ⟨did.open' _ barred.held, fun voucherNodeID joined => ?_, fun other member same => ?_,
      by rw [did.members, did.leaving]; exact barred.out⟩
    · rcases did.events with quiet | ⟨outcome, publishing, more⟩
      · exact barred.unjoined voucherNodeID (quiet.2 path voucherNodeID joined)
      · rw [show middle.node.events = _ from more] at joined
        rcases List.mem_append.mp joined with before | new
        · exact barred.unjoined voucherNodeID before
        · -- A request for the cluster could only be about to fail.
          cases outcome with
          | error reason => simp [outcomeEvent] at new
          | ok voucher =>
            simp only [outcomeEvent, List.mem_singleton, JoinEvent.clusterJoined.injEq] at new
            rw [publishing] at dead
            cases dead new.1.symm
    · rcases List.mem_or_eq_of_mem_set member with before | rfl
      · exact barred.dead other before same
      · rw [Bool.eq_false_iff]
        intro live
        rcases did.live live with before | free
        · cases before.symm.trans (dead same)
        · rw [show job.request.clusterPath = path from same, barred.held] at free
          cases free
  | hear i event =>
    simp only [Joins.step, Option.bind_eq_bind, Option.bind_eq_some_iff] at taken
    obtain ⟨job, there, since, -, told, published, taken⟩ := taken
    have dead := barred.dead_waiting there
    split at taken
    · cases taken
    · split at taken
      · rename_i cluster voucherNodeID
        obtain ⟨-, rfl⟩ := of_guard taken
        refine ⟨barred.held, barred.unjoined, dead, ?_, barred.out.2⟩
        have other : path ≠ cluster := by
          rintro rfl
          exact barred.unjoined voucherNodeID (List.mem_of_getElem? published)
        simpa [other] using barred.out.1
      · obtain ⟨-, rfl⟩ := of_guard taken
        exact ⟨barred.held, barred.unjoined, dead, barred.out⟩
      · cases taken
  | giveUp i =>
    simp only [Joins.step, Option.bind_eq_bind, Option.bind_eq_some_iff] at taken
    obtain ⟨job, there, ⟨⟩⟩ := taken
    exact ⟨barred.held, barred.unjoined, barred.dead_waiting there, barred.out⟩
  | leave left =>
    obtain ⟨member, rfl⟩ := of_guard taken
    have other : path ≠ left := by
      rintro rfl
      cases member.symm.trans barred.out.1
    exact ⟨barred.held, barred.unjoined, barred.dead, by simpa [other] using barred.out⟩
  | leaveCluster left closed =>
    obtain ⟨leaving, rfl⟩ := of_guard taken
    have other : buildAuthTopic path ≠ buildAuthTopic left := fun same =>
      barred.out.2 (buildAuthTopic_injective same ▸ leaving)
    refine ⟨?_, barred.unjoined, barred.dead, barred.out.1,
      fun still => barred.out.2 (List.mem_of_mem_erase still)⟩
    simp only [leaveCluster]
    split
    · simpa [other] using barred.held
    · exact barred.held

/--
A request that has opened the topic of a cluster and fails is the last: from then on the node never
joins the cluster, whatever requests and calls there are, and it cannot leave it either.
-/
theorem failed_join_final (auth : Authenticator K C) {s : Joins K C} {path : String}
    (reached : Reach step (fun _ _ => True) { auth := auth } s)
    (held : s.topics (buildAuthTopic path) = true)
    (unjoined : ∀ voucherNodeID, .clusterJoined path voucherNodeID ∉ s.node.events)
    (dead : ∀ job ∈ s.jobs, job.request.clusterPath = path → job.phase.live = false)
    {s' : Joins K C} (later : Reach step (fun _ _ => True) s s') :
    (∀ voucherNodeID, .clusterJoined path voucherNodeID ∉ s'.node.events) ∧
      s'.step (.leave path) = none := by
  have sound := reached.invariant Sound (by simp [Sound])
    (fun _ _ _ sound _ taken => sound.step taken)
  have out (member : s.joinedClusters path = true ∨ path ∈ s.leaving) : False := by
    obtain ⟨voucherNodeID, joined⟩ := sound path member
    exact unjoined voucherNodeID joined
  have barred := later.invariant (Barred · path)
    ⟨held, unjoined, dead, by simpa using fun member => out (.inl member),
      fun left => out (.inr left)⟩
    (fun _ _ _ barred _ taken => barred.step taken)
  exact ⟨barred.unjoined, by simp [step, barred.out.1]⟩

def plainWorld : JoinWorld Bytes Unit :=
  { hmacKey := .ok [1], provider := .ok ⟨true, fun _ _ _ => .ok (), fun _ => .ok true⟩
    topicFault := none, subscribed := .ok (), certificate := none, publicKey := .ok [7]
    addresses := [], now := 0 }

/-- A request whose only bootstrap peer cannot be reached, handled to its end. -/
def unreachable : List (Action Bytes Unit) :=
  [.join ⟨"r/d/c", List.replicate 32 0, [⟨"/ip4/10.0.0.1", .ok (), .ok "node-v", "v",
    .error "refused", Meeting.plainMeeting.dial⟩]⟩] ++ List.replicate 6 (.handle 0 plainWorld)

/-- After one failed attempt, the cluster is out of reach. -/
theorem failed_join_final_unreachable : ∃ s : Joins Bytes Unit,
    Reach step (fun _ _ => True) { auth := plainVoucher } s ∧
      .clusterJoinFailed "r/d/c" "bootstrap failed: connection to v failed: refused"
        ∈ s.node.events ∧
      ∀ s', Reach step (fun _ _ => True) s s' →
        ∀ voucherNodeID, .clusterJoined "r/d/c" voucherNodeID ∉ s'.node.events := by
  obtain ⟨s, reached, failed, held, idle⟩ := Reach.exists_of_actions step { auth := plainVoucher }
    unreachable (fun s => s.node.events = [.clusterJoinFailed "r/d/c"
        "bootstrap failed: connection to v failed: refused"] ∧
      s.topics (buildAuthTopic "r/d/c") = true ∧ ∀ job ∈ s.jobs, job.phase.live = false)
    (by decide +kernel)
  refine ⟨s, reached, by simp [failed], fun s' later => ?_⟩
  exact (failed_join_final plainVoucher reached held (by simp [failed])
    (fun job member _ => idle job member) later).1

end Joins

end Falak.Auth

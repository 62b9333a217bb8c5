import Falak.Lib.Clock
import Falak.Lib.Reach

/-! The sessions of a node with its clusters, and how they become stale and are removed. -/

namespace Falak.Auth

inductive SessionStatus
  | pendingStep2
  | authenticated
  | stale
  | failed
  deriving DecidableEq

structure Session where
  status : SessionStatus
  voucherNodeID : String
  authenticatedAt : Int
  lastActivity : Int
  staleAt : Option Int := none

structure SessionConfig where
  sessionStaleThreshold : Int
  maxStaleDuration : Int

structure ClusterSession where
  session : Option Session := none
  lastCall : Option Int := none
  resumed : Option Int := none

namespace ClusterSession

variable (x : ClusterSession) (now : Int)

def create (voucherNodeID : String) : ClusterSession :=
  { x with session := some ⟨.authenticated, voucherNodeID, now, now, none⟩, resumed := none }

def updateSessionActivity : ClusterSession :=
  { session := x.session.map fun s => { s with lastActivity := now }
    lastCall := some now
    resumed := if x.session.any (·.status = .stale) then some now else x.resumed }

/-- Return the session to the authenticated state. -/
def refreshSession : ClusterSession :=
  { session := x.session.map fun s =>
      { s with status := .authenticated, lastActivity := now, staleAt := none }
    lastCall := some now
    resumed := none }

def expired (cfg : SessionConfig) (now : Int) (s : Session) : Bool :=
  s.status = .stale && s.staleAt.any fun since => cfg.maxStaleDuration < now - since

/-- Remove the session, or mark it as stale, or leave it. -/
def checkStaleSessions (cfg : SessionConfig) (x : ClusterSession) (now : Int) : ClusterSession :=
  { x with
    session := x.session.bind fun s =>
      if expired cfg now s then none
      else if s.status = .authenticated ∧ cfg.sessionStaleThreshold < now - s.lastActivity then
        some { s with status := .stale, staleAt := some now }
      else some s }

structure Tracked (now : Int) (x : ClusterSession) : Prop where
  past : ∀ t ∈ x.lastCall, t ≤ now
  marked : ∀ s ∈ x.session, s.status = .stale ↔ s.staleAt.isSome = true
  active : ∀ s ∈ x.session, s.staleAt = none → x.resumed = none
  /-- Since the mark there was no call but the one that is kept. -/
  covered : ∀ s ∈ x.session, ∀ since ∈ s.staleAt, ∀ t ∈ x.lastCall, t ≤ since ∨ x.resumed = some t
  called : ∀ s ∈ x.session, ∀ t ∈ x.resumed, x.lastCall = some t

variable {now : Int} {x : ClusterSession} {cfg : SessionConfig}

theorem Tracked.later {before : Int} (tracked : Tracked before x) (le : before ≤ now) :
    Tracked now x :=
  { tracked with past := fun t made => (tracked.past t made).trans le }

theorem Tracked.create (tracked : Tracked now x) (voucherNodeID : String) :
    Tracked now (x.create now voucherNodeID) where
  past := tracked.past
  marked := by simp [ClusterSession.create]
  active := by simp [ClusterSession.create]
  covered := by simp [ClusterSession.create]
  called := by simp [ClusterSession.create]

theorem Tracked.updateSessionActivity (tracked : Tracked now x) :
    Tracked now (x.updateSessionActivity now) := by
  obtain ⟨session, lastCall, resumed⟩ := x
  cases session with
  | none => constructor <;> simp [ClusterSession.updateSessionActivity]
  | some s =>
    have marked := tracked.marked s rfl
    have active := tracked.active s rfl
    constructor <;> by_cases stale : s.status = .stale <;>
      simp_all [ClusterSession.updateSessionActivity, Option.isSome_iff_ne_none]

theorem Tracked.refreshSession : Tracked now (x.refreshSession now) := by
  constructor <;> cases x.session <;> simp [ClusterSession.refreshSession]

theorem Tracked.checkStaleSessions (tracked : Tracked now x) :
    Tracked now (x.checkStaleSessions cfg now) := by
  obtain ⟨session, lastCall, resumed⟩ := x
  cases session with
  | none => exact tracked
  | some s =>
    have marked := tracked.marked s rfl
    have active := tracked.active s rfl
    simp only [ClusterSession.checkStaleSessions, Option.bind_some]
    split_ifs with gone idle
    · exact ⟨tracked.past, by simp, by simp, by simp, by simp⟩
    · refine ⟨tracked.past, by simp, by simp, ?_, by simp_all⟩
      simp only [Option.mem_def, Option.some.injEq, forall_eq']
      exact fun t made => .inl (tracked.past t made)
    · exact tracked

end ClusterSession

structure Sessions where
  now : Int
  clusters : String → ClusterSession := fun _ => {}

inductive SessionOp
  | create (clusterPath voucherNodeID : String)
  | updateSessionActivity (clusterPath : String)
  | refreshSession (clusterPath : String)
  | checkStaleSessions

structure SessionCall where
  now : Int
  op : SessionOp

namespace Sessions

def modify (s : Sessions) (now : Int) (path : String) (f : ClusterSession → ClusterSession) :
    Sessions :=
  ⟨now, Function.update s.clusters path (f (s.clusters path))⟩

def step (cfg : SessionConfig) (s : Sessions) (call : SessionCall) : Option Sessions :=
  some <|
    match call.op with
    | .create path voucher => s.modify call.now path (·.create call.now voucher)
    | .updateSessionActivity path => s.modify call.now path (·.updateSessionActivity call.now)
    | .refreshSession path => s.modify call.now path (·.refreshSession call.now)
    | .checkStaleSessions =>
      ⟨call.now, fun path => (s.clusters path).checkStaleSessions cfg call.now⟩

def Timely (s : Sessions) (call : SessionCall) : Prop := s.now ≤ call.now

instance (s : Sessions) (call : SessionCall) : Decidable (Timely s call) :=
  inferInstanceAs (Decidable (_ ≤ _))

variable {cfg : SessionConfig} {s s' : Sessions}

def Sound (s : Sessions) : Prop := ∀ path, (s.clusters path).Tracked s.now

theorem Sound.modify {now : Int} (sound : Sound s) (timely : s.now ≤ now) (path : String)
    {f : ClusterSession → ClusterSession}
    (keeps : ∀ x, ClusterSession.Tracked now x → ClusterSession.Tracked now (f x)) :
    Sound (s.modify now path f) := by
  intro other
  have before := (sound other).later timely
  by_cases same : other = path
  · subst same
    simpa [Sessions.modify] using keeps _ before
  · simpa [Sessions.modify, Function.update_of_ne same] using before

theorem Sound.step {call : SessionCall} (sound : Sound s) (timely : Timely s call)
    (taken : s.step cfg call = some s') : Sound s' := by
  obtain ⟨now, op⟩ := call
  cases taken
  cases op with
  | create path voucher => exact sound.modify timely path fun x tracked => tracked.create voucher
  | updateSessionActivity path =>
    exact sound.modify timely path fun x tracked => tracked.updateSessionActivity
  | refreshSession path =>
    exact sound.modify timely path fun x tracked => ClusterSession.Tracked.refreshSession
  | checkStaleSessions => exact fun path => ((sound path).later timely).checkStaleSessions

/--
A session is marked exactly while it is stale; and a check that removes a session does so longer
than the given duration after the last activity or refresh of its cluster, exactly when it does so
after the last activity that found the session stale.
-/
theorem active_kept_iff {start : Int} (reached : Reach (step cfg) Timely ⟨start, fun _ => {}⟩ s)
    (path : String) :
    (∀ session ∈ (s.clusters path).session,
      session.status = .stale ↔ session.staleAt.isSome = true) ∧
    ∀ now ≥ s.now, (s.clusters path).session.isSome = true →
      ((s.clusters path).checkStaleSessions cfg now).session = none →
      ((∀ t ∈ (s.clusters path).lastCall, cfg.maxStaleDuration < now - t) ↔
        ∀ t ∈ (s.clusters path).resumed, cfg.maxStaleDuration < now - t) := by
  have sound : Sound s := reached.invariant Sound
    (fun path => ⟨by simp, by simp, by simp, by simp, by simp⟩)
    fun _ _ _ sound timely taken => sound.step timely taken
  refine ⟨(sound path).marked, fun now later there gone => ?_⟩
  obtain ⟨session, there⟩ := Option.isSome_iff_exists.mp there
  simp only [ClusterSession.checkStaleSessions, there, Option.bind_some] at gone
  split_ifs at gone with expired
  simp only [ClusterSession.expired, Bool.and_eq_true, Option.any_eq_true,
    decide_eq_true_eq] at expired
  obtain ⟨-, since, marked, long⟩ := expired
  constructor
  · exact fun apart t kept => apart t ((sound path).called session there t kept)
  · intro apart t made
    rcases (sound path).covered session there since marked t made with before | kept
    · omega
    · exact apart t kept

def hourly : SessionConfig := ⟨300 * second, 3600 * second⟩

theorem idle_removed :
    ∃ s, Reach (step hourly) Timely ⟨0, fun _ => {}⟩ s ∧ s.now = 400 * second ∧
      ∀ t ∈ (s.clusters "cluster").lastCall, 3600 * second < 4001 * second - t := by
  obtain ⟨s, reached, now, there, gone, never⟩ := Reach.exists_of_accepted
    (fun s call => decide (Timely s call)) (fun _ _ => of_decide_eq_true) (step hourly)
    ⟨0, fun _ => {}⟩ [⟨0, .create "cluster" ""⟩, ⟨60 * second, .updateSessionActivity "cluster"⟩,
      ⟨400 * second, .checkStaleSessions⟩]
    (fun s => s.now = 400 * second ∧ (s.clusters "cluster").session.isSome = true ∧
      ((s.clusters "cluster").checkStaleSessions hourly (4001 * second)).session.isNone = true ∧
      (s.clusters "cluster").resumed = none) (by decide +kernel)
  refine ⟨s, reached, now, ?_⟩
  refine ((active_kept_iff reached "cluster").2 _ (now ▸ by decide) there
    (Option.isNone_iff_eq_none.mp gone)).mpr ?_
  simp [never]

/-- A session that was stale once is removed, though its node was active a minute ago. -/
theorem active_removed :
    ∃ s, Reach (step hourly) Timely ⟨0, fun _ => {}⟩ s ∧
      (s.clusters "cluster").lastCall = some (3941 * second) ∧
      (s.clusters "cluster").session.isSome = true ∧
      ((s.clusters "cluster").checkStaleSessions hourly (4001 * second)).session.isNone = true :=
  Reach.exists_of_accepted (fun s call => decide (Timely s call))
    (fun _ _ => of_decide_eq_true) (step hourly) ⟨0, fun _ => {}⟩
    [⟨0, .create "cluster" ""⟩, ⟨400 * second, .checkStaleSessions⟩,
      ⟨410 * second, .updateSessionActivity "cluster"⟩,
      ⟨3941 * second, .updateSessionActivity "cluster"⟩] _ (by decide +kernel)

end Sessions

end Falak.Auth

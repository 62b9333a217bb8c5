import Falak.Capsule.Types
import Falak.Lib.Reach

/-!
The momentum of a capsule, and the calls that adjust it.

Each method of a tracker is one step. A call of the adjuster reads the value, adjusts it and reads
it again, so other steps may come in between.
-/

namespace Falak.Capsule

structure Tracker where
  current : Int32
  base : Int32
  lastAdjusted : Int
  config : MomentumConfig
  minMomentum : Int32 := 0
  maxMomentum : Int32 := 100
  boostAmount : Int32 := 5
  reduceAmount : Int32 := 5

inductive TrackerOption
  | minMomentum (min : Int32)
  | maxMomentum (max : Int32)
  | boostAmount (amount : Int32)
  | reduceAmount (amount : Int32)

def TrackerOption.apply (t : Tracker) : TrackerOption → Tracker
  | minMomentum min => { t with minMomentum := min }
  | maxMomentum max => { t with maxMomentum := max }
  | boostAmount amount => { t with boostAmount := amount }
  | reduceAmount amount => { t with reduceAmount := amount }

namespace Tracker

def new (config : MomentumConfig) (opts : List TrackerOption) (now : Int) : Tracker :=
  opts.foldl TrackerOption.apply
    { config, current := .ofInt config.base, base := .ofInt config.base, lastAdjusted := now }

variable (t : Tracker) (now : Int)

def clamp (value : Int32) : Int32 :=
  if value < t.minMomentum then t.minMomentum
  else if t.maxMomentum < value then t.maxMomentum
  else value

def set (value : Int32) : Tracker := { t with current := t.clamp value, lastAdjusted := now }

/-- The base value is not clamped. -/
def reset : Tracker := { t with current := t.base, lastAdjusted := now }

/-- Set the value, and tell whether it has changed. -/
def adjust (value : Int32) : Bool × Tracker :=
  ((t.set now value).current ≠ t.current, t.set now value)

def boost : Bool × Tracker :=
  if t.config.boostOnTraffic then t.adjust now (t.current + t.boostAmount) else (false, t)

def reduce : Bool × Tracker :=
  if t.config.reduceOnIdle then t.adjust now (t.current - t.reduceAmount) else (false, t)

def isIdle : Bool := t.config.idleTimeout ≠ 0 ∧ t.config.idleTimeout < now - t.lastAdjusted

variable {t now} {t' t'' : Tracker} {c value amount : Int32}

theorem le_clamp_iff (ordered : t.minMomentum ≤ t.maxMomentum) :
    c ≤ t.clamp value ↔ c ≤ t.maxMomentum ∧ (c ≤ value ∨ c ≤ t.minMomentum) := by
  simp only [clamp, Int32.lt_iff_toInt_lt, Int32.le_iff_toInt_le] at ordered ⊢
  split_ifs <;> omega

theorem clamp_le_iff (ordered : t.minMomentum ≤ t.maxMomentum) :
    t.clamp value ≤ c ↔ t.minMomentum ≤ c ∧ (value ≤ c ∨ t.maxMomentum ≤ c) := by
  simp only [clamp, Int32.lt_iff_toInt_lt, Int32.le_iff_toInt_le] at ordered ⊢
  split_ifs <;> omega

theorem le_add_iff (nonnegative : 0 ≤ amount) :
    c ≤ c + amount ↔ c.toInt + amount.toInt < 2 ^ 31 := by
  have := c.le_toInt
  have := c.toInt_lt
  have := amount.toInt_lt
  rw [Int32.le_iff_toInt_le, Int32.toInt_add, Int.bmod_def]
  rw [Int32.le_iff_toInt_le, Int32.toInt_zero] at nonnegative
  split_ifs <;> omega

theorem sub_le_iff (nonnegative : 0 ≤ amount) :
    c - amount ≤ c ↔ -2 ^ 31 ≤ c.toInt - amount.toInt := by
  have := c.le_toInt
  have := c.toInt_lt
  have := amount.toInt_lt
  rw [Int32.le_iff_toInt_le, Int32.toInt_sub, Int.bmod_def]
  rw [Int32.le_iff_toInt_le, Int32.toInt_zero] at nonnegative
  split_ifs <;> omega

theorem le_boost_iff (ordered : t.minMomentum ≤ t.maxMomentum) (nonnegative : 0 ≤ t.boostAmount) :
    t.current ≤ (t.boost now).2.current ↔ (t.config.boostOnTraffic = true →
      t.current ≤ t.maxMomentum ∧
        (t.current.toInt + t.boostAmount.toInt < 2 ^ 31 ∨ t.current ≤ t.minMomentum)) := by
  rw [← le_add_iff nonnegative]
  unfold boost
  split_ifs with enabled
  · rw [imp_iff_right enabled]
    exact le_clamp_iff ordered
  · exact iff_of_true (Int32.le_refl _) fun on => absurd on enabled

theorem reduce_le_iff (ordered : t.minMomentum ≤ t.maxMomentum)
    (nonnegative : 0 ≤ t.reduceAmount) :
    (t.reduce now).2.current ≤ t.current ↔ (t.config.reduceOnIdle = true →
      t.minMomentum ≤ t.current ∧
        (-2 ^ 31 ≤ t.current.toInt - t.reduceAmount.toInt ∨ t.maxMomentum ≤ t.current)) := by
  rw [← sub_le_iff nonnegative]
  unfold reduce
  split_ifs with enabled
  · rw [imp_iff_right enabled]
    exact clamp_le_iff ordered
  · exact iff_of_true (Int32.le_refl _) fun on => absurd on enabled

theorem current_new (config : MomentumConfig) (opts : List TrackerOption) (now : Int) :
    (new config opts now).current = (new config opts now).base := by
  suffices general : ∀ t : Tracker, t.current = t.base →
      (opts.foldl TrackerOption.apply t).current = (opts.foldl TrackerOption.apply t).base from
    general _ rfl
  induction opts with
  | nil => exact fun _ same => same
  | cons opt opts ih => exact fun t same => ih _ (by cases opt <;> exact same)

def Follows (t t' : Tracker) : Prop :=
  ∃ current lastAdjusted, t' = { t with current, lastAdjusted } ∧
    (current = t.current ∨ current = t.base ∨ ∃ value, current = t.clamp value)

theorem Follows.refl : t.Follows t := ⟨_, _, rfl, .inl rfl⟩

theorem Follows.trans (first : t.Follows t') (second : t'.Follows t'') : t.Follows t'' := by
  obtain ⟨current, lastAdjusted, rfl, before⟩ := first
  obtain ⟨next, later, rfl, same | base | clamped⟩ := second
  · exact ⟨next, later, rfl, same ▸ before⟩
  · exact ⟨next, later, rfl, .inr (.inl base)⟩
  · exact ⟨next, later, rfl, .inr (.inr clamped)⟩

theorem follows_set (value : Int32) : t.Follows (t.set now value) :=
  ⟨_, _, rfl, .inr (.inr ⟨value, rfl⟩)⟩

theorem follows_boost : t.Follows (t.boost now).2 := by
  unfold boost
  split_ifs
  · exact follows_set _
  · exact .refl

theorem follows_reduce : t.Follows (t.reduce now).2 := by
  unfold reduce
  split_ifs
  · exact follows_set _
  · exact .refl

end Tracker

inductive AdjustmentReason
  | trafficBoost
  | idleReduce
  | failureReduce
  deriving DecidableEq

structure AdjustmentEvent where
  capsuleID : CapsuleID
  oldValue : Int32
  newValue : Int32
  reason : AdjustmentReason
  timestamp : Int

structure Adjustment extends AdjustmentEvent where
  before : Int32
  after : Int32

def Adjustment.Truthful (e : Adjustment) : Prop := e.oldValue = e.before ∧ e.newValue = e.after

inductive AdjusterPc
  | check
  | read
  | adjust (old : Int32)
  | report (old before after : Int32)
  | returned

namespace AdjusterPc

/-- A call has read the value, and not yet read it again. -/
def between : AdjusterPc → Bool
  | adjust _ | report _ _ _ => true
  | check | read | returned => false

def Fresh (current : Int32) : AdjusterPc → Prop
  | adjust old => old = current
  | report old before after => old = before ∧ current = after
  | check | read | returned => True

theorem fresh_of_not_between {pc : AdjusterPc} (out : pc.between = false) (current : Int32) :
    pc.Fresh current := by
  cases pc with
  | adjust | report => cases out
  | check | read | returned => trivial

end AdjusterPc

structure AdjusterCall where
  id : CapsuleID
  reason : AdjustmentReason
  checkedAt : Int
  pc : AdjusterPc

structure Adjuster where
  tracker : Tracker
  calls : List AdjusterCall := []
  events : List Adjustment := []

namespace Adjuster

inductive Action
  | boost (now : Int)
  | reduce (now : Int)
  | set (value : Int32) (now : Int)
  | reset (now : Int)
  | onTraffic (id : CapsuleID)
  | onFailure (id : CapsuleID)
  | checkIdle (id : CapsuleID) (now : Int)
  | proceed (i : Nat) (now : Int)

variable (s : Adjuster)

def goto (i : Nat) (c : AdjusterCall) (pc : AdjusterPc) : Adjuster :=
  { s with calls := s.calls.set i { c with pc } }

def proceed (i : Nat) (c : AdjusterCall) (now : Int) : Option Adjuster :=
  match c.pc with
  | .check => some (s.goto i c (if s.tracker.isIdle c.checkedAt then .read else .returned))
  | .read => some (s.goto i c (.adjust s.tracker.current))
  | .adjust old =>
    let (changed, tracker) :=
      if c.reason = .trafficBoost then s.tracker.boost now else s.tracker.reduce now
    some { s.goto i c (if changed then .report old s.tracker.current tracker.current else .returned)
      with tracker }
  | .report old before after =>
    let timestamp := if c.reason = .idleReduce then c.checkedAt else now
    some { s.goto i c .returned with
      events := s.events ++ [⟨⟨c.id, old, s.tracker.current, c.reason, timestamp⟩, before, after⟩] }
  | .returned => none

def step : Action → Option Adjuster
  | .boost now => some { s with tracker := (s.tracker.boost now).2 }
  | .reduce now => some { s with tracker := (s.tracker.reduce now).2 }
  | .set value now => some { s with tracker := s.tracker.set now value }
  | .reset now => some { s with tracker := s.tracker.reset now }
  | .onTraffic id => some { s with calls := s.calls ++ [⟨id, .trafficBoost, 0, .read⟩] }
  | .onFailure id => some { s with calls := s.calls ++ [⟨id, .failureReduce, 0, .read⟩] }
  | .checkIdle id now => some { s with calls := s.calls ++ [⟨id, .idleReduce, now, .check⟩] }
  | .proceed i now => s.calls[i]?.bind fun c => s.proceed i c now

inductive Move (a : Action) : Adjuster → Prop
  | direct {tracker : Tracker} (follows : s.tracker.Follows tracker)
      (other : ∀ i now, a ≠ .proceed i now) : Move a { s with tracker }
  | begun {c : AdjusterCall} (out : c.pc.between = false) (other : ∀ i now, a ≠ .proceed i now) :
      Move a { s with calls := s.calls ++ [c] }
  | taken {i : Nat} {now : Int} {c : AdjusterCall} {pc : AdjusterPc} {tracker : Tracker}
      {events : List Adjustment} (own : a = .proceed i now) (here : s.calls[i]? = some c)
      (follows : s.tracker.Follows tracker)
      (next : c.pc.Fresh s.tracker.current → pc.Fresh tracker.current)
      (emits : c.pc.Fresh s.tracker.current → (∀ e ∈ s.events, e.Truthful) →
        ∀ e ∈ events, e.Truthful) :
      Move a { s.goto i c pc with tracker, events }

variable {s} {s' : Adjuster} {a : Action}

theorem move_of_proceed {i : Nat} {c : AdjusterCall} {now : Int} (here : s.calls[i]? = some c)
    (stepped : s.proceed i c now = some s') : s.Move (.proceed i now) s' := by
  unfold proceed at stepped
  split at stepped
  · cases stepped
    exact .taken rfl here .refl (fun _ => AdjusterPc.fresh_of_not_between (by split <;> rfl) _)
      fun _ old => old
  · cases stepped
    exact .taken rfl here .refl (fun _ => rfl) fun _ old => old
  · rename_i old adjusts
    have follows : s.tracker.Follows (if c.reason = .trafficBoost then s.tracker.boost now
        else s.tracker.reduce now).2 := by
      split_ifs
      · exact Tracker.follows_boost
      · exact Tracker.follows_reduce
    generalize (if c.reason = .trafficBoost then s.tracker.boost now
      else s.tracker.reduce now) = adjusted at stepped follows
    cases stepped
    refine .taken rfl here follows (fun fresh => ?_) fun _ old => old
    rw [adjusts] at fresh
    split
    · exact ⟨fresh, rfl⟩
    · trivial
  · rename_i old before after reports
    cases stepped
    refine .taken rfl here .refl (fun _ => trivial) fun fresh old e there => ?_
    rw [reports] at fresh
    rcases List.mem_append.mp there with earlier | new
    · exact old e earlier
    · rw [List.mem_singleton.mp new]
      exact fresh
  · cases stepped

theorem move_of_step (stepped : s.step a = some s') : s.Move a s' := by
  cases a with
  | boost now =>
    cases stepped
    exact .direct Tracker.follows_boost nofun
  | reduce now =>
    cases stepped
    exact .direct Tracker.follows_reduce nofun
  | set value now =>
    cases stepped
    exact .direct (Tracker.follows_set value) nofun
  | reset now =>
    cases stepped
    exact .direct ⟨_, _, rfl, .inr (.inl rfl)⟩ nofun
  | onTraffic | onFailure | checkIdle =>
    cases stepped
    exact .begun rfl nofun
  | proceed i now =>
    obtain ⟨c, here, stepped⟩ := Option.bind_eq_some_iff.mp stepped
    exact move_of_proceed here stepped

theorem Move.follows (move : s.Move a s') : s.tracker.Follows s'.tracker := by
  cases move with
  | direct follows | taken own here follows => exact follows
  | begun => exact .refl

def Careful (s : Adjuster) (a : Action) : Prop :=
  ∀ s', s.step a = some s' → s'.tracker.current ≠ s.tracker.current →
    ∀ (i : Nat) (c : AdjusterCall), s.calls[i]? = some c → c.pc.between = true →
      ∃ now, a = .proceed i now

structure Sound (s : Adjuster) : Prop where
  fresh : ∀ (i : Nat) (c : AdjusterCall), s.calls[i]? = some c → c.pc.Fresh s.tracker.current
  truthful : ∀ e ∈ s.events, e.Truthful

theorem Sound.step (sound : s.Sound) (careful : s.Careful a) (stepped : s.step a = some s') :
    s'.Sound := by
  have others (i : Nat) (c : AdjusterCall) (there : s.calls[i]? = some c)
      (other : ∀ now, a ≠ .proceed i now) : c.pc.Fresh s'.tracker.current := by
    by_cases same : s'.tracker.current = s.tracker.current
    · exact same ▸ sound.fresh i c there
    · cases between : c.pc.between with
      | false => exact AdjusterPc.fresh_of_not_between between _
      | true =>
        obtain ⟨now, own⟩ := careful s' stepped same i c there between
        exact absurd own (other now)
  cases move_of_step stepped with
  | direct follows other =>
    exact ⟨fun i c there => others i c there (other i), sound.truthful⟩
  | begun out other =>
    refine ⟨fun i c there => ?_, sound.truthful⟩
    rcases List.mem_append.mp (List.mem_of_getElem? there) with old | new
    · obtain ⟨j, there⟩ := List.getElem?_of_mem old
      exact others j c there (other j)
    · rw [List.mem_singleton.mp new]
      exact AdjusterPc.fresh_of_not_between out _
  | taken own here follows next emits =>
    refine ⟨fun j c there => ?_, emits (sound.fresh _ _ here) sound.truthful⟩
    subst own
    simp only [goto, List.getElem?_set] at there
    split at there
    · split at there
      · cases there
        exact next (sound.fresh _ _ here)
      · cases there
    · rename_i apart
      exact others j c there fun _ same => apart (Action.proceed.inj same).1

/--
The value stays in range exactly if the base value is in range. A boost does not lower it exactly if
it is not above the range and the sum does not wrap or is clamped back, and a reduction likewise.
The events are truthful if nothing else changes the value between the two readings of a call.
-/
theorem momentum_sound {config : MomentumConfig} {opts : List TrackerOption} {now : Int}
    {t : Tracker} (new : t = .new config opts now) (ordered : t.minMomentum ≤ t.maxMomentum) :
    ((∀ s, Reach step (fun _ _ => True) { tracker := t } s →
        t.minMomentum ≤ s.tracker.current ∧ s.tracker.current ≤ t.maxMomentum) ↔
      t.minMomentum ≤ t.base ∧ t.base ≤ t.maxMomentum) ∧
    (∀ s, Reach step (fun _ _ => True) { tracker := t } s → ∀ later,
      (0 ≤ t.boostAmount → (s.tracker.current ≤ (s.tracker.boost later).2.current ↔
        t.config.boostOnTraffic = true → s.tracker.current ≤ t.maxMomentum ∧
          (s.tracker.current.toInt + t.boostAmount.toInt < 2 ^ 31 ∨
            s.tracker.current ≤ t.minMomentum))) ∧
      (0 ≤ t.reduceAmount → ((s.tracker.reduce later).2.current ≤ s.tracker.current ↔
        t.config.reduceOnIdle = true → t.minMomentum ≤ s.tracker.current ∧
          (-2 ^ 31 ≤ s.tracker.current.toInt - t.reduceAmount.toInt ∨
            t.maxMomentum ≤ s.tracker.current)))) ∧
    ∀ s, Reach step Careful { tracker := t } s → ∀ e ∈ s.events, e.Truthful := by
  have fresh : t.current = t.base := new ▸ Tracker.current_new config opts now
  have follows (s : Adjuster) (reached : Reach step (fun _ _ => True) { tracker := t } s) :
      t.Follows s.tracker :=
    reached.invariant (t.Follows ·.tracker) .refl fun _ _ _ before _ stepped =>
      before.trans (move_of_step stepped).follows
  refine ⟨⟨fun stays => ?_, fun based s reached => ?_⟩, fun s reached later => ?_,
    fun s reached => ?_⟩
  · rw [← fresh]
    exact stays _ .start
  · obtain ⟨current, lastAdjusted, same, first | base | ⟨value, clamped⟩⟩ := follows s reached
    · rw [same, first, fresh]
      exact based
    · rw [same, base]
      exact based
    · rw [same, clamped, Tracker.le_clamp_iff ordered, Tracker.clamp_le_iff ordered]
      exact ⟨⟨ordered, .inr (Int32.le_refl _)⟩, ordered, .inr (Int32.le_refl _)⟩
  · obtain ⟨current, lastAdjusted, same, -⟩ := follows s reached
    generalize s.tracker = t' at same ⊢
    subst same
    exact ⟨Tracker.le_boost_iff (t := { t with current, lastAdjusted }) ordered,
      Tracker.reduce_le_iff (t := { t with current, lastAdjusted }) ordered⟩
  · exact (reached.invariant Sound ⟨fun _ _ none => by simp at none, by simp⟩
      fun _ _ _ sound careful stepped => sound.step careful stepped).truthful

def steady : MomentumConfig := ⟨50, true, true, 0⟩

/-- With the default bounds, a base value between them keeps the value in range. -/
theorem momentum_sound_steady :
    ∃ s, Reach step (fun _ _ => True) { tracker := .new steady [] 0 } s ∧ s.events ≠ [] ∧
      0 ≤ s.tracker.current ∧ s.tracker.current ≤ 100 := by
  obtain ⟨s, reached, reported⟩ := Reach.exists_of_actions step
    { tracker := .new steady [] 0 }
    [.onTraffic "web", .proceed 0 1, .proceed 0 2, .proceed 0 3] (fun s => s.events.length = 1)
    (by decide +kernel)
  have stays := (@momentum_sound steady [] 0 _ rfl (by decide)).1.mpr (by decide)
  exact ⟨s, reached, List.ne_nil_of_length_eq_add_one reported, stays s reached⟩

def twice : List Action := [.onTraffic "web", .proceed 0 1, .boost 2, .proceed 0 3, .proceed 0 4]

/--
A base value above the range stays there, a boost of the largest integer leads to the lower bound,
and of two boosts in a row one is reported with the value before both.
-/
theorem momentum_unsound :
    (Tracker.new { steady with base := 200 } [] 0).current = 200 ∧
    ((Tracker.new { steady with base := 2 ^ 31 - 1 } [.maxMomentum (2 ^ 31 - 1)] 0).boost
      1).2.current = 0 ∧
    ∃ s, Reach step (fun _ _ => True) { tracker := .new steady [] 0 } s ∧
      s.events.map (fun e => (e.oldValue, e.before, e.newValue)) = [(50, 55, 60)] :=
  ⟨by decide +kernel, by decide +kernel, Reach.exists_of_actions _ _ twice _ (by decide +kernel)⟩

end Adjuster

end Falak.Capsule

import Falak.Lib.Reach
import Falak.Orbit.Announcer

/-! How often a byte string is accepted by an announcer whose cache is cleaned up now and then. -/

namespace Falak.Orbit

inductive Event
  | message (now : Int) (verifier : Option Verifier) (data : Bytes)
  | cleanup (now : Int)

inductive Entry
  | handled (now : Int) (data : Bytes) (rejection : Option Rejection)
  | cleaned (now : Int)
  deriving DecidableEq

structure Receiver (H : Type) where
  dedup : Deduplicator H
  clock : Int
  log : List Entry

def reading : Seen.Reading Entry Bytes where
  records
    | .handled _ _ (some .duplicate) => none
    | .handled now data _ => some (data, now)
    | .cleaned _ => none
  sweeps
    | .handled .. => none
    | .cleaned now => some now

def Remembered (maxAge : Int) (log : List Entry) (data : Bytes) : Prop :=
  ∃ since, Seen.RecordedAt reading maxAge log data since

section Runs

variable {π H : Type} [DecidableEq H] (codec : Codec π) (hash : Bytes → H)

def rejection : Except Rejection π → Option Rejection
  | .ok _ => none
  | .error rejection => some rejection

theorem rejection_some {outcome : Except Rejection π} {reason : Rejection} :
    rejection outcome = some reason ↔ outcome = .error reason := by
  cases outcome <;> simp [rejection]

namespace Receiver

/-- An event on a clock that does not go backwards. -/
def step (s : Receiver H) : Event → Option (Receiver H)
  | .message now verifier data =>
    if now < s.clock then none
    else
      let (dedup, outcome) := codec.handleMessage hash verifier now s.dedup data
      some ⟨dedup, now, s.log ++ [.handled now data (rejection outcome)]⟩
  | .cleanup now =>
    if now < s.clock then none
    else some ⟨s.dedup.cleanup now, now, s.log ++ [.cleaned now]⟩

def start (dedup : Deduplicator H) (clock : Int) : Receiver H := ⟨dedup, clock, []⟩

def Accepts (s : Receiver H) (now : Int) (verifier : Option Verifier) (data : Bytes) : Prop :=
  ∃ payload, (codec.handleMessage hash verifier now s.dedup data).2 = .ok payload

variable {codec hash} {s s' : Receiver H} {e : Event}

inductive Move (codec : Codec π) (hash : Bytes → H) (s : Receiver H) : Receiver H → Prop
  | repeated {now : Int} {data : Bytes} (later : s.clock ≤ now) :
      Move codec hash s ⟨s.dedup, now, s.log ++ [.handled now data (some .duplicate)]⟩
  | recorded {now : Int} {data : Bytes} {rejection : Option Rejection} (later : s.clock ≤ now)
      (unseen : s.dedup.seen (hash data) = none) (other : rejection ≠ some .duplicate) :
      Move codec hash s
        ⟨{ s.dedup with seen := s.dedup.seen.record (hash data) now }, now,
          s.log ++ [.handled now data rejection]⟩
  | cleaned {now : Int} (later : s.clock ≤ now) :
      Move codec hash s ⟨s.dedup.cleanup now, now, s.log ++ [.cleaned now]⟩

theorem move_of_step (stepped : s.step codec hash e = some s') : Move codec hash s s' := by
  cases e with
  | message now verifier data =>
    simp only [step, Option.ite_none_left_eq_some, Option.some.injEq] at stepped
    obtain ⟨later, rfl⟩ := stepped
    cases seen : s.dedup.seen (hash data) with
    | none =>
      rw [codec.handleMessage_new seen]
      refine .recorded (by omega) seen fun same => ?_
      exact codec.readMessage_ne_duplicate (rejection_some.mp same)
    | some since =>
      rw [codec.handleMessage_seen (by rw [seen]; rfl)]
      exact .repeated (by omega)
  | cleanup now =>
    simp only [step, Option.ite_none_left_eq_some, Option.some.injEq] at stepped
    obtain ⟨later, rfl⟩ := stepped
    exact .cleaned (by omega)

def Tracked (hash : Bytes → H) (maxAge : Int) (s : Receiver H) : Prop :=
  s.dedup.maxAge = maxAge ∧ Seen.Tracks reading maxAge (s.dedup.seen ∘ hash) s.log

theorem Tracked.step {maxAge : Int} (injective : Function.Injective hash)
    (tracked : s.Tracked hash maxAge) (stepped : s.step codec hash e = some s') :
    s'.Tracked hash maxAge := by
  obtain ⟨rfl, tracks⟩ := tracked
  cases move_of_step stepped with
  | repeated => exact ⟨rfl, tracks.skip rfl rfl⟩
  | @recorded now data rejection _ unseen other =>
    have records : reading.records (.handled now data rejection) = some (data, now) := by
      cases rejection with
      | none => rfl
      | some reason => cases reason <;> first | rfl | exact absurd rfl other
    have recorded := tracks.record unseen records rfl
    refine ⟨rfl, ?_⟩
    rw [Seen.record, ← Function.update_comp_eq_of_injective s.dedup.seen injective] at recorded
    exact recorded
  | cleaned => exact ⟨rfl, tracks.sweep rfl rfl⟩

theorem seen_or_late {data : Bytes} {since : Int} (held : s.dedup.seen (hash data) = some since)
    (reached : Reach (step codec hash) (fun _ _ => True) s s') :
    s'.dedup.maxAge = s.dedup.maxAge ∧
      (s'.dedup.seen (hash data) = some since ∨ s.dedup.maxAge < s'.clock - since) := by
  refine reached.invariant (fun s' => s'.dedup.maxAge = s.dedup.maxAge ∧
    (s'.dedup.seen (hash data) = some since ∨ s.dedup.maxAge < s'.clock - since))
    ⟨rfl, .inl held⟩ fun s₁ e s₂ before _ stepped => ?_
  obtain ⟨age, here⟩ := before
  cases move_of_step stepped with
  | repeated later =>
    refine ⟨age, here.imp id fun late => ?_⟩
    exact lt_of_lt_of_le late (Int.sub_le_sub_right later since)
  | recorded later unseen =>
    refine ⟨age, here.imp (fun seen => ?_) fun late => ?_⟩
    · refine (Function.update_of_ne (fun same => ?_) _ _).trans seen
      rw [← same, seen] at unseen
      cases unseen
    · exact lt_of_lt_of_le late (Int.sub_le_sub_right later since)
  | @cleaned now later =>
    refine ⟨age, ?_⟩
    rcases here with seen | late
    · by_cases old : now - since > s₁.dedup.maxAge
      · exact .inr (age ▸ old)
      · refine .inl ?_
        simp [Deduplicator.cleanup, Seen.sweep, seen, old]
    · exact .inr (lt_of_lt_of_le late (Int.sub_le_sub_right later since))

end Receiver

end Runs

def plainCodec : Codec Bytes where
  unmarshalMessage data := .ok ⟨utf8 "withdrawal", data, utf8 "node-a", none, [1]⟩
  unmarshalAnnouncement := .ok
  unmarshalStatusUpdate := .ok
  unmarshalWithdrawal := .ok

def phonebook (known : Bool) : Option Verifier := some fun _ _ _ => known

end Falak.Orbit

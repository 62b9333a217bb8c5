import Falak.Auth.Pubsub
import Falak.Lib.Entry
import Falak.Lib.Reach

/-! How often a message on the auth topics passes the checks against replay. -/

namespace Falak.Auth

variable {K C H : Type}

def isDuplicateBetween [DecidableEq H] (hash : Bytes → H) (ttl : Int) (seen : Seen H)
    (checkedAt recordedAt : Int) (data : Bytes) : Bool × Seen H :=
  match seen (hash data) with
  | some seenAt =>
    if checkedAt - seenAt ≤ ttl then (true, seen) else (false, seen.record (hash data) recordedAt)
  | none => (false, seen.record (hash data) recordedAt)

inductive Progress
  | duplicate
  /-- It is no duplicate, and its age is still to be checked. -/
  | admitted
  /-- It has no envelope, or it is too old. -/
  | dropped
  | passed
  deriving DecidableEq

def ageVerdict (unmarshalMessage : Bytes → Except String AuthMessage) (now : Int) (data : Bytes) :
    Progress :=
  match unmarshalMessage data with
  | .error _ => .dropped
  | .ok envelope =>
    if now - asTime envelope.timestamp > maxMessageAge then .dropped else .passed

structure Receipt where
  data : Bytes
  receivedAt : Int
  progress : Progress
  deriving DecidableEq

structure Gate (H : Type) where
  clock : Int
  seen : Seen H
  receipts : List Receipt

namespace Gate

inductive Action
  | receive (data : Bytes) (checkedAt recordedAt : Int)
  | checkAge (i : Nat) (now : Int)
  | evictExpired (now : Int)

def start (clock : Int) : Gate H := ⟨clock, Seen.empty, []⟩

section

variable (hash : Bytes → H) (unmarshalMessage : Bytes → Except String AuthMessage)

def step [DecidableEq H] (s : Gate H) : Action → Option (Gate H)
  | .receive data checkedAt recordedAt =>
    if s.clock ≤ checkedAt ∧ checkedAt ≤ recordedAt then
      match isDuplicateBetween hash maxMessageAge s.seen checkedAt recordedAt data with
      | (true, seen) => some ⟨recordedAt, seen, s.receipts ++ [⟨data, checkedAt, .duplicate⟩]⟩
      | (false, seen) => some ⟨recordedAt, seen, s.receipts ++ [⟨data, checkedAt, .admitted⟩]⟩
    else none
  | .checkAge i now => do
    let r ← s.receipts[i]?
    if r.progress = .admitted ∧ s.clock ≤ now then
      let judged := { r with progress := ageVerdict unmarshalMessage now r.data }
      some { s with clock := now, receipts := s.receipts.set i judged }
    else none
  | .evictExpired now =>
    if s.clock ≤ now then some { s with clock := now, seen := s.seen.sweep maxMessageAge now }
    else none

inductive Move [DecidableEq H] (s : Gate H) : Gate H → Prop
  | repeated {data : Bytes} {checkedAt recordedAt : Int} (later : s.clock ≤ checkedAt)
      (onward : checkedAt ≤ recordedAt) :
      Move s ⟨recordedAt, s.seen, s.receipts ++ [⟨data, checkedAt, .duplicate⟩]⟩
  | admitted {data : Bytes} {checkedAt recordedAt : Int} (later : s.clock ≤ checkedAt)
      (onward : checkedAt ≤ recordedAt)
      (forgotten : ∀ since, s.seen (hash data) = some since → maxMessageAge < checkedAt - since) :
      Move s ⟨recordedAt, s.seen.record (hash data) recordedAt,
        s.receipts ++ [⟨data, checkedAt, .admitted⟩]⟩
  | judged {i : Nat} {now : Int} {r : Receipt} (here : s.receipts[i]? = some r)
      (waiting : r.progress = .admitted) (later : s.clock ≤ now) :
      Move s ⟨now, s.seen,
        s.receipts.set i { r with progress := ageVerdict unmarshalMessage now r.data }⟩
  | evicted {now : Int} (later : s.clock ≤ now) :
      Move s ⟨now, s.seen.sweep maxMessageAge now, s.receipts⟩

structure Timed (clock : Int) (receipts : List Receipt) : Prop where
  clock : ∀ (i : Nat) (r : Receipt), receipts[i]? = some r → r.receivedAt ≤ clock
  order : ∀ (i j : Nat) (r r' : Receipt), i ≤ j → receipts[i]? = some r →
    receipts[j]? = some r' → r.receivedAt ≤ r'.receivedAt

structure Windowed (s : Gate H) : Prop where
  timed : Timed s.clock s.receipts
  held : ∀ (i : Nat) (r : Receipt), s.receipts[i]? = some r → r.progress ≠ .duplicate →
    (∃ since, s.seen (hash r.data) = some since ∧ r.receivedAt ≤ since) ∨
      maxMessageAge < s.clock - r.receivedAt
  apart : ∀ (i j : Nat) (r r' : Receipt), i < j → s.receipts[i]? = some r →
    s.receipts[j]? = some r' → r.data = r'.data → r.progress ≠ .duplicate →
    r'.progress ≠ .duplicate → maxMessageAge < r'.receivedAt - r.receivedAt
  recent : ∀ (i : Nat) (r : Receipt), s.receipts[i]? = some r → r.progress = .passed →
    ∃ envelope, unmarshalMessage r.data = .ok envelope ∧
      r.receivedAt - asTime envelope.timestamp ≤ maxMessageAge

end

variable {hash : Bytes → H} {unmarshalMessage : Bytes → Except String AuthMessage}
  {s s' : Gate H} {action : Action}

theorem move_of_step [DecidableEq H] (taken : step hash unmarshalMessage s action = some s') :
    Move hash unmarshalMessage s s' := by
  cases action with
  | receive data checkedAt recordedAt =>
    simp only [step] at taken
    split at taken
    · rename_i times
      cases held : s.seen (hash data) with
      | none =>
        simp only [isDuplicateBetween, held] at taken
        cases taken
        exact .admitted times.1 times.2 fun since found => by simp [held] at found
      | some since =>
        by_cases remembered : checkedAt - since ≤ maxMessageAge
        · simp only [isDuplicateBetween, held, remembered, if_true] at taken
          cases taken
          exact .repeated times.1 times.2
        · simp only [isDuplicateBetween, held, remembered, if_false] at taken
          cases taken
          refine .admitted times.1 times.2 fun since' found => ?_
          rw [held, Option.some.injEq] at found
          omega
    · cases taken
  | checkAge i now =>
    simp only [step, Option.bind_eq_bind, Option.bind_eq_some_iff] at taken
    obtain ⟨r, here, taken⟩ := taken
    split at taken
    · rename_i ready
      cases taken
      exact .judged here ready.1 ready.2
    · cases taken
  | evictExpired now =>
    simp only [step] at taken
    split at taken
    · rename_i later
      cases taken
      exact .evicted later
    · cases taken

variable {now recordedAt checkedAt : Int} {data : Bytes} {i : Nat} {r : Receipt}

theorem recent_of_passed (passed : ageVerdict unmarshalMessage now data = .passed) :
    ∃ envelope, unmarshalMessage data = .ok envelope ∧
      now - asTime envelope.timestamp ≤ maxMessageAge := by
  unfold ageVerdict at passed
  split at passed
  · cases passed
  · rename_i envelope unmarshalled
    split at passed
    · cases passed
    · exact ⟨envelope, unmarshalled, by omega⟩

theorem Timed.append {clock : Int} {receipts : List Receipt} {new : Receipt}
    (timed : Timed clock receipts) (later : clock ≤ new.receivedAt)
    (onward : new.receivedAt ≤ recordedAt) : Timed recordedAt (receipts ++ [new]) := by
  constructor
  · intro i r there
    rcases append_some there with ⟨-, rfl⟩ | old
    · exact onward
    · have := timed.clock i r old
      omega
  · intro i j r r' before there there'
    rcases append_some there with ⟨rfl, rfl⟩ | old
    · -- No call comes after the last one.
      rcases append_some there' with ⟨-, rfl⟩ | old'
      · exact le_refl _
      · have := lt_of_some old'
        omega
    · rcases append_some there' with ⟨-, rfl⟩ | old'
      · have := timed.clock i r old
        omega
      · exact timed.order i j r r' before old old'

section

variable (windowed : Windowed hash unmarshalMessage s)

include windowed

theorem Windowed.append_duplicate (later : s.clock ≤ checkedAt) (onward : checkedAt ≤ recordedAt) :
    Windowed hash unmarshalMessage
      ⟨recordedAt, s.seen, s.receipts ++ [⟨data, checkedAt, .duplicate⟩]⟩ := by
  refine ⟨windowed.timed.append later onward, fun i r there let_in => ?_,
    fun i j r r' before there there' same let_in let_in' => ?_, fun i r there passed => ?_⟩
  · rcases append_some there with ⟨-, rfl⟩ | old
    · exact absurd rfl let_in
    · refine (windowed.held i r old let_in).imp id fun late => ?_
      show maxMessageAge < recordedAt - r.receivedAt
      omega
  · rcases append_some there with ⟨-, rfl⟩ | old
    · exact absurd rfl let_in
    · rcases append_some there' with ⟨-, rfl⟩ | old'
      · exact absurd rfl let_in'
      · exact windowed.apart i j r r' before old old' same let_in let_in'
  · rcases append_some there with ⟨-, rfl⟩ | old
    · cases passed
    · exact windowed.recent i r old passed

theorem Windowed.late (later : s.clock ≤ checkedAt)
    (forgotten : ∀ since, s.seen (hash data) = some since → maxMessageAge < checkedAt - since)
    (there : s.receipts[i]? = some r) (let_in : r.progress ≠ .duplicate) (same : r.data = data) :
    maxMessageAge < checkedAt - r.receivedAt := by
  rcases windowed.held i r there let_in with ⟨since, held, after⟩ | late
  · have old := forgotten since (same ▸ held)
    omega
  · omega

theorem Windowed.append_admitted [DecidableEq H] (later : s.clock ≤ checkedAt)
    (onward : checkedAt ≤ recordedAt)
    (forgotten : ∀ since, s.seen (hash data) = some since → maxMessageAge < checkedAt - since) :
    Windowed hash unmarshalMessage ⟨recordedAt, s.seen.record (hash data) recordedAt,
      s.receipts ++ [⟨data, checkedAt, .admitted⟩]⟩ := by
  have timed : Timed recordedAt (s.receipts ++ [⟨data, checkedAt, .admitted⟩]) :=
    windowed.timed.append later onward
  refine ⟨timed, fun i r there let_in => ?_,
    fun i j r r' before there there' same let_in let_in' => ?_, fun i r there passed => ?_⟩
  · by_cases same : hash r.data = hash data
    · exact .inl ⟨recordedAt, by simp [Seen.record, same], timed.clock i r there⟩
    · rcases append_some there with ⟨-, rfl⟩ | old
      · exact absurd rfl same
      · -- What is remembered of other messages stays.
        rcases windowed.held i r old let_in with ⟨since, held, after⟩ | late
        · exact .inl ⟨since, by simpa [Seen.record, same] using held, after⟩
        · refine .inr ?_
          show maxMessageAge < recordedAt - r.receivedAt
          omega
  · rcases append_some there with ⟨rfl, rfl⟩ | old
    · -- No call comes after the last one.
      have := lt_of_some there'
      simp only [List.length_append, List.length_singleton] at this
      omega
    · rcases append_some there' with ⟨rfl, rfl⟩ | old'
      · exact windowed.late later forgotten old let_in same
      · exact windowed.apart i j r r' before old old' same let_in let_in'
  · rcases append_some there with ⟨-, rfl⟩ | old
    · cases passed
    · exact windowed.recent i r old passed

theorem Windowed.set_judged (here : s.receipts[i]? = some r) (waiting : r.progress = .admitted)
    (later : s.clock ≤ now) :
    Windowed hash unmarshalMessage ⟨now, s.seen,
      s.receipts.set i { r with progress := ageVerdict unmarshalMessage now r.data }⟩ := by
  have let_in : r.progress ≠ .duplicate := by simp [waiting]
  have was : ∀ {j : Nat} {r' : Receipt},
      (s.receipts.set i { r with progress := ageVerdict unmarshalMessage now r.data })[j]?
        = some r' → ∃ old, s.receipts[j]? = some old ∧ old.data = r'.data ∧
          old.receivedAt = r'.receivedAt ∧ (r'.progress ≠ .duplicate → old.progress ≠ .duplicate)
          ∧ (r'.progress = .passed → old = r' ∨
            ageVerdict unmarshalMessage now r'.data = .passed) := by
    intro j r' there
    rcases set_some there with ⟨rfl, rfl⟩ | ⟨-, old⟩
    · exact ⟨r, here, rfl, rfl, fun _ => let_in, fun passed => .inr passed⟩
    · exact ⟨r', old, rfl, rfl, id, fun _ => .inl rfl⟩
  refine ⟨⟨fun j r' there => ?_, fun j k r₁ r₂ inOrder there there' => ?_⟩,
    fun j r' there let_in' => ?_, fun j k r₁ r₂ inOrder there there' same let_in₁ let_in₂ => ?_,
    fun j r' there passed => ?_⟩
  · obtain ⟨old, before, -, time, -⟩ := was there
    have := windowed.timed.clock j old before
    show r'.receivedAt ≤ now
    omega
  · obtain ⟨old₁, before₁, -, time₁, -⟩ := was there
    obtain ⟨old₂, before₂, -, time₂, -⟩ := was there'
    rw [← time₁, ← time₂]
    exact windowed.timed.order j k old₁ old₂ inOrder before₁ before₂
  · obtain ⟨old, before, data, time, admitted, -⟩ := was there
    rw [← data, ← time]
    refine (windowed.held j old before (admitted let_in')).imp id fun late => ?_
    show maxMessageAge < now - old.receivedAt
    omega
  · obtain ⟨old₁, before₁, data₁, time₁, admitted₁, -⟩ := was there
    obtain ⟨old₂, before₂, data₂, time₂, admitted₂, -⟩ := was there'
    rw [← time₁, ← time₂]
    exact windowed.apart j k old₁ old₂ inOrder before₁ before₂ (by rw [data₁, data₂, same])
      (admitted₁ let_in₁) (admitted₂ let_in₂)
  · obtain ⟨old, before, -, time, -, verdict⟩ := was there
    rcases verdict passed with rfl | aged
    · exact windowed.recent j old before passed
    · obtain ⟨envelope, unmarshalled, recent⟩ := recent_of_passed aged
      have := windowed.timed.clock j old before
      exact ⟨envelope, unmarshalled, by omega⟩

theorem Windowed.evicted (later : s.clock ≤ now) :
    Windowed hash unmarshalMessage ⟨now, s.seen.sweep maxMessageAge now, s.receipts⟩ := by
  refine ⟨⟨fun i r there => ?_, windowed.timed.order⟩, fun i r there let_in => ?_, windowed.apart,
    windowed.recent⟩
  · exact le_trans (windowed.timed.clock i r there) later
  · rcases windowed.held i r there let_in with ⟨since, held, after⟩ | late
    · by_cases old : now - since > maxMessageAge
      · refine .inr ?_
        show maxMessageAge < now - r.receivedAt
        omega
      · exact .inl ⟨since, by simp [Seen.sweep, held, old], after⟩
    · refine .inr ?_
      show maxMessageAge < now - r.receivedAt
      omega

theorem Windowed.step [DecidableEq H] (move : Move hash unmarshalMessage s s') :
    Windowed hash unmarshalMessage s' := by
  cases move with
  | repeated later onward => exact windowed.append_duplicate later onward
  | admitted later onward forgotten => exact windowed.append_admitted later onward forgotten
  | judged here waiting later => exact windowed.set_judged here waiting later
  | evicted later => exact windowed.evicted later

theorem Windowed.unique {first : Receipt} {envelope : AuthMessage}
    (receipt : s.receipts.find? (fun r => decide (r.data = data)) = some first)
    (opened : unmarshalMessage data = .ok envelope)
    (past : asTime envelope.timestamp ≤ first.receivedAt) {j : Nat} {r' : Receipt} (before : i < j)
    (there : s.receipts[i]? = some r) (there' : s.receipts[j]? = some r') (same : r.data = data)
    (same' : r'.data = data) (passed : r.progress = .passed) : r'.progress ≠ .passed := by
  intro passed'
  have apart := windowed.apart i j r r' before there there' (same.trans same'.symm)
    (by simp [passed]) (by simp [passed'])
  obtain ⟨envelope', opened', recent⟩ := windowed.recent j r' there' passed'
  rw [same', opened, Except.ok.injEq] at opened'
  subst opened'
  have earliest : first.receivedAt ≤ r.receivedAt := by
    rw [List.find?_eq_some_iff_getElem] at receipt
    obtain ⟨-, m, bound, at_m, others⟩ := receipt
    rcases Nat.lt_or_ge i m with less | least
    · have clash := others i less
      rw [(List.getElem?_eq_some_iff.mp there).2] at clash
      simp [same] at clash
    · exact windowed.timed.order m i first r least
        (List.getElem?_eq_some_iff.mpr ⟨bound, at_m⟩) there
  omega

end

/-- A message passes the checks against replay at most once. -/
theorem passes_at_most_once [DecidableEq H] {clock : Int}
    (reached : Reach (step hash unmarshalMessage) (fun _ _ => True) (start clock) s) {data : Bytes}
    {first : Receipt} {envelope : AuthMessage}
    (receipt : s.receipts.find? (fun r => decide (r.data = data)) = some first)
    (opened : unmarshalMessage data = .ok envelope)
    (past : asTime envelope.timestamp ≤ first.receivedAt) {i j : Nat} {r r' : Receipt}
    (there : s.receipts[i]? = some r) (there' : s.receipts[j]? = some r') (same : r.data = data)
    (same' : r'.data = data) (passed : r.progress = .passed) (passed' : r'.progress = .passed) :
    i = j := by
  have windowed : Windowed hash unmarshalMessage s := by
    refine reached.invariant (Windowed hash unmarshalMessage) ?_ ?_
    · refine ⟨⟨?_, ?_⟩, ?_, ?_, ?_⟩ <;> simp [start]
    · intro s action s' before _ taken
      exact before.step (move_of_step taken)
  rcases Nat.lt_trichotomy i j with less | equal | more
  · exact absurd passed' (windowed.unique receipt opened past less there there' same same' passed)
  · exact equal
  · exact absurd passed (windowed.unique receipt opened past more there' there same' same passed')

def sentAtZero : Bytes → Except String AuthMessage := fun _ =>
  .ok ⟨"new_member", [], "node-a", some (.new 0), none⟩

def replayed : List Action :=
  [.receive [1] 0 1, .checkAge 0 2, .receive [1] 5 5, .evictExpired (maxMessageAge + 2),
    .receive [1] (maxMessageAge + 2) (maxMessageAge + 2), .checkAge 2 (maxMessageAge + 2)]

/-- The message passes once, and the call that comes after the eviction finds it too old. -/
theorem passes_at_most_once_replayed :
    ∃ s : Gate Bytes, Reach (step id sentAtZero) (fun _ _ => True) (start 0) s ∧
      s.receipts.map Receipt.progress = [.passed, .duplicate, .dropped] ∧
      ∀ (i j : Nat) (r r' : Receipt), s.receipts[i]? = some r → s.receipts[j]? = some r' →
        r.data = [1] → r'.data = [1] → r.progress = .passed → r'.progress = .passed → i = j := by
  obtain ⟨s, reached, progress, receipt⟩ := Reach.exists_of_actions (step id sentAtZero) (start 0)
    replayed
    (fun s => s.receipts.map Receipt.progress = [.passed, .duplicate, .dropped] ∧
      s.receipts.find? (fun r => decide (r.data = [1])) = some ⟨[1], 0, .passed⟩)
    (by decide +kernel)
  refine ⟨s, reached, progress, fun i j r r' there there' same same' passed passed' => ?_⟩
  exact passes_at_most_once reached receipt rfl (by decide) there there' same same' passed passed'

end Gate

end Falak.Auth

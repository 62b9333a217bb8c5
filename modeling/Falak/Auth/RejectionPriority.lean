import Falak.Auth.Voucher

/-!
The priority of rejections: a join whose node was rejected while it waited is not answered with
success.
-/

namespace Falak.Auth

variable {K C : Type}

structure Join.Obeys (j : Join) : Prop where
  fails : j.refused = true → j.answer = none → j.pending.Doomed
  failed : j.refused = true → j.answer ≠ some true

variable {j : Join}

theorem Join.obeys_of_unrefused (unrefused : j.refused = false) : j.Obeys := by
  constructor <;> simp [unrefused]

theorem Join.obeys_of_answer {ok : Bool} (answered : j.answer = some ok)
    (failed : j.refused = true → ok = false) : j.Obeys := by
  constructor
  · intro _ undecided
    rw [answered] at undecided
    cases undecided
  · intro refused succeeded
    rw [answered, failed refused] at succeeded
    cases succeeded

namespace Voucher

def Heeded (a : Authenticator K C) (s : Voucher) : Action K → Prop
  | .rejected lookup clusterPath payload =>
    ∀ r, verifyRejected a lookup clusterPath payload = .ok r →
      ∀ (i : Nat) (j : Join), s.joins[i]? = some j → j.nodeID = r.newNodeID →
        j.clusterPath = clusterPath → j.answer = none →
        j.pending.InTime (s.pendingAuth (pendingKey r.newNodeID clusterPath) = some i)
  | _ => True

def Obedient (s : Voucher) : Prop := ∀ (i : Nat) (j : Join), s.joins[i]? = some j → j.Obeys

variable {a : Authenticator K C} {s s' : Voucher} {i : Nat} {j : Join} {action : Action K}

theorem Obedient.set (obedient : s.Obedient) (obeys : j.Obeys) (pendingAuth : String → Option Nat) :
    Obedient ⟨s.joins.set i j, pendingAuth⟩ := by
  intro k j' there
  rcases set_some there with ⟨-, rfl⟩ | ⟨-, before⟩
  · exact obeys
  · exact obedient k j' before

theorem obeys_refuse {nodeID clusterPath : String} (before : j.Obeys)
    (doomed : j.nodeID = nodeID → j.clusterPath = clusterPath → j.answer = none →
      j.pending.Doomed) : (refuse nodeID clusterPath j).Obeys := by
  unfold refuse
  split
  · rename_i concerned
    obtain ⟨node, cluster, undecided⟩ := concerned
    refine ⟨fun _ _ => doomed node cluster undecided, fun _ answered => ?_⟩
    -- The join is not decided by the rejection.
    have decided : j.answer = some true := answered
    rw [undecided] at decided
    cases decided
  · exact before

theorem obeys_noted (obeys : j.Obeys) {pending : PendingAuth}
    (fails : j.pending.Doomed → pending.Doomed) : Join.Obeys { j with pending := pending } :=
  ⟨fun refused undecided => fails (obeys.fails refused undecided), obeys.failed⟩

theorem Obedient.step (obedient : s.Obedient) (heeded : Heeded a s action)
    (taken : Voucher.step a s action = some s') : s'.Obedient := by
  cases action with
  | begin nodeID clusterPath =>
    -- The new join starts without a rejection.
    cases taken
    intro k j there
    rcases append_some there with ⟨-, rfl⟩ | before
    · exact Join.obeys_of_unrefused rfl
    · exact obedient k j before
  | broadcast i sent =>
    obtain ⟨j, here, moved⟩ := Option.bind_eq_some_iff.mp taken
    have obeys := obedient i j here
    split at moved
    · rename_i phase
      cases moved
      apply obedient.set
      cases sent with
      | false => exact Join.obeys_of_answer rfl fun _ => rfl
      | true =>
        -- The join was undecided before, and still is.
        have undecided : j.answer = none := by simp [Join.answer, phase]
        exact ⟨fun refused _ => obeys.fails refused undecided, fun _ => nofun⟩
    · cases moved
  | receive i =>
    obtain ⟨j, here, rest⟩ := Option.bind_eq_some_iff.mp taken
    obtain ⟨⟨result, pending⟩, received, moved⟩ := Option.bind_eq_some_iff.mp rest
    have obeys := obedient i j here
    dsimp only at moved
    split at moved
    · rename_i phase
      cases moved
      apply obedient.set
      apply Join.obeys_of_answer rfl
      -- The result that was waiting reports a failure.
      intro refused
      have doomed := obeys.fails refused (by simp [Join.answer, phase])
      exact doomed.unconfirmed result (PendingAuth.mem_of_receive received)
    · cases moved
  | timeout i =>
    obtain ⟨j, here, moved⟩ := Option.bind_eq_some_iff.mp taken
    have obeys := obedient i j here
    split at moved
    · rename_i phase
      cases moved
      apply obedient.set
      apply Join.obeys_of_answer rfl
      -- The rejection that was noted is counted.
      intro refused
      have doomed := obeys.fails refused (by simp [Join.answer, phase])
      have counted := Nat.pos_of_ne_zero doomed.noted
      simp [Verdict.proceeds, PendingAuth.timeout, counted]
    · cases moved
  | finish i =>
    obtain ⟨j, here, moved⟩ := Option.bind_eq_some_iff.mp taken
    have obeys := obedient i j here
    split at moved
    · rename_i ok phase
      cases moved
      apply obedient.set
      apply Join.obeys_of_answer rfl
      intro refused
      have failed := obeys.failed refused
      simpa [Join.answer, phase] using failed
    · cases moved
  | confirmed lookup clusterPath payload =>
    cases verified : verifyConfirmed a lookup clusterPath payload with
    | error log =>
      simp only [Voucher.step, verified] at taken
      cases taken
      exact obedient
    | ok c =>
      simp only [Voucher.step, verified] at taken
      cases taken
      intro k j' there
      simp only [getElem?_record, Option.map_eq_some_iff] at there
      obtain ⟨j, before, rfl⟩ := there
      apply obeys_noted (obedient k j before)
      intro doomed
      split
      · exact doomed.confirm c
      · exact doomed
  | rejected lookup clusterPath payload =>
    cases verified : verifyRejected a lookup clusterPath payload with
    | error log =>
      simp only [Voucher.step, verified] at taken
      cases taken
      exact obedient
    | ok r =>
      simp only [Voucher.step, verified] at taken
      cases taken
      intro k j' there
      simp only [List.getElem?_map, getElem?_record, Option.map_eq_some_iff] at there
      obtain ⟨-, ⟨j, before, rfl⟩, rfl⟩ := there
      apply obeys_refuse
      · apply obeys_noted (obedient k j before)
        intro doomed
        exact PendingAuth.doomed_iff_inTime.mpr ⟨.inr doomed.noted, doomed.unconfirmed⟩
      · intro node cluster undecided
        have inTime := heeded r verified k j before node cluster undecided
        exact PendingAuth.doomed_iff_inTime.mpr inTime

theorem answered_of_waiting (here : s.joins[i]? = some j) (phase : j.phase = .waiting)
    (free : ¬ j.pending.Doomed) :
    ∃ action s', step a s action = some s' ∧
      ∃ j', s'.joins[i]? = some j' ∧ j'.answer = some true ∧ j'.refused = j.refused := by
  have within := lt_of_some here
  by_cases confirmed : ∃ result ∈ j.pending.done.buf, result.confirmed = true
  · -- The success that waits is taken.
    obtain ⟨result, waiting, success⟩ := confirmed
    obtain ⟨pending, received⟩ := PendingAuth.receive_of_mem waiting
    let decided : Join :=
      { j with pending := pending, phase := .answered (Verdict.done result).proceeds }
    have taken : step a s (.receive i) = some { s with joins := s.joins.set i decided } := by
      simp [step, here, received, phase, decided]
    refine ⟨_, _, taken, decided, List.getElem?_set_self within, ?_, rfl⟩
    simp [Join.answer, Verdict.proceeds, success, decided]
  · have unnoted : j.pending.rejections.entries.length = 0 := by
      by_contra noted
      refine free ⟨noted, fun result waiting => ?_⟩
      cases value : result.confirmed with
      | false => rfl
      | true => exact absurd ⟨result, waiting, value⟩ confirmed
    let decided : Join := { j with phase := .answered j.pending.timeout.proceeds }
    have taken : step a s (.timeout i) = some { s with joins := s.joins.set i decided } := by
      simp [step, here, phase, decided]
    refine ⟨_, _, taken, decided, List.getElem?_set_self within, ?_, rfl⟩
    simp [Join.answer, Verdict.proceeds, PendingAuth.timeout, unnoted, decided]

theorem answered_of_undecided (here : s.joins[i]? = some j) (undecided : j.answer = none)
    (free : ¬ j.pending.Doomed) :
    ∃ s', Reach (step a) (fun _ _ => True) s s' ∧
      ∃ j', s'.joins[i]? = some j' ∧ j'.answer = some true ∧ j'.refused = j.refused := by
  have within := lt_of_some here
  cases phase : j.phase with
  | broadcasting =>
    -- The announcement is broadcast first.
    let waits : Join := { j with phase := .waiting }
    let announced : Voucher := { s with joins := s.joins.set i waits }
    have taken : step a s (.broadcast i true) = some announced := by
      simp [step, here, phase, waits, announced]
    have waiting : announced.joins[i]? = some waits := List.getElem?_set_self within
    obtain ⟨action, s', answered, j', there, success, same⟩ :=
      answered_of_waiting (a := a) waiting rfl free
    exact ⟨s', .next (.next .start trivial taken) trivial answered, j', there, success, same⟩
  | waiting =>
    obtain ⟨action, s', answered, outcome⟩ := answered_of_waiting (a := a) here phase free
    exact ⟨s', .next .start trivial answered, outcome⟩
  | answered | returned => simp [Join.answer, phase] at undecided

theorem answered_of_unheeded (unheeded : ¬ Heeded a s action) (taken : step a s action = some s') :
    ∃ s'', Reach (step a) (fun _ _ => True) s' s'' ∧
      ∃ j ∈ s''.joins, j.answer = some true ∧ j.refused = true := by
  cases action with
  | rejected lookup clusterPath payload =>
    simp only [Heeded, not_forall] at unheeded
    obtain ⟨r, verified, i, j, here, node, cluster, undecided, late⟩ := unheeded
    simp only [step, verified] at taken
    cases taken
    let position := s.pendingAuth (pendingKey r.newNodeID clusterPath)
    let pending := if position = some i then j.pending.reject r else j.pending
    have free : ¬ pending.Doomed := fun doomed => late (PendingAuth.doomed_iff_inTime.mp doomed)
    have marked : refuse r.newNodeID clusterPath { j with pending := pending }
        = { j with pending := pending, refused := true } := if_pos ⟨node, cluster, undecided⟩
    let joins := record position (·.reject r) s.joins
    let after : Voucher := { s with joins := joins.map (refuse r.newNodeID clusterPath) }
    have there : after.joins[i]? = some { j with pending := pending, refused := true } := by
      simp only [after, joins, List.getElem?_map, getElem?_record, here, Option.map_some]
      exact congrArg some marked
    obtain ⟨s'', reached, j', there, success, same⟩ :=
      answered_of_undecided (a := a) there undecided free
    exact ⟨s'', reached, j', List.mem_of_getElem? there, success, same⟩
  | _ => exact absurd trivial unheeded

/-- A rejection has priority in every run in which each comes in time. -/
theorem rejection_has_priority (a : Authenticator K C) {s : Voucher}
    (reached : Reach (step a) (Heeded a) new s) :
    (∀ j ∈ s.joins, ∀ ok, j.answer = some ok → j.refused = true → ok = false) ∧
      ∀ action s', ¬ Heeded a s action → step a s action = some s' →
        ∃ s'', Reach (step a) (fun _ _ => True) s' s'' ∧
          ∃ j ∈ s''.joins, j.answer = some true ∧ j.refused = true := by
  refine ⟨?_, fun action s' unheeded taken => answered_of_unheeded unheeded taken⟩
  have obedient : s.Obedient := by
    refine reached.invariant Obedient (by simp [Obedient, new]) ?_
    intro s action s' before heeded taken
    exact before.step heeded taken
  intro j there ok answered refused
  obtain ⟨i, here⟩ := List.mem_iff_getElem?.mp there
  have failed := (obedient i j here).failed refused
  cases ok with
  | false => rfl
  | true => exact absurd answered failed

def everyone : Lookup Bytes := fun _ _ => .ok [1]

def verdicts (s : Voucher) : List (Option Bool × Bool) := s.joins.map fun j => (j.answer, j.refused)

/-- A join that is confirmed before it is rejected succeeds. -/
theorem rejection_overtaken :
    (∃ s, Reach (step plainVoucher) (fun _ _ => True) new s ∧ s.verdicts = [(some true, true)]) ∧
      ∃ s, Reach (step plainVoucher) (fun _ _ => True) new s ∧
        s.verdicts = [(some true, true), (none, true)] := by
  constructor
  · exact Reach.exists_of_actions _ _
      [.begin "node-n" "r/d/c", .broadcast 0 true, .confirmed everyone "r/d/c" [],
        .rejected everyone "r/d/c" [], .receive 0] _ (by decide +kernel)
  · exact Reach.exists_of_actions _ _
      [.begin "node-n" "r/d/c", .broadcast 0 true, .begin "node-n" "r/d/c", .broadcast 1 true,
        .rejected everyone "r/d/c" [], .timeout 0] _ (by decide +kernel)

/-- A join that is rejected before anyone confirms it fails. -/
theorem rejection_has_priority_alone :
    ∃ s, Reach (step plainVoucher) (Heeded plainVoucher) new s ∧ s.verdicts = [(some false, true)] ∧
      ∀ j ∈ s.joins, ∀ ok, j.answer = some ok → j.refused = true → ok = false := by
  let waiting : Join := ⟨"node-n", "r/d/c", .new, .waiting, false⟩
  let before : Voucher := ⟨[waiting], Function.update (fun _ => none) "node-n:r/d/c" (some 0)⟩
  have begun : Reach (step plainVoucher) (Heeded plainVoucher) new before :=
    .next (a := .broadcast 0 true) (.next (a := .begin "node-n" "r/d/c") .start trivial rfl)
      trivial rfl
  have heeded : Heeded plainVoucher before (.rejected everyone "r/d/c" []) := by
    intro r verified i j here _ _ _
    obtain rfl := Except.ok.inj verified
    cases i with
    | succ n => cases here
    | zero =>
      cases here
      exact ⟨.inl (by decide), by simp [waiting, PendingAuth.new, Chan.make]⟩
  have rejected : step plainVoucher before (.rejected everyone "r/d/c" []) = some _ := rfl
  have reached : Reach (step plainVoucher) (Heeded plainVoucher) new _ :=
    .next (a := .receive 0) (.next begun heeded rejected) trivial rfl
  exact ⟨_, reached, by decide +kernel, (rejection_has_priority plainVoucher reached).1⟩

end Voucher

end Falak.Auth

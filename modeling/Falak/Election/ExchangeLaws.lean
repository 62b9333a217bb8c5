import Falak.Election.Exchange
import Falak.Lib.Entry

/-! Where every message on a topic is, from its arrival until it has been offered to a listener. -/

namespace Falak.Election.Exchange

open ClusterTopic

variable {w w' : Exchange} {call : Call}

def Recorded (w : Exchange) (a : Arrival) (r : Arrived) : Prop :=
  w.arrivals[a.id]? = some r ∧ r.message = a.message

def Unanswered (w : Exchange) (r : Arrived) : Prop :=
  ∀ (l : Nat) (c : Listened), r.listens ≤ l → w.listens[l]? = some c → c.key ≠ r.message.key

structure Answers (w : Exchange) (r : Arrived) (l : Nat) : Prop where
  after : r.listens ≤ l
  call : ∃ c, w.listens[l]? = some c ∧ c.key = r.message.key
  first : ∀ (l' : Nat) (c : Listened), r.listens ≤ l' → l' < l → w.listens[l']? = some c →
    c.key ≠ r.message.key

variable {a : Arrival} {r : Arrived} {l : Nat}

theorem Recorded.lt (recorded : Recorded w a r) : a.id < w.arrivals.length :=
  lt_of_some recorded.1

theorem Recorded.unique {b : Arrival} {s : Arrived} (first : Recorded w a r)
    (second : Recorded w b s) (same : a.id = b.id) : r = s := by
  have record := first.1
  rw [same, second.1] at record
  exact (Option.some.inj record).symm

theorem Answers.unique {l' : Nat} (one : Answers w r l) (other : Answers w r l') : l = l' := by
  obtain ⟨c, call, key⟩ := one.call
  obtain ⟨c', call', key'⟩ := other.call
  rcases Nat.lt_trichotomy l l' with less | same | more
  · exact absurd key (other.first l c one.after less call)
  · exact same
  · exact absurd key' (one.first l' c' other.after more call')

theorem Answers.lt (answers : Answers w r l) : l < w.listens.length := by
  obtain ⟨c, call, -⟩ := answers.call
  exact lt_of_some call

structure Extends (w w' : Exchange) : Prop where
  arrivals : w.arrivals <+: w'.arrivals
  listens : w.listens <+: w'.listens
  offers : w.offers <+: w'.offers

theorem Move.extends (move : Move w call w') : Extends w w' := by
  cases move with
  | tick | cancel | close | takeClaim | takeFailure | sweep =>
    exact ⟨List.prefix_rfl, List.prefix_rfl, List.prefix_rfl⟩
  | buffer | route => exact ⟨List.prefix_append _ _, List.prefix_rfl, List.prefix_rfl⟩
  | dispatch | replay => exact ⟨List.prefix_rfl, List.prefix_rfl, List.prefix_append _ _⟩
  | listen => exact ⟨List.prefix_rfl, List.prefix_append _ _, List.prefix_rfl⟩

theorem Recorded.extend (longer : Extends w w') (recorded : Recorded w a r) : Recorded w' a r := by
  refine ⟨?_, recorded.2⟩
  rw [entry_of_grown longer.arrivals recorded.lt]
  exact recorded.1

theorem Answers.extend (longer : Extends w w') (answers : Answers w r l) : Answers w' r l := by
  obtain ⟨c, call, key⟩ := answers.call
  refine ⟨answers.after, ⟨c, ?_, key⟩, ?_⟩
  · rw [entry_of_grown longer.listens answers.lt]
    exact call
  · intro l' c' after before call'
    rw [entry_of_grown longer.listens (Nat.lt_trans before answers.lt)] at call'
    exact answers.first l' c' after before call'

theorem Answers.restrict (longer : Extends w w') (answers : Answers w' r l)
    (early : l < w.listens.length) : Answers w r l := by
  obtain ⟨c, call, key⟩ := answers.call
  rw [entry_of_grown longer.listens early] at call
  refine ⟨answers.after, ⟨c, call, key⟩, ?_⟩
  intro l' c' after before call'
  rw [← entry_of_grown longer.listens (Nat.lt_trans before early)] at call'
  exact answers.first l' c' after before call'

theorem Unanswered.restrict (longer : Extends w w') (unanswered : Unanswered w' r) :
    Unanswered w r := by
  intro l c after call
  have early := lt_of_some call
  rw [← entry_of_grown longer.listens early] at call
  exact unanswered l c after call

structure Places (w : Exchange) : Prop where
  born : ∀ (n : Nat) (r : Arrived), w.arrivals[n]? = some r → r.listens ≤ w.listens.length
  buffered : ∀ key, ∀ m ∈ w.topic.buffered key, ∃ r, Recorded w m.arrival r ∧
    r.message.key = key ∧ r.receivedAt = m.receivedAt ∧ r.listener = none ∧ Unanswered w r
  bufferOrder : ∀ key, (w.topic.buffered key).Pairwise (·.arrival.id < ·.arrival.id)
  queued : ∀ l, ∀ m ∈ w.queued l, ∃ r, Recorded w m.arrival r ∧ r.listener = none ∧ Answers w r l
  queueOrder : ∀ l, (w.queued l).Pairwise (·.arrival.id < ·.arrival.id)
  dispatched : ∀ d ∈ w.dispatches, ∃ r, Recorded w d.1 r ∧ r.listener = some d.2
  apart : (w.dispatches.map (·.1.id)).Nodup

theorem unanswered_of_new (new : r.listens = w.listens.length) : Unanswered w r := by
  intro l c after call
  have bound := lt_of_some call
  omega

section

variable (places : Places w)
include places

theorem Places.born_step (move : Move w call w') (n : Nat) (r : Arrived)
    (here : w'.arrivals[n]? = some r) : r.listens ≤ w'.listens.length := by
  have more := move.extends.listens.length_le
  have old (before : w.arrivals[n]? = some r) : r.listens ≤ w'.listens.length :=
    Nat.le_trans (places.born n r before) more
  cases move with
  | buffer | route =>
    rcases append_some here with ⟨-, rfl⟩ | before
    · exact Nat.le_refl _
    · exact old before
  | _ => exact old here

theorem Places.buffered_step (move : Move w call w') (key : MessageKey)
    (m : BufferedMessage) (waiting : m ∈ w'.topic.buffered key) :
    ∃ r, Recorded w' m.arrival r ∧ r.message.key = key ∧ r.receivedAt = m.receivedAt ∧
      r.listener = none ∧ Unanswered w' r := by
  have longer := move.extends
  have old (before : m ∈ w.topic.buffered key)
      (still : ∀ r : Arrived, r.message.key = key → Unanswered w r → Unanswered w' r) :
      ∃ r, Recorded w' m.arrival r ∧ r.message.key = key ∧ r.receivedAt = m.receivedAt ∧
        r.listener = none ∧ Unanswered w' r := by
    obtain ⟨r, recorded, same, stamp, unheard, unanswered⟩ := places.buffered key m before
    exact ⟨r, recorded.extend longer, same, stamp, unheard, still r same unanswered⟩
  cases move with
  | @buffer m' unheard =>
    rw [receive_buffered unheard] at waiting
    split at waiting
    · rename_i same
      simp only [List.mem_append, List.mem_singleton] at waiting
      rcases waiting with before | rfl
      · exact old before fun _ _ unanswered => unanswered
      · exact ⟨_, ⟨List.getElem?_concat_length, rfl⟩, same.symm, rfl, rfl, unanswered_of_new rfl⟩
    · exact old waiting fun _ _ unanswered => unanswered
  | listen key' size =>
    simp only [Exchange.listen, listen_buffered] at waiting
    split at waiting
    · cases waiting
    · rename_i other
      refine old waiting fun r same unanswered => ?_
      intro l c after here
      rcases append_some here with ⟨-, rfl⟩ | before
      · exact fun clash => other (same ▸ clash.symm)
      · exact unanswered l c after before
  | cancel =>
    rw [unlisten_buffered] at waiting
    exact old waiting fun _ _ unanswered => unanswered
  | sweep => exact old (List.mem_of_mem_filter waiting) fun _ _ unanswered => unanswered
  | _ => exact old waiting fun _ _ unanswered => unanswered

theorem Places.bufferOrder_step (move : Move w call w') (key : MessageKey) :
    (w'.topic.buffered key).Pairwise (·.arrival.id < ·.arrival.id) := by
  have old := places.bufferOrder key
  cases move with
  | buffer unheard =>
    rw [receive_buffered unheard]
    split
    · refine pairwise_snoc old fun m waiting => ?_
      obtain ⟨r, recorded, -⟩ := places.buffered key m waiting
      exact recorded.lt
    · exact old
  | listen key' size =>
    simp only [Exchange.listen, listen_buffered]
    split
    · exact .nil
    · exact old
  | cancel =>
    rw [unlisten_buffered]
    exact old
  | sweep => exact old.filter _
  | _ => exact old

theorem Places.queued_step (move : Move w call w') (l : Nat)
    (m : BufferedMessage) (waiting : m ∈ w'.queued l) :
    ∃ r, Recorded w' m.arrival r ∧ r.listener = none ∧ Answers w' r l := by
  have longer := move.extends
  have old (before : m ∈ w.queued l) :
      ∃ r, Recorded w' m.arrival r ∧ r.listener = none ∧ Answers w' r l := by
    obtain ⟨r, recorded, unheard, answers⟩ := places.queued l m before
    exact ⟨r, recorded.extend longer, unheard, answers.extend longer⟩
  cases move with
  | listen key size =>
    simp only [Exchange.listen] at waiting
    by_cases new : l = w.listens.length
    · subst new
      rw [Function.update_self] at waiting
      obtain ⟨r, recorded, same, -, unheard, unanswered⟩ := places.buffered key m waiting
      refine ⟨r, recorded.extend longer, unheard, places.born _ r recorded.1, ?_, ?_⟩
      · exact ⟨_, List.getElem?_concat_length, same.symm⟩
      · intro l' c after before here
        rcases append_some here with ⟨last, -⟩ | there
        · omega
        · exact unanswered l' c after there
    · rw [Function.update_of_ne new] at waiting
      exact old waiting
  | @replay l' m' queued c next here =>
    by_cases same : l = l'
    · subst same
      simp only [offer, Function.update_self] at waiting
      exact old (next ▸ List.mem_cons_of_mem _ waiting)
    · simp only [offer, Function.update_of_ne same] at waiting
      exact old waiting
  | _ => exact old waiting

theorem Places.queueOrder_step (move : Move w call w') (l : Nat) :
    (w'.queued l).Pairwise (·.arrival.id < ·.arrival.id) := by
  have old := places.queueOrder l
  cases move with
  | listen key size =>
    simp only [Exchange.listen]
    by_cases new : l = w.listens.length
    · subst new
      rw [Function.update_self]
      exact places.bufferOrder key
    · rw [Function.update_of_ne new]
      exact old
  | @replay l' m' queued c next here =>
    by_cases same : l = l'
    · subst same
      simp only [offer, Function.update_self]
      rw [next] at old
      exact old.of_cons
    · simp only [offer, Function.update_of_ne same]
      exact old
  | _ => exact old

theorem Places.dispatched_step (move : Move w call w') (d : Arrival × Nat)
    (pending : d ∈ w'.dispatches) : ∃ r, Recorded w' d.1 r ∧ r.listener = some d.2 := by
  have longer := move.extends
  have old (before : d ∈ w.dispatches) : ∃ r, Recorded w' d.1 r ∧ r.listener = some d.2 := by
    obtain ⟨r, recorded, found⟩ := places.dispatched d before
    exact ⟨r, recorded.extend longer, found⟩
  cases move with
  | route found =>
    simp only [List.mem_append, List.mem_singleton] at pending
    rcases pending with before | rfl
    · exact old before
    · exact ⟨_, ⟨List.getElem?_concat_length, rfl⟩, rfl⟩
  | dispatch => exact old (List.mem_of_mem_erase pending)
  | _ => exact old pending

theorem Places.apart_step (move : Move w call w') :
    (w'.dispatches.map (·.1.id)).Nodup := by
  have old := places.apart
  cases move with
  | route found =>
    rw [List.map_append]
    refine pairwise_snoc old fun id pending => ?_
    obtain ⟨d, there, rfl⟩ := List.mem_map.mp pending
    obtain ⟨r, recorded, -⟩ := places.dispatched d there
    exact Nat.ne_of_lt recorded.lt
  | dispatch => exact old.sublist ((List.erase_sublist).map _)
  | _ => exact old

theorem Places.step (move : Move w call w') : Places w' :=
  ⟨places.born_step move, places.buffered_step move, places.bufferOrder_step move,
    places.queued_step move, places.queueOrder_step move, places.dispatched_step move,
    places.apart_step move⟩

end

end Falak.Election.Exchange

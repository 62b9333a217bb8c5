import Falak.Election.ExchangeLaws

/-! Each message on a topic is offered once at most, to the right listener, and not forgotten. -/

namespace Falak.Election.Exchange

open ClusterTopic

variable {w w' : Exchange} {call : Call}

def OfferedTo (w : Exchange) (a : Arrival) (l : Nat) : Prop :=
  ∃ o ∈ w.offers, o.arrival = a ∧ o.call = l

structure Fits (w : Exchange) (o : Offer) (r : Arrived) : Prop where
  recorded : Recorded w o.arrival r
  answers : o.replayed = true → r.listener = none ∧ Answers w r o.call
  found : o.replayed = false → r.listener = some o.call

structure Offers (w : Exchange) : Prop where
  fits : ∀ o ∈ w.offers, ∃ r, Fits w o r
  once : (w.offers.map (·.arrival.id)).Nodup
  order : w.offers.Pairwise fun o o' => o.replayed = true → o'.replayed = true →
    o.call = o'.call → o.arrival.id < o'.arrival.id
  later : ∀ o ∈ w.offers, o.replayed = true → ∀ m ∈ w.queued o.call, o.arrival.id < m.arrival.id
  pending : ∀ o ∈ w.offers, ∀ d ∈ w.dispatches, o.arrival.id ≠ d.1.id

theorem Fits.extend {o : Offer} {r : Arrived} (longer : Extends w w') (fits : Fits w o r) :
    Fits w' o r where
  recorded := fits.recorded.extend longer
  answers replayed :=
    ⟨(fits.answers replayed).1, (fits.answers replayed).2.extend longer⟩
  found := fits.found

section

variable (offers : Offers w)
include offers

theorem Offers.fresh (places : Places w) {l : Nat} {m : BufferedMessage}
    (waiting : m ∈ w.queued l) {o : Offer} (offered : o ∈ w.offers) :
    o.arrival.id ≠ m.arrival.id := by
  intro same
  obtain ⟨r, recorded, unheard, answers⟩ := places.queued l m waiting
  obtain ⟨s, fits⟩ := offers.fits o offered
  obtain rfl := fits.recorded.unique recorded same
  cases replayed : o.replayed with
  | false => simp [fits.found replayed] at unheard
  | true =>
    have call := (fits.answers replayed).2.unique answers
    have less := offers.later o offered replayed m (call ▸ waiting)
    omega

theorem Offers.fits_step (places : Places w) (move : Move w call w') (o : Offer)
    (offered : o ∈ w'.offers) : ∃ r, Fits w' o r := by
  have longer := move.extends
  have old (before : o ∈ w.offers) : ∃ r, Fits w' o r := by
    obtain ⟨r, fits⟩ := offers.fits o before
    exact ⟨r, fits.extend longer⟩
  cases move with
  | dispatch pending here =>
    simp only [offer, List.mem_append, List.mem_singleton] at offered
    rcases offered with before | rfl
    · exact old before
    · obtain ⟨r, recorded, found⟩ := places.dispatched _ pending
      exact ⟨r, recorded.extend longer, by simp, fun _ => found⟩
  | @replay l m queued c next here =>
    simp only [offer, List.mem_append, List.mem_singleton] at offered
    rcases offered with before | rfl
    · exact old before
    · obtain ⟨r, recorded, unheard, answers⟩ := places.queued l m (by simp [next])
      exact ⟨r, recorded.extend longer, fun _ => ⟨unheard, answers.extend longer⟩, by simp⟩
  | _ => exact old offered

theorem Offers.once_step (places : Places w) (move : Move w call w') :
    (w'.offers.map (·.arrival.id)).Nodup := by
  have old := offers.once
  have added (o : Offer) (new : ∀ o' ∈ w.offers, o'.arrival.id ≠ o.arrival.id) :
      ((w.offers ++ [o]).map (·.arrival.id)).Nodup := by
    rw [List.map_append]
    refine pairwise_snoc old fun id before => ?_
    obtain ⟨o', there, rfl⟩ := List.mem_map.mp before
    exact new o' there
  cases move with
  | dispatch pending here => exact added _ fun o' there => offers.pending o' there _ pending
  | @replay l m queued c next here =>
    have first : m ∈ w.queued l := by simp [next]
    exact added _ fun o' there => offers.fresh places first there
  | _ => exact old

theorem Offers.order_step (move : Move w call w') :
    w'.offers.Pairwise fun o o' => o.replayed = true → o'.replayed = true →
      o.call = o'.call → o.arrival.id < o'.arrival.id := by
  have old := offers.order
  cases move with
  | dispatch pending here =>
    exact pairwise_snoc old fun o there replayed replayed' => by cases replayed'
  | @replay l m queued c next here =>
    refine pairwise_snoc old fun o there replayed _ same => ?_
    exact offers.later o there replayed m (by simp [same, next])
  | _ => exact old

theorem Offers.later_step (places : Places w) (move : Move w call w')
    (o : Offer) (offered : o ∈ w'.offers) (replayed : o.replayed = true) (m : BufferedMessage)
    (waiting : m ∈ w'.queued o.call) : o.arrival.id < m.arrival.id := by
  have old (before : o ∈ w.offers) := offers.later o before replayed m
  cases move with
  | dispatch pending here =>
    simp only [offer, List.mem_append, List.mem_singleton] at offered
    rcases offered with before | rfl
    · exact old before waiting
    · cases replayed
  | listen key size =>
    -- The new call has not offered anything yet.
    obtain ⟨r, fits⟩ := offers.fits o offered
    have earlier := (fits.answers replayed).2.lt
    simp only [Exchange.listen, Function.update_of_ne (Nat.ne_of_lt earlier)] at waiting
    exact old offered waiting
  | @replay l m' queued c next here =>
    simp only [offer, List.mem_append, List.mem_singleton] at offered waiting
    rcases offered with before | rfl
    · by_cases same : o.call = l
      · rw [same, Function.update_self] at waiting
        exact old before (same ▸ next ▸ .tail _ waiting)
      · rw [Function.update_of_ne same] at waiting
        exact old before waiting
    · rw [Function.update_self] at waiting
      have sorted := places.queueOrder l
      rw [next] at sorted
      exact List.rel_of_pairwise_cons sorted waiting
  | _ => exact old offered waiting

theorem Offers.pending_step (places : Places w) (move : Move w call w')
    (o : Offer) (offered : o ∈ w'.offers) (d : Arrival × Nat) (waiting : d ∈ w'.dispatches) :
    o.arrival.id ≠ d.1.id := by
  have old (before : o ∈ w.offers) (there : d ∈ w.dispatches) := offers.pending o before d there
  cases move with
  | route found =>
    simp only [List.mem_append, List.mem_singleton] at waiting
    rcases waiting with before | rfl
    · exact old offered before
    · obtain ⟨r, fits⟩ := offers.fits o offered
      exact Nat.ne_of_lt fits.recorded.lt
  | @dispatch a l c pending here =>
    simp only [offer, List.mem_append, List.mem_singleton] at offered waiting
    rcases offered with before | rfl
    · exact old before (List.mem_of_mem_erase waiting)
    · intro same
      have nodup : w.dispatches.Nodup := places.apart.of_map _
      have other : d ≠ (a, l) := ((List.Nodup.mem_erase_iff nodup).mp waiting).1
      exact other (List.inj_on_of_nodup_map places.apart (List.mem_of_mem_erase waiting) pending
        same.symm)
  | @replay l m queued c next here =>
    simp only [offer, List.mem_append, List.mem_singleton] at offered
    rcases offered with before | rfl
    · exact old before waiting
    · intro same
      obtain ⟨r, recorded, unheard, -⟩ := places.queued l m (by simp [next])
      obtain ⟨s, recorded', found⟩ := places.dispatched d waiting
      obtain rfl := recorded.unique recorded' same
      simp [unheard] at found
  | _ => exact old offered waiting

theorem Offers.step (places : Places w) (move : Move w call w') : Offers w' :=
  ⟨offers.fits_step places move, offers.once_step places move, offers.order_step move,
    offers.later_step places move, offers.pending_step places move⟩

end

structure Covered (w : Exchange) : Prop where
  routed : ∀ (a : Arrival) (r : Arrived) (l : Nat), Recorded w a r → r.listener = some l →
    (a, l) ∈ w.dispatches ∨ OfferedTo w a l
  waiting : ∀ (a : Arrival) (r : Arrived), Recorded w a r → r.listener = none → Unanswered w r →
    ⟨r.receivedAt, a⟩ ∈ w.topic.buffered r.message.key ∨ r.receivedAt + bufferTTL ≤ w.now
  answered : ∀ (a : Arrival) (r : Arrived) (l : Nat) (c : Listened), Recorded w a r →
    r.listener = none → Answers w r l → w.listens[l]? = some c →
    ⟨r.receivedAt, a⟩ ∈ w.queued l ∨ OfferedTo w a l ∨ r.receivedAt + bufferTTL ≤ c.listenedAt

theorem OfferedTo.extend {a : Arrival} {l : Nat} (longer : Extends w w')
    (offered : OfferedTo w a l) : OfferedTo w' a l := by
  obtain ⟨o, there, rest⟩ := offered
  exact ⟨o, longer.offers.subset there, rest⟩

theorem recorded_snoc {a : Arrival} {r new : Arrived} (here : (w.arrivals ++ [new])[a.id]? = some r)
    (same : r.message = a.message) :
    Recorded w a r ∨ r = new ∧ a = ⟨w.arrivals.length, new.message⟩ := by
  rcases append_some here with ⟨last, rfl⟩ | before
  · exact .inr ⟨rfl, by cases a; simp_all⟩
  · exact .inl ⟨before, same⟩

theorem Covered.routed_step (covered : Covered w) (move : Move w call w') (a : Arrival)
    (r : Arrived) (l : Nat) (recorded : Recorded w' a r) (found : r.listener = some l) :
    (a, l) ∈ w'.dispatches ∨ OfferedTo w' a l := by
  have longer := move.extends
  have old (before : Recorded w a r) : (a, l) ∈ w.dispatches ∨ OfferedTo w' a l :=
    (covered.routed a r l before found).imp_right (·.extend longer)
  cases move with
  | buffer =>
    rcases recorded_snoc recorded.1 recorded.2 with before | ⟨rfl, -⟩
    · exact old before
    · cases found
  | route =>
    rcases recorded_snoc recorded.1 recorded.2 with before | ⟨rfl, rfl⟩
    · exact (old before).imp_left (List.mem_append_left _)
    · cases found
      exact .inl (List.mem_append_right _ (List.mem_singleton_self _))
  | @dispatch a' l' c pending here =>
    rcases old recorded with there | offered
    · by_cases same : (a, l) = (a', l')
      · cases same
        exact .inr ⟨_, List.mem_append_right _ (List.mem_singleton_self _), rfl, rfl⟩
      · exact .inl ((List.mem_erase_of_ne same).mpr there)
    · exact .inr offered
  | _ => exact old recorded

theorem Covered.waiting_step (covered : Covered w) (places : Places w) (move : Move w call w')
    (a : Arrival) (r : Arrived) (recorded : Recorded w' a r) (unheard : r.listener = none)
    (unanswered : Unanswered w' r) :
    ⟨r.receivedAt, a⟩ ∈ w'.topic.buffered r.message.key ∨
      r.receivedAt + bufferTTL ≤ w'.now := by
  have longer := move.extends
  have old (before : Recorded w a r) :=
    covered.waiting a r before unheard (unanswered.restrict longer)
  cases move with
  | tick later =>
    rcases old recorded with there | late
    · exact .inl there
    · exact .inr (Int.le_trans late later)
  | @buffer m none =>
    rw [receive_buffered none]
    rcases recorded_snoc recorded.1 recorded.2 with before | ⟨rfl, rfl⟩
    · rcases old before with there | late
      · split
        · exact .inl (List.mem_append_left _ there)
        · exact .inl there
      · exact .inr late
    · simp
  | route =>
    rcases recorded_snoc recorded.1 recorded.2 with before | ⟨rfl, -⟩
    · exact old before
    · cases unheard
  | listen key size =>
    simp only [Exchange.listen, listen_buffered]
    have other := unanswered w.listens.length _ (places.born a.id r recorded.1)
      List.getElem?_concat_length
    rw [if_neg (Ne.symm other)]
    exact old recorded
  | cancel =>
    rw [unlisten_buffered]
    exact old recorded
  | @sweep readAt read =>
    rcases old recorded with there | late
    · by_cases kept : readAt - bufferTTL < r.receivedAt
      · exact .inl (List.mem_filter.mpr ⟨there, by simpa using kept⟩)
      · refine .inr ?_
        show r.receivedAt + bufferTTL ≤ w.now
        omega
    · exact .inr late
  | _ => exact old recorded

theorem Covered.answered_step (covered : Covered w) (move : Move w call w') (a : Arrival)
    (r : Arrived) (l : Nat) (c : Listened) (recorded : Recorded w' a r)
    (unheard : r.listener = none) (answers : Answers w' r l) (here : w'.listens[l]? = some c) :
    ⟨r.receivedAt, a⟩ ∈ w'.queued l ∨ OfferedTo w' a l ∨
      r.receivedAt + bufferTTL ≤ c.listenedAt := by
  have longer := move.extends
  have old (before : Recorded w a r) (early : l < w.listens.length) :
      ⟨r.receivedAt, a⟩ ∈ w.queued l ∨ OfferedTo w' a l ∨
        r.receivedAt + bufferTTL ≤ c.listenedAt := by
    rw [entry_of_grown longer.listens early] at here
    exact (covered.answered a r l c before unheard (answers.restrict longer early) here).imp_right
      (·.imp_left (·.extend longer))
  have made := answers.lt
  cases move with
  | buffer | route =>
    rcases recorded_snoc recorded.1 recorded.2 with before | ⟨rfl, -⟩
    · exact old before made
    · exact absurd made (Nat.not_lt.mpr answers.after)
  | listen key size =>
    rcases append_some here with ⟨rfl, rfl⟩ | before
    · have since : Unanswered w r := by
        intro l' c' after call'
        have early := lt_of_some call'
        exact answers.first l' c' after early (List.getElem?_append_left early ▸ call')
      obtain ⟨c', call', same⟩ := answers.call
      obtain rfl := Option.some.inj (here.symm.trans call')
      have own : key = r.message.key := same
      rcases covered.waiting a r recorded unheard since with there | late
      · refine .inl ?_
        simp only [Exchange.listen, Function.update_self, own]
        exact there
      · exact .inr (.inr late)
    · have early := lt_of_some before
      simp only [Exchange.listen, Function.update_of_ne (Nat.ne_of_lt early)]
      exact old recorded early
  | @replay l' m queued c' next there =>
    rcases old recorded made with waiting | done
    · by_cases same : l = l'
      · subst same
        rw [next] at waiting
        simp only [offer, Function.update_self]
        rcases List.mem_cons.mp waiting with rfl | behind
        · exact .inr (.inl ⟨_, List.mem_append_right _ (List.mem_singleton_self _), rfl, rfl⟩)
        · exact .inl behind
      · simp only [offer, Function.update_of_ne same]
        exact .inl waiting
    · exact .inr done
  | _ => exact old recorded made

theorem Covered.step (covered : Covered w) (places : Places w) (move : Move w call w') :
    Covered w' :=
  ⟨covered.routed_step move, covered.waiting_step places move, covered.answered_step move⟩

end Falak.Election.Exchange

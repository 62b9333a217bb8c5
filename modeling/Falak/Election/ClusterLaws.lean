import Falak.Election.Cluster
import Falak.Election.RoundLaws

/-! How a step of the cluster touches each round, and what all rounds keep along every run. -/

namespace Falak.Election.Cluster

variable {ι : Type} [DecidableEq ι] {p : ι → RoundParams} {w w' : Cluster ι}

@[simp] theorem commit_now (i : ι) (e : Effect) : (w.commit p i e).now = w.now := rfl

@[simp] theorem commit_inbox (i : ι) (e : Effect) :
    (w.commit p i e).inbox = post p i w.inbox e.out := rfl

@[simp] theorem commit_self (i : ι) (e : Effect) : (w.commit p i e).rounds i = e.round := by
  simp [commit]

variable {i j : ι} {a : Action ι} {r : Round} {allowed : Cluster ι → Action ι → Prop}
  {listeners : ι → Listener} {m : Message} {inbox : ι → List Message}

@[simp] theorem commit_other (e : Effect) (other : j ≠ i) :
    (w.commit p i e).rounds j = w.rounds j := by
  simp [commit, other]

@[simp] theorem setRound_self (i : ι) (r : Round) : (w.setRound i r).rounds i = r := by
  simp [setRound]

@[simp] theorem setRound_other (r : Round) (other : j ≠ i) :
    (w.setRound i r).rounds j = w.rounds j := by
  simp [setRound, other]

@[simp] theorem setRound_now (i : ι) (r : Round) : (w.setRound i r).now = w.now := rfl

theorem step_run {choice : Choice} (stepped : step p w (.run i choice) = some w') :
    ∃ e, Round.Move (p i) w.now (w.slot p i) (w.rounds i) choice e ∧ w' = w.commit p i e := by
  simp only [step, Option.map_eq_some_iff] at stepped
  obtain ⟨e, moved, rfl⟩ := stepped
  exact ⟨e, Round.step_move moved, rfl⟩

inductive Touch (w : Cluster ι) (a : Action ι) (i : ι) : Round → Prop
  | none (other : ∀ choice, a ≠ .run i choice) : Touch w a i (w.rounds i)
  | delivered {position : Nat} {m : Message} (action : a = .deliver i position)
      (found : (w.inbox i)[position]? = some m) :
      Touch w a i { w.rounds i with listener := (w.rounds i).listener.dispatch m }
  | injected {m : Message} (action : a = .inject i m) :
      Touch w a i { w.rounds i with listener := (w.rounds i).listener.dispatch m }
  | cancelled (action : a = .cancel i) : Touch w a i { w.rounds i with cancelled := true }
  | closed (action : a = .close i) :
      Touch w a i { w.rounds i with listener := (w.rounds i).listener.close }

omit [DecidableEq ι] in
theorem Touch.pc (touch : Touch w a i r) : r.pc = (w.rounds i).pc := by
  cases touch <;> rfl

omit [DecidableEq ι] in
theorem Touch.past (touch : Touch w a i r) : r.past = (w.rounds i).past := by
  cases touch <;> rfl

omit [DecidableEq ι] in
theorem Touch.other (touch : Touch w a i r) (choice : Choice) : a ≠ .run i choice := by
  cases touch with
  | none other => exact other choice
  | delivered action | injected action | cancelled action | closed action => simp [action]

theorem Touch.setRound (own : Touch w a j r) (quiet : ∀ i choice, a ≠ .run i choice) (i : ι) :
    Touch w a i ((w.setRound j r).rounds i) := by
  by_cases same : i = j
  · subst same
    rw [setRound_self]
    exact own
  · rw [setRound_other r same]
    exact .none (quiet i)

theorem step_round (stepped : step p w a = some w') (i : ι) :
    (∃ choice e, a = .run i choice ∧
      Round.Move (p i) w.now (w.slot p i) (w.rounds i) choice e ∧ w' = w.commit p i e) ∨
    Touch w a i (w'.rounds i) := by
  cases a with
  | tick now =>
    obtain ⟨-, rfl⟩ := of_guard stepped
    exact .inr (.none (by simp))
  | run j choice =>
    obtain ⟨e, move, rfl⟩ := step_run stepped
    by_cases same : i = j
    · subst same
      exact .inl ⟨choice, e, rfl, move, rfl⟩
    · rw [commit_other e same]
      exact .inr (.none (by simp [Ne.symm same]))
  | deliver j position =>
    simp only [step, Option.map_eq_some_iff] at stepped
    obtain ⟨message, found, rfl⟩ := stepped
    exact .inr (Touch.setRound (.delivered rfl found) (by simp) i)
  | inject j message =>
    cases stepped
    exact .inr (Touch.setRound (.injected rfl) (by simp) i)
  | cancel j =>
    cases stepped
    exact .inr (Touch.setRound (.cancelled rfl) (by simp) i)
  | close j =>
    cases stepped
    exact .inr (Touch.setRound (.closed rfl) (by simp) i)

theorem step_now (stepped : step p w a = some w') :
    w'.now = w.now ∨ a = .tick w'.now ∧ w.now ≤ w'.now := by
  cases a with
  | tick now =>
    obtain ⟨later, rfl⟩ := of_guard stepped
    exact .inr ⟨rfl, later⟩
  | run i choice =>
    obtain ⟨e, -, rfl⟩ := step_run stepped
    exact .inl rfl
  | deliver i position =>
    simp only [step, Option.map_eq_some_iff] at stepped
    obtain ⟨message, -, rfl⟩ := stepped
    exact .inl rfl
  | inject | cancel | close => cases stepped; exact .inl rfl

theorem step_localClaims (stepped : step p w a = some w') (still : ∀ i choice, a ≠ .run i choice) :
    w'.localClaims = w.localClaims := by
  cases a with
  | tick now =>
    obtain ⟨-, rfl⟩ := of_guard stepped
    rfl
  | run i choice => exact absurd rfl (still i choice)
  | deliver i position =>
    simp only [step, Option.map_eq_some_iff] at stepped
    obtain ⟨message, -, rfl⟩ := stepped
    rfl
  | inject | cancel | close => cases stepped; rfl

def Shares (p : ι → RoundParams) (i j : ι) : Prop :=
  (p i).nodeID = (p j).nodeID ∧ (p i).req.capsuleID = (p j).req.capsuleID

omit [DecidableEq ι] in
theorem Shares.slot (shared : Shares p i j) : w.slot p i = w.slot p j := by
  simp only [Cluster.slot, shared.1, shared.2]

@[simp] theorem commit_slot_self (i : ι) (e : Effect) : (w.commit p i e).slot p i = e.slot := by
  simp [slot, commit]

theorem commit_slot (e : Effect) :
    (w.commit p j e).slot p i = e.slot ∧ Shares p i j ∨
      (w.commit p j e).slot p i = w.slot p i ∧ ¬ Shares p i j := by
  by_cases shared : Shares p i j
  · obtain ⟨node, capsule⟩ := shared
    exact .inl ⟨by simp [slot, commit, node, capsule], node, capsule⟩
  · refine .inr ⟨?_, shared⟩
    simp only [Shares] at shared
    simp [slot, commit, shared]

theorem step_slot (stepped : step p w a = some w') (taken : w'.slot p i = true) :
    w.slot p i = true ∨ ∃ j choice d deadline, a = .run j choice ∧ Shares p i j ∧
      (w.rounds j).pc = .tryClaim d deadline := by
  by_cases runs : ∃ j choice, a = .run j choice
  · obtain ⟨j, choice, rfl⟩ := runs
    obtain ⟨e, move, rfl⟩ := step_run stepped
    rcases commit_slot (p := p) e with ⟨left, shared⟩ | ⟨same, -⟩
    · rw [left] at taken
      rcases move.reserves taken with before | ⟨d, deadline, here⟩
      · exact .inl (shared.slot.trans before)
      · exact .inr ⟨j, choice, d, deadline, rfl, shared, here⟩
    · exact .inl (same ▸ taken)
  · rw [slot, step_localClaims stepped fun j choice same => runs ⟨j, choice, same⟩] at taken
    exact .inl taken

def Sound (p : ι → RoundParams) (w : Cluster ι) : Prop :=
  ∀ i, Round.Sound (p i) (w.rounds i).pc (w.rounds i).past

omit [DecidableEq ι] in
theorem sound_start (t : Int) (listeners : ι → Listener) : Sound p (start t listeners) :=
  fun i => Round.sound_init (p i) _

theorem Sound.step (sound : Sound p w) (stepped : step p w a = some w') : Sound p w' := by
  intro i
  rcases step_round stepped i with ⟨choice, e, -, move, rfl⟩ | touch
  · simpa using move.sound (sound i)
  · rw [touch.pc, touch.past]
    exact sound i

theorem sound_of_reach {t : Int} (reached : Reach (step p) allowed (start t listeners) w) :
    Sound p w :=
  reached.invariant (Sound p) (sound_start t listeners) fun _ _ _ sound _ stepped =>
    sound.step stepped

def Faithful (p : ι → RoundParams) (w : Cluster ι) : Prop :=
  ∀ i, Round.Faithful (p i) (w.rounds i).past

omit [DecidableEq ι] in
theorem faithful_start (t : Int) (listeners : ι → Listener) : Faithful p (start t listeners) :=
  fun i => ⟨by simp [start, Round.init], by simp [start, Round.init]⟩

theorem Faithful.step (faithful : Faithful p w) (sound : Sound p w)
    (stepped : step p w a = some w') : Faithful p w' := by
  intro i
  rcases step_round stepped i with ⟨choice, e, -, move, rfl⟩ | touch
  · simpa using move.faithful (sound i) (faithful i)
  · rw [touch.past]
    exact faithful i

theorem faithful_of_reach {t : Int} (reached : Reach (step p) allowed (start t listeners) w) :
    Faithful p w := by
  refine (reached.invariant (fun w => Sound p w ∧ Faithful p w) ?_ ?_).2
  · exact ⟨sound_start t listeners, faithful_start t listeners⟩
  · rintro v a v' ⟨sound, faithful⟩ - stepped
    exact ⟨sound.step stepped, faithful.step sound stepped⟩

def Live (w : Cluster ι) : Prop :=
  ∀ i, (w.rounds i).cancelled = false ∧ (w.rounds i).past.cut = false

theorem Live.step (live : Live w) (kept : ∀ i, a ≠ .cancel i) (stepped : step p w a = some w') :
    Live w' := by
  intro i
  rcases step_round stepped i with ⟨choice, e, -, move, rfl⟩ | touch
  · rw [commit_self, move.cancelled]
    refine ⟨(live i).1, ?_⟩
    by_contra cut
    rcases move.cut (by simpa using cut) with before | cancelled
    · simp [(live i).2] at before
    · simp [(live i).1] at cancelled
  · rw [touch.past]
    refine ⟨?_, (live i).2⟩
    generalize w'.rounds i = r at touch ⊢
    cases touch
    case cancelled action => exact absurd action (kept i)
    all_goals exact (live i).1

theorem sent_mono (stepped : step p w a = some w') {c : Claim} (sent : c ∈ (w.rounds i).past.sent) :
    c ∈ (w'.rounds i).past.sent := by
  rcases step_round stepped i with ⟨choice, e, -, move, rfl⟩ | touch
  · rw [commit_self]
    rcases move.sent with ⟨same, -⟩ | ⟨d, c', t, -, -, grown, -⟩
    · rwa [same]
    · rw [grown]
      exact List.mem_append_left _ sent
  · rwa [touch.past]

theorem mem_inbox_step (stepped : step p w a = some w') (flying : m ∈ w'.inbox i) :
    m ∈ w.inbox i ∨ ∃ j choice e, addressed p j i = true ∧
      Round.Move (p j) w.now (w.slot p j) (w.rounds j) choice e ∧ e.out = some m ∧
      w' = w.commit p j e := by
  cases a with
  | tick now =>
    obtain ⟨-, rfl⟩ := of_guard stepped
    exact .inl flying
  | run j choice =>
    obtain ⟨e, move, rfl⟩ := step_run stepped
    rw [commit_inbox] at flying
    cases out : e.out with
    | none => exact .inl (by simpa [post, out] using flying)
    | some message =>
      simp only [post, out] at flying
      split at flying
      · rename_i toward
        rcases List.mem_append.mp flying with old | new
        · exact .inl old
        · rw [List.mem_singleton] at new
          exact .inr ⟨j, choice, e, toward, move, by rw [out, new], rfl⟩
      · exact .inl flying
  | deliver j position =>
    simp only [step, Option.map_eq_some_iff] at stepped
    obtain ⟨message, -, rfl⟩ := stepped
    left
    by_cases same : i = j
    · subst same
      exact List.mem_of_mem_eraseIdx (by simpa using flying)
    · simpa [same] using flying
  | inject | cancel | close => cases stepped; exact .inl flying

omit [DecidableEq ι] in
theorem mem_post {out : Option Message} (flying : m ∈ inbox j) : m ∈ post p i inbox out j := by
  unfold post
  split
  · exact flying
  · split
    · exact List.mem_append_left _ flying
    · exact flying

omit [DecidableEq ι] in
theorem mem_post_new (toward : addressed p i j = true) : m ∈ post p i inbox (some m) j := by
  simp [post, toward]

def Traced (p : ι → RoundParams) (w : Cluster ι) : Prop :=
  ∀ i c, (w.rounds i).Reached c ∨ .claim c ∈ w.inbox i →
    ∃ j, addressed p j i = true ∧ c ∈ (w.rounds j).past.sent

omit [DecidableEq ι] in
theorem traced_init (t : Int) : Traced p (init t) := by
  intro i c here
  simp [init, start, Round.init, Round.Reached, Listener.new, Chan.make] at here

theorem Traced.step (traced : Traced p w) (own : ∀ i m, a ≠ .inject i m)
    (stepped : step p w a = some w') : Traced p w' := by
  have old : ∀ i c, (w.rounds i).Reached c ∨ .claim c ∈ w.inbox i →
      ∃ j, addressed p j i = true ∧ c ∈ (w'.rounds j).past.sent := by
    intro i c before
    obtain ⟨j, toward, sent⟩ := traced i c before
    exact ⟨j, toward, sent_mono stepped sent⟩
  intro i c here
  rcases here with reached | flying
  · rcases step_round stepped i with ⟨choice, e, -, move, rfl⟩ | touch
    · rw [commit_self, move.reached] at reached
      exact old i c (.inl reached)
    · generalize w'.rounds i = r at touch reached
      cases touch with
      | none | cancelled => exact old i c (.inl reached)
      | delivered action found =>
        rcases Round.reached_dispatch reached with before | rfl
        · exact old i c (.inl before)
        · exact old i c (.inr (List.mem_of_getElem? found))
      | injected action => exact absurd action (own i _)
      | closed action => exact old i c (.inl (Round.reached_close.mp reached))
  · rcases mem_inbox_step stepped flying with before | ⟨j, choice, e, toward, move, out, rfl⟩
    · exact old i c (.inr before)
    · rcases move.sent with ⟨-, silent⟩ | ⟨d, c', t, -, -, grown, published⟩
      · exact absurd out (silent c)
      · rw [out, Option.some.injEq, Message.claim.injEq] at published
        exact ⟨j, toward, by simp [grown, published]⟩

end Falak.Election.Cluster

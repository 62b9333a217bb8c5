import Falak.Runtime.Goroutines

/-! Whether a stop is final: that no goroutine starts the container or reports it after the stop. -/

namespace Falak.Runtime

structure Launch.Dormant (launch : Launch) : Prop where
  starter : launch.starter = .idle ∨ launch.starter = .ended
  watcher : launch.watcher = .off ∨ launch.watcher = .ended ∨
    launch.cancelled = true ∧ ∃ restarts, launch.watcher = .waiting restarts
  checker : launch.checker = .off ∨ launch.checker = .ended ∨ launch.checker = .cancelling ∨
    launch.cancelled = true ∧ ∃ failures, launch.checker = .waiting failures
  capture : launch.capture = .off ∨ launch.capture = .ended

theorem Launch.Dormant.cancel {launch : Launch} (dormant : launch.Dormant) :
    { launch with cancelled := true }.Dormant :=
  ⟨dormant.starter, dormant.watcher.imp_right fun h => h.imp_right fun ⟨_, waits⟩ => ⟨rfl, waits⟩,
    dormant.checker.imp_right fun h => h.imp_right fun h => h.imp_right fun ⟨_, waits⟩ =>
      ⟨rfl, waits⟩, dormant.capture⟩

def Stopper.InProgress : Stopper → Prop
  | .idle | .returned _ => False
  | .stopping | .removing | .marking => True

namespace Machine

def StopsWell (m : Machine) : Action → Prop
  | .begin .. => ∀ j, ¬ (m.stoppers j).InProgress
  | .stop j _ => m.stoppers j = .idle → ∀ k,
    Launch.Dormant { m.launches k with
      cancelled := (m.launches k).cancelled || decide (m.running = some k) }
  | .watcher k _ =>
    (m.launches k).cancelled = true → ∀ restarts, (m.launches k).watcher ≠ .waiting restarts
  | .probe k _ => (m.launches k).cancelled = false
  | .starter .. | .watcherDone .. | .checker .. | .checkerDone .. | .capture .. | .crash .. => True

structure Acts (m : Machine) (k : Nat) (m' : Machine) : Prop where
  stoppers : m'.stoppers = m.stoppers
  others : ∀ i, i ≠ k → m'.launches i = m.launches i ∨
    m'.launches i = { m.launches i with cancelled := true }
  own : (m'.launches k).stopped = (m.launches k).stopped
  restore : (m'.launches k).starter = .restoring → (m.launches k).starter = .restoring
  verdicts : m'.verdicts = m.verdicts ∨ ∃ v : Verdict,
    v.stopped = (m.launches k).stopped ∧ m'.verdicts = m.verdicts ++ [v]
  restarts : m'.restarts = m.restarts ∨
    m'.restarts = m.restarts ++ [⟨k, (m.launches k).stopped⟩]

structure Rests (m : Machine) (k : Nat) (m' : Machine) : Prop where
  dormant : (m'.launches k).Dormant
  verdicts : m'.verdicts = m.verdicts
  restarts : m'.restarts = m.restarts

variable {cfg : Setup} {m m' : Machine} {k : Nat} {fault : Option String}

theorem Acts.modify (acts : Acts m k m') {change : Launch → Launch}
    (kept : ∀ launch, (change launch).stopped = launch.stopped ∧
      ((change launch).starter = .restoring → launch.starter = .restoring)) :
    Acts m k (m'.modify k change) :=
  -- The other launches are not touched by the change.
  { acts with
    others := fun i apart => by
      rw [launches_modify_of_ne apart]
      exact acts.others i apart
    own := by rw [launches_modify_self, (kept _).1, acts.own]
    restore := fun here => by
      rw [launches_modify_self] at here
      exact acts.restore ((kept _).2 here) }

variable {slot : Slot} {exitCode : Int} {a : Action}

theorem Acts.rfl {running : Option Nat} :
    Acts m k { m with slot := slot, running := running } where
  stoppers := Eq.refl _
  others _ _ := .inl (Eq.refl _)
  own := Eq.refl _
  restore := id
  verdicts := .inl (Eq.refl _)
  restarts := .inl (Eq.refl _)

theorem acts_markFailed {reason : String} : Acts m k (m.markFailed k reason) :=
  { @Acts.rfl m k m.slot m.running with verdicts := .inr ⟨_, rfl, rfl⟩ }

theorem acts_restarted : Acts m k (m.restarted k slot) :=
  { @Acts.rfl m k m.slot m.running with restarts := .inr rfl }

theorem launches_cancelRunning (m : Machine) (i : Nat) :
    m.cancelRunning.launches i
      = { m.launches i with
          cancelled := (m.launches i).cancelled || decide (m.running = some i) } := by
  unfold cancelRunning
  cases running : m.running with
  | none => simp
  | some registered =>
    by_cases same : i = registered
    · subst same
      simp
    · simp [launches_modify_of_ne same, Ne.symm same]

theorem acts_cancelRunning : Acts m k m.cancelRunning where
  stoppers := by unfold cancelRunning; split <;> rfl
  others i _ := by
    rw [launches_cancelRunning]
    cases decide (m.running = some i) with
    | false => exact .inl (by rw [Bool.or_false])
    | true => exact .inr (by rw [Bool.or_true])
  own := by rw [launches_cancelRunning]
  restore here := by rwa [launches_cancelRunning] at here
  verdicts := by unfold cancelRunning; split <;> exact .inl rfl
  restarts := by unfold cancelRunning; split <;> exact .inl rfl

theorem Acts.table (acts : Acts m k m') {running : Option Nat} :
    Acts m k { m' with running := running } := { acts with }

theorem acts_starterStep (taken : m.starterStep cfg k fault = some m') : Acts m k m' := by
  have moved {slot : Slot} {pc : Starter} (apart : pc ≠ .restoring) :
      Acts m k (Machine.modify { m with slot := slot } k ({ · with starter := pc })) :=
    Acts.rfl.modify fun _ => ⟨rfl, fun here => absurd here apart⟩
  unfold starterStep at taken
  generalize (m.launches k).starter = starter at taken
  cases starter with
  | idle | ended => cases taken
  | restoring | pulling | creating | starting =>
    dsimp only at taken
    split at taken <;> cases taken <;> exact moved nofun
  | removing reason =>
    cases taken
    exact moved nofun
  | failing reason =>
    cases taken
    exact acts_markFailed.modify fun _ => ⟨rfl, nofun⟩
  | registering cold =>
    cases taken
    have registered : Acts m k (m.cancelRunning.modify k (Launch.registered cfg · cold)) :=
      acts_cancelRunning.modify fun _ => ⟨rfl, nofun⟩
    exact registered.table

theorem acts_watcherStep (taken : m.watcherStep cfg k fault = some m') : Acts m k m' := by
  unfold watcherStep at taken
  generalize (m.launches k).watcher = watcher at taken
  cases watcher with
  | off | ended => cases taken
  | waiting restarts =>
    dsimp only at taken
    split at taken
    · cases taken
      exact Acts.rfl
    · split_ifs at taken <;> cases taken
      · exact Acts.rfl.modify fun _ => ⟨rfl, id⟩
      · exact Acts.rfl.modify fun _ => ⟨rfl, id⟩
      · exact Acts.rfl
  | restarting restarts exitCode =>
    dsimp only at taken
    split at taken <;> cases taken
    · exact Acts.rfl.modify fun _ => ⟨rfl, id⟩
    · exact acts_restarted.modify fun _ => ⟨rfl, id⟩
  | dropping restarts exitCode =>
    -- The table is changed, and no launch besides.
    cases taken
    exact Acts.rfl.modify fun _ => ⟨rfl, id⟩
  | reporting restarts exitCode =>
    cases taken
    exact acts_markFailed.modify fun _ => ⟨rfl, id⟩

theorem acts_captureStep (taken : m.captureStep cfg k fault = some m') : Acts m k m' := by
  unfold captureStep at taken
  generalize (m.launches k).capture = capture at taken
  cases capture with
  | off | ended => cases taken
  | checkpointing =>
    dsimp only at taken
    split at taken <;> cases taken <;> exact Acts.rfl.modify fun _ => ⟨rfl, id⟩
  | restarting =>
    dsimp only at taken
    split at taken <;> cases taken
    · exact Acts.rfl.modify fun _ => ⟨rfl, id⟩
    · exact acts_restarted.modify fun _ => ⟨rfl, id⟩
  | dropping err =>
    cases taken
    exact acts_cancelRunning.table.modify fun _ => ⟨rfl, id⟩
  | reporting err =>
    cases taken
    exact acts_markFailed.modify fun _ => ⟨rfl, id⟩

theorem acts_checkerStep (taken : m.checkerStep k = some m') : Acts m k m' := by
  unfold checkerStep at taken
  split at taken <;> cases taken
  · exact acts_markFailed.modify fun _ => ⟨rfl, id⟩
  · exact Acts.rfl.modify fun _ => ⟨rfl, id⟩

theorem acts_probe {healthy : Bool} (taken : m.probe cfg k healthy = some m') : Acts m k m' := by
  unfold probe at taken
  split at taken <;> cases taken
  exact Acts.rfl.modify fun _ => ⟨rfl, id⟩

theorem acts_watcherDone (taken : m.watcherDone k = some m') : Acts m k m' := by
  unfold watcherDone at taken
  split at taken <;> cases taken
  exact Acts.rfl.modify fun _ => ⟨rfl, id⟩

theorem acts_checkerDone (taken : m.checkerDone k = some m') : Acts m k m' := by
  unfold checkerDone at taken
  split at taken <;> cases taken
  exact Acts.rfl.modify fun _ => ⟨rfl, id⟩

theorem acts_crash (taken : m.crash exitCode = some m') : Acts m m.last m' := by
  unfold Machine.crash at taken
  split at taken
  · cases taken
  · split at taken <;> cases taken
    exact Acts.rfl.modify fun _ => ⟨rfl, id⟩

def actor : Action → Option Nat
  | .starter k _ | .watcher k _ | .watcherDone k | .probe k _ | .checker k | .checkerDone k
  | .capture k _ => some k
  | .begin .. | .crash .. | .stop .. => none

theorem acts_of_actor (own : actor a = some k) (taken : step cfg m a = some m') : Acts m k m' := by
  cases a with
  | starter i fault => exact Option.some.inj own ▸ acts_starterStep taken
  | watcher i fault => exact Option.some.inj own ▸ acts_watcherStep taken
  | watcherDone i => exact Option.some.inj own ▸ acts_watcherDone taken
  | probe i healthy => exact Option.some.inj own ▸ acts_probe taken
  | checker i => exact Option.some.inj own ▸ acts_checkerStep taken
  | checkerDone i => exact Option.some.inj own ▸ acts_checkerDone taken
  | capture i fault => exact Option.some.inj own ▸ acts_captureStep taken
  | begin | crash | stop => cases own

theorem rests_of_actor (own : actor a = some k) (well : m.StopsWell a)
    (dormant : (m.launches k).Dormant) (taken : step cfg m a = some m') : Rests m k m' := by
  cases a with
  | starter i fault =>
    cases own
    rcases dormant.starter with pc | pc <;> simp [step, starterStep, pc] at taken
  | watcher i fault =>
    cases own
    rcases dormant.watcher with pc | pc | ⟨cancelled, restarts, pc⟩
    · simp [step, watcherStep, pc] at taken
    · simp [step, watcherStep, pc] at taken
    · -- A watcher that is cancelled does not tick.
      exact absurd pc (well cancelled restarts)
  | watcherDone i =>
    cases own
    simp only [step, watcherDone] at taken
    split at taken <;> cases taken
    refine ⟨?_, rfl, rfl⟩
    rw [launches_modify_self]
    exact { dormant with watcher := .inr (.inl rfl) }
  | probe i healthy =>
    obtain rfl := Option.some.inj own
    have awake : (m.launches i).cancelled = false := well
    simp only [step, probe] at taken
    rcases dormant.checker with pc | pc | pc | ⟨cancelled, -⟩
    · simp [pc] at taken
    · simp [pc] at taken
    · simp [pc] at taken
    · rw [awake] at cancelled
      cases cancelled
  | checker i =>
    cases own
    simp only [step, checkerStep] at taken
    rcases dormant.checker with pc | pc | pc | ⟨-, failures, pc⟩
    · simp [pc] at taken
    · simp [pc] at taken
    · simp only [pc] at taken
      cases taken
      refine ⟨?_, rfl, rfl⟩
      rw [launches_modify_self]
      exact { dormant.cancel with checker := .inr (.inl rfl) }
    · simp [pc] at taken
  | checkerDone i =>
    cases own
    simp only [step, checkerDone] at taken
    split at taken <;> cases taken
    refine ⟨?_, rfl, rfl⟩
    rw [launches_modify_self]
    exact { dormant with checker := .inr (.inl rfl) }
  | capture i fault =>
    cases own
    rcases dormant.capture with pc | pc <;> simp [step, captureStep, pc] at taken
  | begin | crash | stop => cases own

structure Final (m : Machine) : Prop where
  stopped : ∀ k, (m.launches k).stopped = true → (m.launches k).Dormant
  during : ∀ j, (m.stoppers j).InProgress → ∀ k, (m.launches k).Dormant
  verdicts : ∀ v ∈ m.verdicts, v.stopped = false
  restarts : ∀ r ∈ m.restarts, r.stopped = false

theorem Acts.dormant (acts : Acts m k m') {i : Nat} (apart : i ≠ k)
    (dormant : (m.launches i).Dormant) : (m'.launches i).Dormant := by
  rcases acts.others i apart with same | cancelled
  · rw [same]
    exact dormant
  · rw [cancelled]
    exact dormant.cancel

theorem Acts.stopped_eq (acts : Acts m k m') (i : Nat) :
    (m'.launches i).stopped = (m.launches i).stopped := by
  by_cases same : i = k
  · rw [same, acts.own]
  · rcases acts.others i same with same | cancelled
    · rw [same]
    · rw [cancelled]

theorem unflagged_of_added {α : Type} {flag : α → Bool} {stopped : Bool} {log log' : List α}
    (before : ∀ entry ∈ log, flag entry = false)
    (adds : log' = log ∨ ∃ entry, flag entry = stopped ∧ log' = log ++ [entry])
    (silent : stopped = true → log' = log) : ∀ entry ∈ log', flag entry = false := by
  rcases adds with rfl | ⟨new, flagged, rfl⟩
  · exact before
  · intro entry there
    rcases List.mem_append.mp there with old | added
    · exact before entry old
    · rw [List.mem_singleton.mp added, flagged]
      by_contra set
      have same := silent (by simpa using set)
      simp at same

theorem Final.acts (final : Final m) (acts : Acts m k m')
    (rests : (m.launches k).Dormant → Rests m k m') : Final m' := by
  have kept (i : Nat) (dormant : (m.launches i).Dormant) : (m'.launches i).Dormant := by
    by_cases same : i = k
    · subst same
      exact (rests dormant).dormant
    · exact acts.dormant same dormant
  refine ⟨fun i stopped => ?_, fun j progress i => ?_, ?_, ?_⟩
  · rw [acts.stopped_eq] at stopped
    exact kept i (final.stopped i stopped)
  · rw [acts.stoppers] at progress
    exact kept i (final.during j progress i)
  · exact unflagged_of_added final.verdicts acts.verdicts fun stopped =>
      (rests (final.stopped k stopped)).verdicts
  · exact unflagged_of_added final.restarts (acts.restarts.imp_right fun added => ⟨_, rfl, added⟩)
      fun stopped => (rests (final.stopped k stopped)).restarts

theorem Final.begin {way : Way} (final : Final m) (free : ∀ j, ¬ (m.stoppers j).InProgress)
    (taken : m.begin k way = some m') : Final m' := by
  unfold Machine.begin at taken
  split at taken
  · cases taken
    refine ⟨fun i stopped => ?_, fun j progress => absurd progress (free j), final.verdicts,
      final.restarts⟩
    by_cases same : i = k
    · subst same
      simp [modify] at stopped
    · simp only [launches_modify_of_ne same] at stopped ⊢
      exact final.stopped i stopped
  · cases taken

theorem Final.crash (final : Final m) (taken : m.crash exitCode = some m') : Final m' := by
  unfold Machine.crash at taken
  split at taken
  · cases taken
  · split at taken
    · cases taken
      refine final.acts (k := m.last) (Acts.rfl.modify fun _ => ⟨rfl, id⟩) fun dormant => ?_
      refine ⟨?_, rfl, rfl⟩
      rw [launches_modify_self]
      exact { dormant with }
    · cases taken

theorem Final.goes_on {j : Nat} {pc : Stopper} (final : Final m)
    (progress : (m.stoppers j).InProgress) :
    Final { m with slot := slot, stoppers := Function.update m.stoppers j pc } :=
  { final with during := fun _ _ => final.during j progress }

theorem Final.stop {j : Nat} (final : Final m) (well : m.StopsWell (.stop j fault))
    (taken : m.stopStep cfg j fault = some m') : Final m' := by
  unfold stopStep at taken
  generalize pc : m.stoppers j = stopper at taken
  cases stopper with
  | returned err => cases taken
  | idle =>
    cases taken
    have dormant (k : Nat) : (m.cancelRunning.launches k).Dormant := by
      rw [launches_cancelRunning]
      exact well pc k
    have logs : m.cancelRunning.verdicts = m.verdicts ∧ m.cancelRunning.restarts = m.restarts := by
      unfold cancelRunning
      split <;> exact ⟨rfl, rfl⟩
    refine ⟨fun k _ => dormant k, fun _ _ => dormant, ?_, ?_⟩
    · rw [show Machine.verdicts _ = _ from logs.1]
      exact final.verdicts
    · rw [show Machine.restarts _ = _ from logs.2]
      exact final.restarts
  | stopping =>
    dsimp only at taken
    split at taken <;> cases taken <;> exact final.goes_on (by rw [pc]; trivial)
  | removing =>
    cases taken
    exact final.goes_on (by rw [pc]; trivial)
  | marking =>
    cases taken
    have dormant (k : Nat) : Launch.Dormant { m.launches k with stopped := true } :=
      { final.during j (by rw [pc]; trivial) k with }
    exact { final with stopped := fun k _ => dormant k, during := fun _ _ => dormant }

theorem Final.step (final : Final m) (well : m.StopsWell a) (taken : step cfg m a = some m') :
    Final m' := by
  cases a with
  | begin k way => exact final.begin well taken
  | crash exitCode => exact final.crash taken
  | stop j fault => exact final.stop well taken
  | starter k | watcher k | watcherDone k | probe k | checker k | checkerDone k | capture k =>
    exact final.acts (acts_of_actor rfl taken)
      fun dormant => rests_of_actor rfl well dormant taken

/--
When every stop begins well and every cancelled goroutine ends, no goroutine reports the container
as failed or starts it again after a stop has returned.
-/
theorem stop_final (reached : Reach (step cfg) StopsWell initial m) :
    (∀ v ∈ m.verdicts, v.stopped = false) ∧ ∀ r ∈ m.restarts, r.stopped = false := by
  have final : Final m := by
    refine reached.invariant Final ⟨nofun, fun j progress => progress.elim, nofun, nofun⟩ ?_
    exact fun s a s' final well taken => final.step well taken
  exact ⟨final.verdicts, final.restarts⟩

def late : List Action :=
  launching ++ [.crash 1, .watcher 0 none] ++ List.replicate 4 (.stop 0 none)
    ++ List.replicate 3 (.watcher 0 none)

def captured : List Action :=
  launching ++ [.capture 0 none, .stop 0 none, .stop 0 none, .stop 0 (some "busy"), .stop 0 none,
    .capture 0 none]

/--
A watcher that has seen the container exit reports it after the stop has returned, and a capture
starts the container again after it.
-/
theorem stop_not_final :
    (∃ m, Reach (step bare) (fun _ _ => True) initial m ∧
        m.stoppers 0 = .returned none ∧ ∃ v ∈ m.verdicts, v.stopped = true) ∧
      ∃ m, Reach (step ⟨"falak-web-0", restartable, true, .checkpointed⟩) (fun _ _ => True)
        initial m ∧ m.stoppers 0 = .returned none ∧ m.slot.Runs ∧
          ∃ r ∈ m.restarts, r.stopped = true := by
  constructor
  · exact Reach.exists_of_actions _ _ late _ (by decide +kernel)
  · exact Reach.exists_of_actions _ _ captured _ (by decide +kernel)

def launched : Machine :=
  { initial with
    slot := some ⟨"web:1", some (applyCreateOptions (coldStartOptions restartable)), .running, 0⟩
    running := some 0
    launches := Function.update initial.launches 0 { starter := .ended, watcher := .waiting 0 } }

def cancelled : Machine :=
  { launched.modify 0 ({ · with cancelled := true }) with
    running := none
    stoppers := Function.update initial.stoppers 0 .stopping }

def goesOn (m : Machine) : Action → Bool
  | .starter .. | .watcherDone .. => true
  | .stop j _ => m.stoppers j ≠ .idle
  | _ => false

theorem stopsWell_of_goesOn (m : Machine) (a : Action) (accepted : goesOn m a = true) :
    m.StopsWell a := by
  cases a with
  | stop j fault => exact fun idle => absurd idle (of_decide_eq_true accepted)
  | starter | watcherDone => trivial
  | _ => cases accepted

theorem run_launched :
    run (step bare) goesOn begun (List.replicate 4 (.starter 0 none)) = some launched := by
  simp [begun, List.replicate, run, step, goesOn, starterStep, modify, cancelRunning, Slot.create,
    Slot.start, Slot.onContainer, Launch.registered, initial, launched, restartable, bare]

/-- A container that runs under its watcher is stopped, and the watcher ends. -/
theorem stop_final_waiting :
    ∃ m, Reach (step bare) StopsWell initial m ∧
      m.stoppers 0 = .returned none ∧ (m.launches 0).watcher = .ended ∧
      (∀ v ∈ m.verdicts, v.stopped = false) ∧ ∀ r ∈ m.restarts, r.stopped = false := by
  have first : Reach (step bare) StopsWell initial begun :=
    .next .start (a := .begin 0 .cold) (fun _ progress => progress) rfl
  have second : Reach (step bare) StopsWell begun launched :=
    (Trace.of_run stopsWell_of_goesOn _ .start run_launched).reach
  have third : Reach (step bare) StopsWell launched cancelled :=
    .next .start (a := .stop 0 none)
      (fun _ k => match k with
        | 0 => ⟨.inr rfl, .inr (.inr ⟨rfl, 0, rfl⟩), .inl rfl, .inl rfl⟩
        | _ + 1 => ⟨.inl rfl, .inl rfl, .inl rfl, .inl rfl⟩) rfl
  obtain ⟨m, fourth, returned, stopped⟩ := Reach.exists_of_accepted _ stopsWell_of_goesOn
    (step bare) cancelled [.stop 0 none, .stop 0 none, .stop 0 none, .watcherDone 0]
    (fun m => m.stoppers 0 = .returned none ∧ (m.launches 0).watcher = .ended) (by decide +kernel)
  have reached := first.trans (second.trans (third.trans fourth))
  exact ⟨m, reached, returned, stopped, stop_final reached⟩

end Machine

end Falak.Runtime

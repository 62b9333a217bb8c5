import Falak.Runtime.Goroutines

/-!
What a report of a failure says: that the container is down and no longer watched, and that this is
reported once.
-/

namespace Falak.Runtime

open Node (RuntimeSpec)

namespace Slot

variable {fault : Option String} {id : String} {slot slot' : Slot}

theorem onContainer_ok {change : Container → Except String Slot}
    (made : onContainer fault id change slot = .ok slot') :
    fault = none ∧ ∃ c, slot = some c ∧ change c = .ok slot' := by
  unfold onContainer at made
  split at made
  · cases made
  · cases made
  · exact ⟨rfl, _, rfl, made⟩

theorem runs_of_start (made : start fault id slot = .ok slot') :
    slot'.isSome = true ∧ slot'.Runs := by
  obtain ⟨-, c, -, started⟩ := onContainer_ok made
  cases started
  exact ⟨rfl, _, rfl, rfl⟩

theorem runs_of_restore (made : restore fault slot = .ok slot') :
    slot'.isSome = true ∧ slot'.Runs := by
  unfold restore at made
  split at made <;> cases made
  exact ⟨rfl, _, rfl, rfl⟩

theorem not_runs_of_create {image : String} {config : CreateConfig}
    (made : create fault id image config slot = .ok slot') : ¬ slot'.Runs := by
  unfold create at made
  split at made <;> cases made
  -- The state of the new container is another one.
  rintro ⟨c, there, status⟩
  cases there
  cases status

theorem not_runs_of_remove (down : ¬ slot.Runs) :
    ¬ ((remove fault id slot).toOption.getD slot).Runs := by
  cases made : remove fault id slot with
  | error err => exact down
  | ok left =>
    obtain ⟨-, c, -, removed⟩ := onContainer_ok made
    cases removed
    rintro ⟨c, there, -⟩
    cases there

theorem runs_of_checkpoint (made : checkpoint fault id slot = .ok slot') :
    slot.Runs ∧ slot'.isSome = true := by
  obtain ⟨-, c, rfl, written⟩ := onContainer_ok made
  split at written
  · rename_i running
    cases written
    exact ⟨⟨c, rfl, running⟩, rfl⟩
  · cases written

theorem eq_some_of_inspect {c : Container} (found : inspect fault id slot = .ok c) :
    slot = some c := by
  unfold inspect at found
  split at found <;> cases found
  rfl

end Slot

namespace Launch

structure Quiet (launch : Launch) : Prop where
  starter : launch.starter = .idle ∨ launch.starter = .ended
  watcher : launch.watcher = .off ∨ launch.watcher = .ended
  capture : launch.capture = .off ∨ launch.capture = .ended

def Over (launch : Launch) : Prop :=
  launch.starter = .ended ∧ (launch.watcher = .off ∨ launch.watcher = .ended)

structure Well (launch : Launch) : Prop where
  cancelled : launch.cancelled = false
  checker : launch.checker = .off ∨ ∃ failures, launch.checker = .waiting failures
  capture : launch.capture = .off ∨ launch.capture = .checkpointing ∨
    launch.capture = .restarting ∨ launch.capture = .ended
  spared : launch.crashed = false → launch.charges = 0 ∧
    (launch.watcher = .off ∨ ∃ restarts, launch.watcher = .waiting restarts)

def Watching (slot : Slot) (running : Option Nat) (launch : Launch) : Prop :=
  match launch.watcher with
  | .off => launch.capture = .off ∧ running = none ∧ ¬ slot.Runs
  | .waiting _ =>
    slot.isSome = true ∧ (launch.crashed = false → launch.capture ≠ .restarting → slot.Runs)
  | .restarting .. | .dropping .. => launch.capture ≠ .restarting ∧ ¬ slot.Runs
  | .reporting .. | .ended => launch.capture ≠ .restarting ∧ running = none ∧ ¬ slot.Runs

/-- The container and the table, by where the launch is. -/
def Phase (slot : Slot) (running : Option Nat) (launch : Launch) : Prop :=
  match launch.starter with
  | .registering _ =>
    launch.watcher = .off ∧ launch.capture = .off ∧ running = none ∧ slot.isSome = true ∧
      (launch.crashed = false → slot.Runs)
  | .ended => launch.Watching slot running
  | _ => launch.watcher = .off ∧ launch.capture = .off ∧ running = none ∧ ¬ slot.Runs

variable {slot : Slot} {running : Option Nat} {launch : Launch}

theorem Phase.of_quiet (phase : launch.Phase slot running) (quiet : launch.Quiet) :
    running = none ∧ ¬ slot.Runs := by
  unfold Phase at phase
  rcases quiet.starter with pc | pc
  · rw [pc] at phase
    exact phase.2.2
  · rw [pc] at phase
    unfold Watching at phase
    rcases quiet.watcher with pc | pc <;> rw [pc] at phase <;> exact phase.2

theorem Phase.started (phase : launch.Phase slot running)
    (has : launch.watcher ≠ .off ∨ launch.capture ≠ .off) :
    launch.starter = .ended ∧ launch.Watching slot running := by
  unfold Phase at phase
  generalize launch.starter = starter at phase ⊢
  cases starter with
  | ended => exact ⟨rfl, phase⟩
  | idle | restoring | pulling | creating | starting | removing | failing | registering =>
    exact (has.elim (· phase.1) (· phase.2.1)).elim

theorem Watching.waiting (phase : launch.Watching slot running)
    (up : slot.Runs ∨ launch.capture = .restarting) :
    (∃ restarts, launch.watcher = .waiting restarts) ∧ slot.isSome = true := by
  unfold Watching at phase
  generalize launch.watcher = watcher at phase ⊢
  cases watcher with
  | waiting restarts => exact ⟨⟨restarts, rfl⟩, phase.1⟩
  | off =>
    rcases up with runs | captured
    · exact absurd runs phase.2.2
    · cases phase.1.symm.trans captured
  | restarting | dropping => exact (up.elim phase.2 phase.1).elim
  | reporting | ended => exact (up.elim phase.2.2 phase.1).elim

theorem Watching.captureEnded (phase : launch.Watching slot running) (begun : launch.capture ≠ .off)
    (free : launch.capture ≠ .restarting) :
    Watching slot running { launch with capture := .ended } := by
  unfold Watching at phase ⊢
  dsimp only
  generalize launch.watcher = watcher at phase ⊢
  cases watcher with
  | off => exact absurd phase.1 begun
  | waiting restarts => exact ⟨phase.1, fun sane _ => phase.2 sane free⟩
  | restarting | dropping | reporting | ended => exact ⟨nofun, phase.2⟩

end Launch

namespace Machine

def Attentive (cfg : Setup) (m : Machine) : Action → Prop
  | .begin .. => ∀ k, (m.launches k).Quiet
  | .probe k healthy => healthy = true ∨ ∀ failures hc, (m.launches k).checker = .waiting failures →
    cfg.spec.healthCheck = some hc → (failures + 1 : Nat) < hc.retries
  | .watcher k _ => ∀ restarts, (m.launches k).watcher = .waiting restarts →
    (m.launches k).capture ≠ .restarting
  | .capture k fault => (m.launches k).capture = .restarting → fault = none
  | .stop .. => False
  | .starter .. | .watcherDone .. | .checker .. | .checkerDone .. | .crash .. => True

structure Sound (m : Machine) : Prop where
  each : ∀ k, (m.launches k).Well
  others : ∀ k, k ≠ m.last → (m.launches k).Quiet
  phase : (m.launches m.last).Phase m.slot m.running
  verdicts : ∀ v ∈ m.verdicts, v.runs = false ∧ v.watched = false
  once : (m.verdicts.map (·.launch)).Nodup
  reported : ∀ v ∈ m.verdicts, (m.launches v.launch).Over

variable {cfg : Setup} {m m' : Machine} {k : Nat} {fault : Option String} {change : Launch → Launch}

theorem Sound.move (sound : Sound m) {slot : Slot} {running : Option Nat} {restarts : List Restart}
    (well : (change (m.launches m.last)).Well)
    (phase : (change (m.launches m.last)).Phase slot running)
    (ended : (m.launches m.last).Over → (change (m.launches m.last)).Over) :
    Sound (modify { m with slot := slot, running := running, restarts := restarts } m.last
      change) where
  each := forall_launches_modify (P := fun _ => Launch.Well) well fun i _ => sound.each i
  others := forall_launches_modify (P := fun i launch => i ≠ m.last → launch.Quiet)
    (absurd rfl) fun i _ => sound.others i
  phase := by
    show Launch.Phase slot running ((modify _ m.last change).launches m.last)
    rwa [launches_modify_self]
  verdicts := sound.verdicts
  once := sound.once
  reported v there :=
    forall_launches_modify (P := fun i launch => (m.launches i).Over → launch.Over) ended
      (fun _ _ => id) v.launch (sound.reported v there)

theorem Sound.report (sound : Sound m) {reason : String} (undecided : ¬ (m.launches m.last).Over)
    (forgotten : m.running = none) (down : ¬ m.slot.Runs) (well : (change (m.launches m.last)).Well)
    (phase : (change (m.launches m.last)).Phase m.slot m.running)
    (ended : (change (m.launches m.last)).Over) :
    Sound ((m.markFailed m.last reason).modify m.last change) := by
  have moved : Sound (m.modify m.last change) := sound.move well phase fun _ => ended
  refine ⟨moved.each, moved.others, moved.phase, ?_, ?_, ?_⟩
  · intro v there
    rcases List.mem_append.mp there with before | new
    · exact sound.verdicts v before
    · rw [List.mem_singleton.mp new]
      exact ⟨decide_eq_false down, by rw [forgotten]; rfl⟩
  · show ((m.verdicts ++ [_]).map Verdict.launch).Nodup
    rw [List.map_append, List.nodup_append]
    refine ⟨sound.once, List.nodup_singleton _, ?_⟩
    intro i before j new same
    obtain ⟨v, there, rfl⟩ := List.mem_map.mp before
    rw [List.map_singleton, List.mem_singleton] at new
    have ended := sound.reported v there
    rw [same, new] at ended
    exact undecided ended
  · intro v there
    rcases List.mem_append.mp there with before | new
    · exact moved.reported v before
    · rw [List.mem_singleton.mp new]
      rw [launches_modify_self]
      exact ended

theorem well_registered {launch : Launch} (well : launch.Well) (cold : Bool) :
    (Launch.registered cfg launch cold).Well := by
  refine ⟨well.cancelled, ?_, ?_, fun sane => ⟨(well.spared sane).1, .inr ⟨0, rfl⟩⟩⟩
  · simp only [Launch.registered]
    split
    · exact .inr ⟨0, rfl⟩
    · exact .inl rfl
  · simp only [Launch.registered]
    split
    · exact .inr (.inl rfl)
    · exact .inl rfl

theorem Sound.starter (sound : Sound m) (taken : m.starterStep cfg m.last fault = some m') :
    Sound m' := by
  have well := sound.each m.last
  have phase := sound.phase
  -- The launch goes on, and has no goroutines yet.
  have goes {slot : Slot} {pc : Starter} (early : (m.launches m.last).starter ≠ .ended)
      (next : Launch.Phase slot m.running { m.launches m.last with starter := pc }) :
      Sound (modify { m with slot := slot } m.last ({ · with starter := pc })) :=
    sound.move { well with } next fun ended => absurd ended.1 early
  unfold Launch.Phase at phase
  unfold starterStep at taken
  generalize pc : (m.launches m.last).starter = starter at *
  cases starter with
  | idle | ended => cases taken
  | restoring =>
    obtain ⟨unwatched, uncaptured, forgotten, down⟩ := phase
    dsimp only at taken
    split at taken <;> cases taken
    · exact goes nofun ⟨unwatched, uncaptured, forgotten, down⟩
    · rename_i slot made
      obtain ⟨there, runs⟩ := Slot.runs_of_restore made
      exact goes nofun ⟨unwatched, uncaptured, forgotten, there, fun _ => runs⟩
  | pulling =>
    dsimp only at taken
    split at taken <;> cases taken <;> exact goes nofun phase
  | creating =>
    obtain ⟨unwatched, uncaptured, forgotten, down⟩ := phase
    dsimp only at taken
    split at taken <;> cases taken
    · exact goes nofun ⟨unwatched, uncaptured, forgotten, down⟩
    · rename_i slot made
      exact goes nofun ⟨unwatched, uncaptured, forgotten, Slot.not_runs_of_create made⟩
  | starting =>
    obtain ⟨unwatched, uncaptured, forgotten, down⟩ := phase
    dsimp only at taken
    split at taken <;> cases taken
    · exact goes nofun ⟨unwatched, uncaptured, forgotten, down⟩
    · rename_i slot made
      obtain ⟨there, runs⟩ := Slot.runs_of_start made
      exact goes nofun ⟨unwatched, uncaptured, forgotten, there, fun _ => runs⟩
  | removing reason =>
    obtain ⟨unwatched, uncaptured, forgotten, down⟩ := phase
    cases taken
    exact goes nofun ⟨unwatched, uncaptured, forgotten, Slot.not_runs_of_remove down⟩
  | failing reason =>
    obtain ⟨unwatched, uncaptured, forgotten, down⟩ := phase
    cases taken
    refine sound.report (fun ended => ?_) forgotten down { well with } ?_ ⟨rfl, .inl unwatched⟩
    · rw [Launch.Over, pc] at ended
      cases ended.1
    · simp only [Launch.Phase, Launch.Watching, unwatched]
      exact ⟨uncaptured, forgotten, down⟩
  | registering cold =>
    obtain ⟨unwatched, uncaptured, forgotten, there, runs⟩ := phase
    -- There is no watch to cancel.
    have same : m.cancelRunning = m := by simp [cancelRunning, forgotten]
    rw [same] at taken
    cases taken
    have moved : Sound (modify { m with running := some m.last } m.last
        (Launch.registered cfg · cold)) := by
      refine sound.move (well_registered well cold) ⟨there, fun sane _ => runs sane⟩
        fun ended => ?_
      rw [Launch.Over, pc] at ended
      cases ended.1
    exact moved

theorem Sound.watcher (sound : Sound m) (attentive : Attentive cfg m (.watcher m.last fault))
    (taken : m.watcherStep cfg m.last fault = some m') : Sound m' := by
  have well := sound.each m.last
  have busy : (m.launches m.last).watcher ≠ .off := by
    intro off
    simp [watcherStep, off] at taken
  obtain ⟨started, phase⟩ := sound.phase.started (.inl busy)
  have goes {slot : Slot} {running : Option Nat} {restarts : List Restart}
      {change : Launch → Launch}
      (crashed : (m.launches m.last).crashed = true)
      (same : ∃ pc charges, change (m.launches m.last) =
        { m.launches m.last with watcher := pc, charges := charges })
      (pending : (m.launches m.last).watcher ≠ .ended)
      (next : Launch.Watching slot running (change (m.launches m.last))) :
      Sound (modify { m with slot := slot, running := running, restarts := restarts } m.last
        change) := by
    obtain ⟨pc, charges, same⟩ := same
    rw [same] at next
    refine sound.move ?_ ?_ fun ended => (ended.2.elim busy pending).elim
    · rw [same]
      exact { well with spared := fun sane => absurd sane (by simp [crashed]) }
    · simp only [same, Launch.Phase, started]
      exact next
  have crashed (awake : ∀ restarts, (m.launches m.last).watcher ≠ .waiting restarts) :
      (m.launches m.last).crashed = true := by
    by_contra sane
    obtain ⟨-, off | ⟨restarts, waits⟩⟩ := well.spared (by simpa using sane)
    · exact busy off
    · exact awake restarts waits
  unfold watcherStep at taken
  unfold Launch.Watching at phase
  generalize pc : (m.launches m.last).watcher = watcher at *
  cases watcher with
  | off => exact absurd rfl busy
  | ended => cases taken
  | waiting restarts =>
    obtain ⟨there, runs⟩ := phase
    have free := attentive restarts pc
    dsimp only at taken
    split at taken
    · cases taken
      exact sound
    · rename_i c found
      by_cases exited : c.status = .failed ∨ c.status = .stopped
      · have down : ¬ m.slot.Runs := by
          rw [Slot.eq_some_of_inspect found]
          rintro ⟨_, same, running⟩
          cases same
          simp [running] at exited
        have crashed : (m.launches m.last).crashed = true := by
          by_contra sane
          exact down (runs (by simpa using sane) free)
        rw [if_pos exited] at taken
        split at taken <;> cases taken
        · exact goes crashed ⟨_, _, rfl⟩ nofun ⟨free, down⟩
        · exact goes crashed ⟨_, _, rfl⟩ nofun ⟨free, down⟩
      · rw [if_neg exited] at taken
        cases taken
        exact sound
  | restarting restarts exitCode =>
    obtain ⟨free, down⟩ := phase
    dsimp only at taken
    split at taken <;> cases taken
    · exact goes (crashed nofun) ⟨_, _, rfl⟩ nofun ⟨free, down⟩
    · rename_i slot made
      obtain ⟨there, runs⟩ := Slot.runs_of_start made
      exact goes (crashed nofun) ⟨_, _, rfl⟩ nofun ⟨there, fun _ _ => runs⟩
  | dropping restarts exitCode =>
    obtain ⟨free, down⟩ := phase
    cases taken
    exact goes (crashed nofun) ⟨_, _, rfl⟩ nofun ⟨free, rfl, down⟩
  | reporting restarts exitCode =>
    obtain ⟨free, forgotten, down⟩ := phase
    cases taken
    have crashed := crashed nofun
    refine sound.report (fun ended => ?_) forgotten down
      { well with spared := fun sane => absurd sane (by simp [crashed]) } ?_ ⟨started, .inr rfl⟩
    · simp [Launch.Over, pc] at ended
    · simp only [Launch.Phase, started]
      exact ⟨free, forgotten, down⟩

theorem Sound.capture (sound : Sound m) (attentive : Attentive cfg m (.capture m.last fault))
    (taken : m.captureStep cfg m.last fault = some m') : Sound m' := by
  have well := sound.each m.last
  have busy : (m.launches m.last).capture ≠ .off := by
    intro off
    simp [captureStep, off] at taken
  obtain ⟨started, phase⟩ := sound.phase.started (.inr busy)
  -- The capture goes on beside the watcher.
  have goes {slot : Slot} {restarts : List Restart} {pc : Capture}
      (next : Launch.Watching slot m.running { m.launches m.last with capture := pc })
      (able : pc = .restarting ∨ pc = .ended) :
      Sound (modify { m with slot := slot, restarts := restarts } m.last
        ({ · with capture := pc })) := by
    refine sound.move { well with capture := .inr (.inr able) } ?_ id
    simp only [Launch.Phase, started]
    exact next
  unfold captureStep at taken
  rcases well.capture with pc | pc | pc | pc
  · exact absurd pc busy
  · simp only [pc] at taken
    split at taken <;> cases taken
    · exact goes (phase.captureEnded busy (by simp [pc])) (.inr rfl)
    · rename_i slot made
      obtain ⟨runs, there⟩ := Slot.runs_of_checkpoint made
      obtain ⟨⟨restarts, waits⟩, -⟩ := phase.waiting (.inl runs)
      refine goes ?_ (.inl rfl)
      simp only [Launch.Watching, waits]
      exact ⟨by simpa using there, fun _ other => absurd rfl other⟩
  · simp only [pc, attentive pc] at taken
    obtain ⟨⟨restarts, waits⟩, there⟩ := phase.waiting (.inr pc)
    obtain ⟨c, slot⟩ := Option.isSome_iff_exists.mp there
    cases made : Slot.start none cfg.cID m.slot with
    | error err =>
      rw [slot] at made
      cases made
    | ok slot =>
      simp only [made] at taken
      cases taken
      obtain ⟨there, runs⟩ := Slot.runs_of_start made
      refine goes ?_ (.inr rfl)
      simp only [Launch.Watching, waits]
      exact ⟨there, fun _ _ => runs⟩
  · simp [pc] at taken

theorem Sound.probe {healthy : Bool} (sound : Sound m)
    (attentive : Attentive cfg m (.probe k healthy)) (taken : m.probe cfg k healthy = some m') :
    Sound m' := by
  have well := sound.each k
  -- Only the failures in a row are counted.
  obtain ⟨failures, rfl⟩ : ∃ failures,
      m' = m.modify k ({ · with checker := .waiting failures }) := by
    unfold Machine.probe at taken
    rcases well.checker with pc | ⟨failures, pc⟩
    · simp [pc] at taken
    · cases check : cfg.spec.healthCheck with
      | none => simp [pc, check] at taken
      | some hc =>
        simp only [pc, check] at taken
        cases taken
        rcases attentive with fine | few
        · exact ⟨0, by simp [fine]⟩
        · have few := few failures hc pc check
          cases healthy with
          | true => exact ⟨0, by simp⟩
          | false =>
            refine ⟨failures + 1, ?_⟩
            rw [if_neg (by simp), if_neg (by omega)]
  have launches (i : Nat) : ∃ checker, (checker = .off ∨ ∃ failures, checker = .waiting failures) ∧
      (m.modify k ({ · with checker := .waiting failures })).launches i
        = { m.launches i with checker := checker } := by
    by_cases same : i = k
    · subst same
      exact ⟨.waiting failures, .inr ⟨failures, rfl⟩, launches_modify_self⟩
    · exact ⟨(m.launches i).checker, (sound.each i).checker, launches_modify_of_ne same⟩
  refine ⟨fun i => ?_, fun i apart => ?_, ?_, sound.verdicts, sound.once, fun v there => ?_⟩
  · obtain ⟨checker, able, same⟩ := launches i
    rw [same]
    exact { sound.each i with checker := able }
  · obtain ⟨checker, -, same⟩ := launches i
    rw [same]
    exact { sound.others i apart with }
  · obtain ⟨checker, -, same⟩ := launches m.last
    show Launch.Phase m.slot m.running ((modify m k _).launches m.last)
    rw [same]
    exact sound.phase
  · obtain ⟨checker, -, same⟩ := launches v.launch
    rw [same]
    exact sound.reported v there

theorem Sound.crash {exitCode : Int} (sound : Sound m) (taken : m.crash exitCode = some m') :
    Sound m' := by
  have well := sound.each m.last
  have phase := sound.phase
  unfold Machine.crash at taken
  cases there : m.slot with
  | none => simp [there] at taken
  | some c =>
    simp only [there] at taken
    split at taken
    · rename_i status
      cases taken
      have runs : m.slot.Runs := ⟨c, there, status⟩
      have next {slot : Slot} (present : slot.isSome = true) :
          Launch.Phase slot m.running { m.launches m.last with crashed := true } := by
        unfold Launch.Phase at phase ⊢
        dsimp only
        generalize (m.launches m.last).starter = starter at phase ⊢
        cases starter with
        | registering cold => exact ⟨phase.1, phase.2.1, phase.2.2.1, present, nofun⟩
        | ended =>
          obtain ⟨⟨restarts, waits⟩, -⟩ := phase.waiting (.inl runs)
          simp only [Launch.Watching, waits]
          exact ⟨present, nofun⟩
        | idle | restoring | pulling | creating | starting | removing | failing =>
          exact absurd runs phase.2.2.2
      exact sound.move { well with spared := nofun } (next rfl) id
    · cases taken

theorem Sound.begin {way : Way} (sound : Sound m) (quiet : ∀ k, (m.launches k).Quiet)
    (taken : m.begin k way = some m') : Sound m' := by
  obtain ⟨forgotten, down⟩ := sound.phase.of_quiet (quiet m.last)
  unfold Machine.begin at taken
  split at taken
  · rename_i fresh
    cases taken
    refine ⟨?_, fun i apart => ?_, ?_, sound.verdicts, sound.once, fun v there => ?_⟩
    · dsimp only
      refine forall_launches_modify (P := fun _ => Launch.Well) ?_ fun i _ => sound.each i
      exact ⟨rfl, .inl rfl, .inl rfl, fun _ => ⟨rfl, .inl rfl⟩⟩
    · rw [launches_modify_of_ne apart]
      exact quiet i
    · rw [launches_modify_self]
      cases way <;> exact ⟨rfl, rfl, forgotten, down⟩
    · -- A launch that is over has begun before.
      have ended := sound.reported v there
      have apart : v.launch ≠ k := by
        intro same
        rw [same, Launch.Over, fresh] at ended
        cases ended.1
      rw [launches_modify_of_ne apart]
      exact ended
  · cases taken

theorem Sound.step {a : Action} (sound : Sound m) (attentive : Attentive cfg m a)
    (taken : step cfg m a = some m') : Sound m' := by
  -- The other launches have nothing left to do.
  have last {i : Nat} (active : ¬ (m.launches i).Quiet) : i = m.last := by
    by_contra apart
    exact active (sound.others i apart)
  cases a with
  | begin k way => exact sound.begin attentive taken
  | crash exitCode => exact sound.crash taken
  | stop j fault => exact attentive.elim
  | probe k healthy => exact sound.probe attentive taken
  | starter k fault =>
    have same := last (i := k) fun quiet => by
      rcases quiet.starter with pc | pc <;> simp [Machine.step, starterStep, pc] at taken
    subst same
    exact sound.starter taken
  | watcher k fault =>
    have same := last (i := k) fun quiet => by
      rcases quiet.watcher with pc | pc <;> simp [Machine.step, watcherStep, pc] at taken
    subst same
    exact sound.watcher attentive taken
  | capture k fault =>
    have same := last (i := k) fun quiet => by
      rcases quiet.capture with pc | pc <;> simp [Machine.step, captureStep, pc] at taken
    subst same
    exact sound.capture attentive taken
  | watcherDone k => simp [Machine.step, watcherDone, (sound.each k).cancelled] at taken
  | checkerDone k => simp [Machine.step, checkerDone, (sound.each k).cancelled] at taken
  | checker k =>
    rcases (sound.each k).checker with pc | ⟨failures, pc⟩ <;>
      simp [Machine.step, checkerStep, pc] at taken

/--
In a run without false alarms a container that is reported is down and no longer watched, it is
reported once, and one that has not exited by itself is neither reported nor charged a restart.
-/
theorem failure_reported_once (reached : Reach (step cfg) (Attentive cfg) initial m) :
    (∀ v ∈ m.verdicts, v.runs = false ∧ v.watched = false) ∧
      (m.verdicts.map (·.launch)).Nodup ∧
      ∀ k, (m.launches k).watcher ≠ .off → (m.launches k).crashed = false →
        (m.launches k).charges = 0 ∧ ∀ v ∈ m.verdicts, v.launch ≠ k := by
  have sound : Sound m := by
    refine reached.invariant Sound ?_ fun s a s' sound attentive taken =>
      sound.step attentive taken
    refine ⟨fun k => ?_, fun k _ => ?_, ?_, nofun, List.nodup_nil, nofun⟩
    · exact ⟨rfl, .inl rfl, .inl rfl, fun _ => ⟨rfl, .inl rfl⟩⟩
    · exact ⟨.inl rfl, .inl rfl, .inl rfl⟩
    · exact ⟨rfl, rfl, rfl, fun ⟨_, there, _⟩ => nomatch there⟩
  refine ⟨sound.verdicts, sound.once, fun k watched sane => ?_⟩
  obtain ⟨free, off | ⟨restarts, waits⟩⟩ := (sound.each k).spared sane
  · exact absurd off watched
  · refine ⟨free, fun v there same => ?_⟩
    have ended := sound.reported v there
    rw [same, Launch.Over, waits] at ended
    exact ended.2.elim nofun nofun

def checked : Setup :=
  { bare with spec.healthCheck := some ⟨.tcp, "", 80, second, second, 1, 0⟩ }

def twice : List Action :=
  launching ++ [.probe 0 false, .checker 0, .crash 1, .watcher 0 none, .watcher 0 (some "busy"),
    .watcher 0 none, .watcher 0 none]

/--
A container that runs and is watched is reported by its health checker, and once more by its
watcher; and one that was only stopped by its checkpoint is charged a restart.
-/
theorem failure_misreported :
    (∃ m, Reach (step checked) (fun _ _ => True) initial m ∧
        (∃ v ∈ m.verdicts, v.runs = true ∧ v.watched = true) ∧
          ¬ (m.verdicts.map (·.launch)).Nodup) ∧
      ∃ m, Reach (step { bare with snapshots := true, captured := .stopped }) (fun _ _ => True)
        initial m ∧ (m.launches 0).watcher ≠ .off ∧ (m.launches 0).crashed = false ∧
          (m.launches 0).charges = 1 := by
  constructor
  · exact Reach.exists_of_actions _ _ twice _ (by decide +kernel)
  · exact Reach.exists_of_actions _ _ (launching ++ [.capture 0 none, .watcher 0 none]) _
      (by decide +kernel)

def goesOnAlone (m : Machine) : Action → Bool
  | .starter .. | .crash .. => true
  | .watcher k _ => (m.launches k).capture ≠ .restarting
  | _ => false

theorem attentive_of_goesOnAlone (m : Machine) (a : Action) (accepted : goesOnAlone m a = true) :
    Attentive bare m a := by
  cases a with
  | watcher k fault => exact fun _ _ => of_decide_eq_true accepted
  | starter | crash => trivial
  | _ => cases accepted

/-- A container exits and cannot be started again, which its watcher reports. -/
theorem failure_reported_once_exited :
    ∃ m, Reach (step bare) (Attentive bare) initial m ∧ m.verdicts.length = 1 ∧
      (∀ v ∈ m.verdicts, v.runs = false ∧ v.watched = false) ∧
      (m.verdicts.map (·.launch)).Nodup ∧
      ∀ k, (m.launches k).watcher ≠ .off → (m.launches k).crashed = false →
        (m.launches k).charges = 0 ∧ ∀ v ∈ m.verdicts, v.launch ≠ k := by
  have first : Reach (step bare) (Attentive bare) initial begun :=
    .next .start (a := .begin 0 .cold) (fun _ => ⟨.inl rfl, .inl rfl, .inl rfl⟩) rfl
  obtain ⟨m, second, ends⟩ := Reach.exists_of_accepted _ attentive_of_goesOnAlone (step bare) begun
    (List.replicate 4 (.starter 0 none) ++
      [.crash 1, .watcher 0 none, .watcher 0 (some "busy"), .watcher 0 none, .watcher 0 none])
    (fun m => m.verdicts.length = 1) (by decide +kernel)
  have reached := first.trans second
  exact ⟨m, reached, ends, failure_reported_once reached⟩

end Machine

end Falak.Runtime

import Falak.Phonebook.Book

/-! What the phonebook still knows about a node after the record of another node was merged. -/

namespace Falak.Phonebook

open Capsule (unixMilli)

inductive Merge
  | processMember (clusterPath : String) (m : MemberInfo)
  | addOrUpdateEntry (m : Member)

namespace Merge

def nodeID : Merge → String
  | .processMember _ m => m.nodeID
  | .addOrUpdateEntry m => m.nodeID

def clusterPath : Merge → String
  | .processMember clusterPath _ => clusterPath
  | .addOrUpdateEntry m => m.clusterPath

def apply (book : Book) (now : Int) (faults : Faults) : Merge → Book
  | .processMember clusterPath m =>
    match Phonebook.processMember book now faults clusterPath m with
    | .ok (_, after) => after
    | .error _ => book
  | .addOrUpdateEntry m => Phonebook.addOrUpdateEntry book now faults m

def entry (now : Int) : Merge → Entry
  | .processMember clusterPath m => m.entry clusterPath
  | .addOrUpdateEntry m => m.entry now

def Refused (faults : Faults) : Merge → Prop
  | .processMember _ _ => faults ≠ {}
  | .addOrUpdateEntry _ => faults.Lose true

instance (faults : Faults) (merge : Merge) : Decidable (merge.Refused faults) :=
  match merge with
  | .processMember _ _ => inferInstanceAs (Decidable (_ ≠ _))
  | .addOrUpdateEntry _ => inferInstanceAs (Decidable (Faults.Lose _ _))

end Merge

def NodeStatus.Degraded (status : NodeStatus) : Prop :=
  status = .suspected ∨ status = .quarantined ∨ status = .failed

instance (status : NodeStatus) : Decidable status.Degraded :=
  inferInstanceAs (Decidable (_ ∨ _ ∨ _))

structure Tracking.SameResults (old new : Tracking) : Prop where
  connectionAttempts : new.connectionAttempts = old.connectionAttempts
  connectionSuccess : new.connectionSuccess = old.connectionSuccess
  consecutiveFails : new.consecutiveFails = old.consecutiveFails
  successRate : new.successRate = old.successRate
  reliabilityScore : new.reliabilityScore = old.reliabilityScore
  lastProbeTime : new.lastProbeTime = old.lastProbeTime
  lastProbeSuccess : new.lastProbeSuccess = old.lastProbeSuccess

structure Row.Keeps (old new : Row) : Prop where
  results : old.tracking.SameResults new.tracking
  region : new.region = old.region
  datacenter : new.datacenter = old.datacenter
  firstSeen : new.firstSeen = old.firstSeen
  lastSeen : old.lastSeen ≤ new.lastSeen
  valid : old.status ≠ .unset → new.status ≠ .unset
  degraded : old.status.Degraded → new.status ≠ .active

def untracked : Tracking := { ({} : Tracking) with lastProbeTime := unixMilli zeroTime }

namespace Merge

def SamePlaces (now : Int) (merge : Merge) (old : Row) : Prop :=
  old.region = (merge.entry now).region ∧ old.datacenter = (merge.entry now).datacenter

/-- The status in the record may replace that of the row. -/
def StatusFits (old : Row) : Merge → Prop
  | .processMember _ m =>
    (old.status ≠ .unset → m.status ≠ "") ∧
      (old.status.Degraded → m.status = "suspected" ∨ m.status = "quarantined")
  | .addOrUpdateEntry _ => ¬ old.status.Degraded

structure Harmless (now : Int) (merge : Merge) (old : Row) : Prop where
  results : old.tracking.SameResults untracked
  places : merge.SamePlaces now old
  lastSeen : old.lastSeen ≤ unixMilli (merge.entry now).lastSeen
  status : merge.StatusFits old

variable {book : Book} {now : Int} {faults : Faults} {old : Row}

theorem get_apply (merge : Merge) (there : book.get merge.nodeID merge.clusterPath = some old) :
    (merge.apply book now faults).get merge.nodeID merge.clusterPath
      = some (if merge.Refused faults then old else (merge.entry now).updated now old) := by
  cases merge with
  | processMember clusterPath m =>
    cases processed : Phonebook.processMember book now faults clusterPath m with
    | error err =>
      -- Only an error of the database is returned.
      have refused : faults ≠ {} := by
        rintro rfl
        obtain ⟨result, fine⟩ := processMember_total book now clusterPath m
        rw [fine] at processed
        cases processed
      simp only [apply, processed]
      rw [if_pos (show Refused faults (.processMember clusterPath m) from refused)]
      exact there
    | ok result =>
      obtain ⟨fine, after⟩ := processMember_ok processed
      have held : book.get m.nodeID clusterPath = some old := there
      simp only [apply, processed]
      rw [if_neg (show ¬ Refused faults (.processMember clusterPath m) from
        fun refused => refused fine), after, held]
      exact (Book.get_insert ..).trans (if_pos rfl)
  | addOrUpdateEntry m =>
    have held : book.get m.nodeID m.clusterPath = some old := there
    show (Phonebook.addOrUpdateEntry book now faults m).get m.nodeID m.clusterPath = _
    rw [addOrUpdateEntry_eq, held]
    -- The write is lost or replaces the row.
    by_cases lost : faults.Lose true
    · rw [if_pos (show faults.Lose (some old).isSome from lost),
        if_pos (show Refused faults (.addOrUpdateEntry m) from lost)]
      exact held
    · rw [if_neg (show ¬ faults.Lose (some old).isSome from lost),
        if_neg (show ¬ Refused faults (.addOrUpdateEntry m) from lost)]
      exact (Book.get_insert ..).trans (if_pos rfl)

theorem keeps_self (old : Row) : old.Keeps old := by
  refine ⟨⟨rfl, rfl, rfl, rfl, rfl, rfl, rfl⟩, rfl, rfl, rfl, le_refl _, id, ?_⟩
  rintro (status | status | status) <;> simp [status]

theorem sameResults_updated (merge : Merge) (old : Row) :
    old.tracking.SameResults ((merge.entry now).updated now old).tracking ↔
      old.tracking.SameResults untracked := by
  cases merge <;>
    exact ⟨fun kept => ⟨kept.1, kept.2, kept.3, kept.4, kept.5, kept.6, kept.7⟩,
      fun kept => ⟨kept.1, kept.2, kept.3, kept.4, kept.5, kept.6, kept.7⟩⟩

theorem statusFits_iff (merge : Merge) (old : Row) :
    ((old.status ≠ .unset → ((merge.entry now).updated now old).status ≠ .unset) ∧
        (old.status.Degraded → ((merge.entry now).updated now old).status ≠ .active)) ↔
      merge.StatusFits old := by
  cases merge with
  | addOrUpdateEntry m =>
    show ((_ → NodeStatus.active ≠ .unset) ∧ (_ → NodeStatus.active ≠ .active)) ↔ ¬ _
    simp
  | processMember clusterPath m =>
    show ((_ → (m.entry clusterPath).status ≠ .unset) ∧
      (_ → (m.entry clusterPath).status ≠ .active)) ↔ (_ ∧ _)
    simp only [MemberInfo.entry]
    have present : old.status.Degraded → old.status ≠ .unset := by
      rintro (status | status | status) <;> simp [status]
    by_cases empty : m.status = ""
    · simp only [empty, if_true]
      by_cases degraded : old.status.Degraded
      · simp [degraded, present degraded]
      · simp [degraded]
    · by_cases suspected : m.status = "suspected"
      · simp [suspected]
      · by_cases quarantined : m.status = "quarantined"
        · simp [quarantined]
        · simp [empty, suspected, quarantined]

/--
A merge keeps what is known locally about a node exactly when the database refuses it, or when the
record has nothing to take away.
-/
theorem merge_keeps_iff (merge : Merge) (book : Book) (now : Int) (faults : Faults) (old : Row)
    (there : book.get merge.nodeID merge.clusterPath = some old) :
    (∃ row, (merge.apply book now faults).get merge.nodeID merge.clusterPath = some row ∧
        old.Keeps row) ↔
      merge.Refused faults ∨ merge.Harmless now old := by
  rw [get_apply merge there]
  by_cases refused : merge.Refused faults
  · simp only [if_pos refused, Option.some.injEq]
    exact iff_of_true ⟨old, rfl, keeps_self old⟩ (.inl refused)
  · rw [or_iff_right refused]
    simp only [if_neg refused, Option.some.injEq, exists_eq_left']
    constructor
    · intro kept
      exact ⟨(sameResults_updated merge old).mp kept.results, ⟨kept.region.symm,
        kept.datacenter.symm⟩, kept.lastSeen, (statusFits_iff merge old).mp
          ⟨kept.valid, kept.degraded⟩⟩
    · intro harmless
      obtain ⟨valid, degraded⟩ := (statusFits_iff merge old).mpr harmless.status
      exact ⟨(sameResults_updated merge old).mpr harmless.results, harmless.places.1.symm,
        harmless.places.2.symm, rfl, harmless.lastSeen, valid, degraded⟩

def troubled : Row :=
  { publicKey := []
    addresses := []
    region := "r"
    datacenter := "d"
    capabilities := none
    firstSeen := 5
    lastSeen := 9000
    updatedAt := 9000
    tracking :=
      { untracked with
        connectionAttempts := 7
        connectionSuccess := 4
        successRate := 4 / 7
        consecutiveFails := 2
        reliabilityScore := 3 }
    status := .suspected }

def plain : Row :=
  { troubled with region := "", datacenter := "", tracking := untracked, status := .active }

def ofStatus (status : String) : Merge :=
  .processMember "r/d/c" ⟨"node-x", [], none, [], none, some (.new (10 * second)), status⟩

def holding (row : Row) : Book := AList.singleton ("node-x", "r/d/c") row

/--
A suspected node becomes active by a record that says it failed, and its score, its connections and
its region are gone. A record without a status leaves a row without one.
-/
theorem merge_forgets :
    (((ofStatus "failed").apply (holding troubled) 0 {}).get "node-x" "r/d/c").map
        (fun row => (row.status, row.tracking, row.region)) = some (.active, ⟨unixMilli zeroTime, 0,
          0, 0, 0, 0, unixMilli zeroTime, false, false⟩, "") ∧
      (((ofStatus "").apply (holding plain) 0 {}).get "node-x" "r/d/c").map Row.status
        = some .unset ∧
      ¬ (∃ row, ((ofStatus "failed").apply (holding troubled) 0 {}).get "node-x" "r/d/c"
          = some row ∧ troubled.Keeps row) := by
  have there : (holding troubled).get "node-x" "r/d/c" = some troubled := by decide +kernel
  have merged : ((ofStatus "failed").apply (holding troubled) 0 {}).get "node-x" "r/d/c"
      = some (((ofStatus "failed").entry 0).updated 0 troubled) :=
    get_apply (ofStatus "failed") there
  refine ⟨by decide +kernel, by decide +kernel, ?_⟩
  -- The score is enough to see it.
  rintro ⟨row, got, kept⟩
  obtain rfl := Option.some.inj (merged.symm.trans got)
  exact absurd kept.results.reliabilityScore (by decide +kernel)

/-- A record of a node to which nothing has happened keeps what is known. -/
theorem merge_keeps_plain :
    ∃ row, ((ofStatus "active").apply (holding plain) 0 {}).get "node-x" "r/d/c" = some row ∧
      plain.Keeps row := by
  have there : (holding plain).get "node-x" "r/d/c" = some plain := by decide +kernel
  -- The record was seen a second after the row.
  have harmless : (ofStatus "active").Harmless 0 plain :=
    ⟨⟨rfl, rfl, rfl, rfl, rfl, rfl, rfl⟩, ⟨rfl, rfl⟩, by decide +kernel,
      ⟨fun _ => by decide, by decide⟩⟩
  exact (merge_keeps_iff (ofStatus "active") (holding plain) 0 {} plain there).mpr (.inr harmless)

end Merge

end Falak.Phonebook

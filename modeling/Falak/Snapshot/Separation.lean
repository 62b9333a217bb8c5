import Falak.Snapshot.Transfer

/-! When the directories of two snapshots are inside the base directory and apart. -/

namespace Falak.Snapshot

def Stays (root : Path) (disk : Disk) {ε : Type} (result : Disk × Except ε Receiving) : Prop :=
  Disk.Within root disk result.1 ∧ ∀ s, result.2 = .ok s → s.disk = result.1

section Receiving

variable {wire : Wire} {faults : PullFaults} {destPath : Path}

theorem stays_receiveContent (i : Nat) (s : Receiving) (hdr : FileHeader) (r : Reader) :
    Stays destPath s.disk (receiveContent faults destPath i s hdr r) := by
  unfold receiveContent
  split
  · exact ⟨.rfl, fun _ done => by cases done⟩
  · rename_i names accepted
    dsimp only
    split
    · exact ⟨.rfl, fun _ done => by cases done⟩
    · rename_i middle made
      obtain ⟨-, made⟩ := failing_eq_ok.mp made
      have first : Disk.Within destPath s.disk middle :=
        .mkdirAll ( List.dropLast_prefix _) made
      split
      · exact ⟨first, fun _ done => by cases done⟩
      · rename_i disk created
        obtain ⟨-, created⟩ := failing_eq_ok.mp created
        have second := first.trans (.create created)
        split
        · exact ⟨second, fun _ done => by cases done⟩
        · refine ⟨second, fun s' done => ?_⟩
          cases done
          rfl

theorem stays_receiveFile (i : Nat) (s : Receiving) :
    Stays destPath s.disk (receiveFile wire faults destPath i s) := by
  unfold receiveFile
  split
  · exact ⟨.rfl, fun _ done => by cases done⟩
  · exact stays_receiveContent i s _ _

theorem stays_receiveFiles (n i : Nat) (s : Receiving) :
    Stays destPath s.disk (receiveFiles wire faults destPath n i s) := by
  induction n generalizing i s with
  | zero =>
    refine ⟨.rfl, fun s' done => ?_⟩
    cases done
    rfl
  | succ n ih =>
    have first : Stays destPath s.disk (receiveFile wire faults destPath i s) :=
      stays_receiveFile i s
    unfold receiveFiles
    split
    · rename_i disk err failed
      rw [failed] at first
      exact ⟨first.1, fun _ done => by cases done⟩
    · rename_i disk s' received
      rw [received] at first
      obtain ⟨within, same⟩ := first
      have disks : s'.disk = disk := same s' rfl
      have rest := ih (i + 1) s'
      exact ⟨within.trans (disks ▸ rest.1), rest.2⟩

end Receiving

section Calls

variable {s s' : Store} {capsuleID tag : String}

theorem within_ensureDir {fault : Option String} (made : s.ensureDir fault capsuleID tag = .ok s') :
    Disk.Within (s.snapshotPath capsuleID tag) s.disk s'.disk ∧
      s' = { s with disk := s'.disk } := by
  obtain ⟨-, made⟩ := failing_eq_ok.mp made
  cases dirs : s.disk.mkdirAll (s.snapshotPath capsuleID tag) with
  | error err => simp [dirs, Except.map] at made
  | ok disk =>
    simp only [dirs, Except.map] at made
    cases made
    exact ⟨.mkdirAll (List.prefix_append _ []) dirs, rfl⟩

theorem within_removeDir (fault : Option String) :
    Disk.Within (s.snapshotPath capsuleID tag) s.disk (s.removeDir fault capsuleID tag).disk := by
  cases fault with
  | some err => exact .rfl
  | none => exact .removeAll

theorem within_receiveSnapshot (wire : Wire) (faults : PullFaults) (now : Int)
    (hdr : TransferHeader) (stream : Reader) :
    Disk.Within (s.snapshotPath capsuleID tag) s.disk
      (receiveSnapshot wire faults now capsuleID tag s hdr stream).1.disk := by
  have files : Stays (s.snapshotPath capsuleID tag) s.disk
      (receiveFiles wire faults (s.snapshotPath capsuleID tag) hdr.fileCount.toNat 0
        ⟨s.disk, wire.decompress stream, [], 0⟩) :=
    stays_receiveFiles _ _ ⟨s.disk, wire.decompress stream, [], 0⟩
  unfold receiveSnapshot
  dsimp only
  split
  · rename_i disk i err failed
    rw [failed] at files
    exact files.1.trans (within_removeDir (s := { s with disk := disk }) faults.removeDir)
  · rename_i disk got received
    rw [received] at files
    split_ifs
    · exact files.1.trans (within_removeDir (s := { s with disk := disk }) faults.removeDir)
    · split
      · exact files.1
      · rename_i stored put
        obtain ⟨-, put⟩ := failing_eq_ok.mp put
        cases put
        exact files.1

theorem within_pullSnapshot (wire : Wire) (faults : PullFaults) (now : Int) (stream : Reader) :
    Disk.Within (s.snapshotPath capsuleID tag) s.disk
      (pullSnapshot wire faults now capsuleID tag s stream).1.disk := by
  -- Nothing is written before the directory is made.
  unfold pullSnapshot
  split
  · exact .rfl
  · exact .rfl
  · split
    · exact .rfl
    · rename_i hdr rest decoded
      split_ifs
      · exact .rfl
      · split
        · exact .rfl
        · rename_i s' err made failed
          obtain ⟨first, same⟩ := within_ensureDir made
          rw [same]
          exact first.trans (within_removeDir (s := { s with disk := s'.disk }) faults.removeDir)
        · rename_i s' made usable
          obtain ⟨first, same⟩ := within_ensureDir made
          rw [same]
          exact first.trans
            (within_receiveSnapshot (s := { s with disk := s'.disk }) wire faults now hdr rest)

end Calls

abbrev Pair := String × String

def place (pair : Pair) : Cleaned := relative [utf8 pair.1, utf8 pair.2]

def Store.at (s : Store) (pair : Pair) : Path := s.snapshotPath pair.1 pair.2

structure Untouched (s s' : Store) (pair : Pair) : Prop where
  below : ∀ q, s.at pair <+: q → s'.disk.entry q = s.disk.entry q
  outside : ∀ q, ¬ s.dir <+: q → ∀ content,
    s'.disk.entry q = some (.file content) ↔ s.disk.entry q = some (.file content)

structure Separate (s : Store) (pair other : Pair) : Prop where
  inside : s.dir <+: s.at pair ∧ s.at pair ≠ s.dir
  apart : ¬ s.at pair <+: s.at other
  ensured : ∀ fault s', s.ensureDir fault pair.1 pair.2 = .ok s' → Untouched s s' other
  pulled : ∀ wire faults now stream,
    Untouched s (pullSnapshot wire faults now pair.1 pair.2 s stream).1 other
  removed : ∀ fault, Untouched s (s.removeDir fault pair.1 pair.2) other

def Plain (pair : Pair) : Prop := (place pair).ups = 0 ∧ (place pair).names ≠ []

instance (pair : Pair) : Decidable (Plain pair) := inferInstanceAs (Decidable (_ ∧ _))

theorem Plain.at_eq {pair : Pair} (plain : Plain pair) (s : Store) :
    s.at pair = s.dir ++ (place pair).names := by
  have joined := Path.join_eq s.dir [utf8 pair.1, utf8 pair.2]
    (Nat.le_trans (Nat.le_of_eq plain.1) (Nat.zero_le _))
  rw [show (relative [utf8 pair.1, utf8 pair.2]).ups = 0 from plain.1, Nat.sub_zero,
    List.take_length] at joined
  exact joined

theorem untouched_of_within {s s' : Store} {pair other : Pair} (inside : s.dir <+: s.at pair)
    (apart : ¬ s.at pair <+: s.at other) (apart' : ¬ s.at other <+: s.at pair)
    (within : Disk.Within (s.at pair) s.disk s'.disk) : Untouched s s' other where
  below q below := by
    refine within.apart q (fun both => ?_) fun above => apart' (below.trans above)
    rcases List.prefix_or_prefix_of_prefix both below with up | down
    · exact apart up
    · exact apart' down
  outside q outside content := within.files q (fun below => outside (inside.trans below)) content

theorem separate_of_plain {pair other : Pair} (plain : Plain pair) (plain' : Plain other)
    (apart : ¬ (place pair).names <+: (place other).names)
    (apart' : ¬ (place other).names <+: (place pair).names) (s : Store) :
    Separate s pair other := by
  have here := plain.at_eq s
  have there := plain'.at_eq s
  have inside : s.dir <+: s.at pair := here ▸ List.prefix_append _ _
  have up : ¬ s.at pair <+: s.at other := by
    rwa [here, there, List.prefix_append_right_inj]
  have down : ¬ s.at other <+: s.at pair := by
    rwa [here, there, List.prefix_append_right_inj]
  exact {
    inside := ⟨inside, by rw [here]; simpa using plain.2⟩
    apart := up
    ensured := fun fault s' made =>
      untouched_of_within inside up down (within_ensureDir made).1
    pulled := fun wire faults now stream =>
      untouched_of_within inside up down (within_pullSnapshot wire faults now stream)
    removed := fun fault => untouched_of_within inside up down (within_removeDir fault) }

theorem exists_other_name (names : Path) : ∃ name : Name, names.head? ≠ some name := by
  by_cases first : names.head? = some ⟨[97], by decide⟩
  · exact ⟨⟨[98], by decide⟩, by rw [first]; decide⟩
  · exact ⟨⟨[97], by decide⟩, first⟩

theorem plain_of_inside {pair : Pair}
    (inside : ∀ s : Store, s.dir <+: s.at pair ∧ s.at pair ≠ s.dir) : Plain pair := by
  obtain ⟨name, differs⟩ := exists_other_name (place pair).names
  have joined := Path.join_eq (List.replicate (place pair).ups name) [utf8 pair.1, utf8 pair.2]
    (by rw [List.length_replicate]; exact Nat.le_refl _)
  obtain ⟨below, moved⟩ := inside ⟨List.replicate (place pair).ups name, .empty, ∅⟩
  have same : Store.at ⟨List.replicate (place pair).ups name, .empty, ∅⟩ pair =
      (place pair).names := by
    refine joined.trans ?_
    rw [List.length_replicate, show (relative _).ups = (place pair).ups from rfl, Nat.sub_self]
    rfl
  rw [same] at below moved
  cases ups : (place pair).ups with
  | zero => exact ⟨ups, by simpa [ups] using moved⟩
  | succ n =>
    rw [ups, List.replicate_succ] at below
    obtain ⟨rest, split⟩ := below
    rw [← split] at differs
    exact absurd rfl differs

/--
Two snapshots are confined and separate for every base directory exactly if their capsules and
tags do not lead out of it or stay in it, and none of them leads through the other.
-/
theorem separate_iff (pair other : Pair) :
    (∀ s : Store, Separate s pair other ∧ Separate s other pair) ↔
      Plain pair ∧ Plain other ∧ ¬ (place pair).names <+: (place other).names ∧
        ¬ (place other).names <+: (place pair).names := by
  constructor
  · intro separate
    have plain := plain_of_inside fun s => (separate s).1.inside
    have plain' := plain_of_inside fun s => (separate s).2.inside
    obtain ⟨first, second⟩ := separate ⟨[], .empty, ∅⟩
    have up := first.apart
    have down := second.apart
    rw [plain.at_eq, plain'.at_eq] at up down
    exact ⟨plain, plain', up, down⟩
  · rintro ⟨plain, plain', up, down⟩ s
    exact ⟨separate_of_plain plain plain' up down s, separate_of_plain plain' plain down up s⟩

def kept (dir : Name) (pair : Pair) (file : Name) : Store :=
  ⟨[dir], .single (Path.join [dir] [utf8 pair.1, utf8 pair.2] ++ [file]) [7], ∅⟩

def snapshots : Name := ⟨utf8 "snapshots", by decide +kernel⟩

/--
A capsule that is called like the parent directory has its snapshots outside the base directory.
Removing the snapshot of one image removes a file of another one, whose reference goes on.
-/
theorem snapshots_overlap :
    (∀ s : Store, s.dir = [snapshots] → ¬ s.dir <+: s.at ("..", "v1")) ∧
      ∃ s : Store, s.dir = [snapshots] ∧
        s.disk.entry (s.at ("web", "nginx/alpine") ++ [snapshots]) = some (.file [7]) ∧
        (s.removeDir none "web" "nginx").disk.entry
          (s.at ("web", "nginx/alpine") ++ [snapshots]) = none := by
  constructor
  · rintro ⟨dir, disk, records⟩ rfl
    change ¬ [snapshots] <+: Path.join [snapshots] [utf8 "..", utf8 "v1"]
    decide +kernel
  · exact ⟨kept snapshots ("web", "nginx/alpine") snapshots, rfl, by decide +kernel,
      by decide +kernel⟩

end Falak.Snapshot

import Falak.Snapshot.RoundTrip
import Falak.Snapshot.Separation

/-!
What a pull that fails leaves behind.

Files are written to the directory of the snapshot as they arrive, and the directory is removed when
one of them does not. So the files of an earlier snapshot are lost with it.
-/

namespace Falak.Snapshot

/-- The errors before anything is written. -/
def PullError.early : PullError → Bool
  | openStream _ | encodeRequest _ | decodeHeader _ | absent _ _ | ensureDir _ => true
  | zstdReader _ | receiveFile _ _ _ | checksum _ _ | storePut _ => false

def FilesKept (root : Path) (d d' : Disk) : Prop :=
  ∀ q, root <+: q → ∀ content,
    d'.entry q = some (.file content) ↔ d.entry q = some (.file content)

inductive Aborted (fault : Option String) (capsuleID tag : String) (s : Store) :
    PullError → Store → Prop
  | early {err : PullError} (unwritten : err.early = true) : Aborted fault capsuleID tag s err s
  | removed {err : PullError} (disk : Disk) (written : err.early = false) :
      Aborted fault capsuleID tag s err
        (Store.removeDir { s with disk := disk } fault capsuleID tag)
  | unrecorded (disk : Disk) (err : String) :
      Aborted fault capsuleID tag s (.storePut err) { s with disk := disk }

variable {wire : Wire} {faults : PullFaults} {now : Int} {capsuleID tag : String} {s s' : Store}
  {stream : Reader} {err : PullError}

theorem aborted_of_receiveSnapshot {hdr : TransferHeader} {disk : Disk}
    (failed : receiveSnapshot wire faults now capsuleID tag { s with disk := disk } hdr stream
      = (s', .error err)) : Aborted faults.removeDir capsuleID tag s err s' := by
  unfold receiveSnapshot at failed
  dsimp only at failed
  split at failed
  · cases failed
    exact .removed _ rfl
  · split_ifs at failed
    · cases failed
      exact .removed _ rfl
    · split at failed
      · cases failed
        exact .unrecorded _ _
      · cases failed

theorem aborted_of_pullSnapshot
    (failed : pullSnapshot wire faults now capsuleID tag s stream = (s', .error err)) :
    Aborted faults.removeDir capsuleID tag s err s' := by
  unfold pullSnapshot at failed
  split at failed
  · cases failed
    exact .early rfl
  · cases failed
    exact .early rfl
  · split at failed
    · cases failed
      exact .early rfl
    · split_ifs at failed
      · cases failed
        exact .early rfl
      · -- From here on the directory is there.
        split at failed
        · cases failed
          exact .early rfl
        · rename_i made _
          rw [(within_ensureDir made).2] at failed
          cases failed
          exact .removed _ rfl
        · rename_i made _
          rw [(within_ensureDir made).2] at failed
          exact aborted_of_receiveSnapshot failed

theorem entry_removeAll {root q : Path} {d : Disk} (below : root <+: q) :
    (d.removeAll root).entry q = none :=
  if_pos below

theorem filesKept_removeAll_iff {root : Path} {d d' : Disk} :
    FilesKept root d (d'.removeAll root) ↔ ∀ q, root <+: q → ¬ d.IsFile q := by
  constructor
  · rintro kept q below ⟨content, file⟩
    have there := (kept q below content).mpr file
    rw [entry_removeAll below] at there
    cases there
  · intro free q below content
    rw [entry_removeAll below]
    exact iff_of_false nofun fun file => free q below ⟨content, file⟩

/-- A store with one recorded snapshot of one file. -/
def stored : Store :=
  ⟨[], .single (Path.join [] [utf8 "web", utf8 "v1"] ++ [snapshots]) [7], oneRecord⟩

/-- An answer that ends after its header. -/
noncomputable def cutOff : Reader := ⟨[plainWire.header.line { fileCount := 1 }], none⟩

end Falak.Snapshot

import Falak.Snapshot.Transfer

/-! What the receiver of a stream makes of the files that were sent on it. -/

namespace Falak.Snapshot

section Receive

variable (wire : Wire) (faults : PullFaults) (destPath : Path)

def arrival (f : Path × Bytes) : Option Path := accept (wire.text f.1.text)

def arrivals : Files → Option Files
  | [] => some []
  | f :: rest => (arrival wire f).bind fun names => (arrivals rest).map ((names, f.2) :: ·)

structure PullFaults.Spare (i : Nat) : Prop where
  mkdir : faults.mkdir i = none
  create : faults.create i = none
  write : faults.write i = none

structure Received (i : Nat) (f : Path × Bytes) (disk disk' : Disk) : Prop where
  short : Short (wire.marshal (fileHeader f))
  spared : faults.Spare i
  placed : ∃ names, arrival wire f = some names ∧ disk.put (destPath ++ names) f.2 = .ok disk'

structure ReceivedAll (i : Nat) (files : Files) (disk disk' : Disk) : Prop where
  short : ∀ f ∈ files, Short (wire.marshal (fileHeader f))
  spared : ∀ j < files.length, faults.Spare (i + j)
  placed : ∃ stored, arrivals wire files = some stored ∧
    disk.putAll (stored.map fun f => (destPath ++ f.1, f.2)) = .ok disk'

variable {wire faults destPath} {i : Nat} {f : Path × Bytes} {s s' : Receiving} {disk : Disk}
  {rest : Bytes}

theorem readFileHeader_sendFile {r : Reader} (there : r.bytes = sendFile wire f ++ rest) :
    (Short (wire.marshal (fileHeader f)) → ∃ r', r'.bytes = f.2 ++ rest ∧
        readFileHeader wire r = .ok (⟨wire.text f.1.text, f.2.length⟩, r')) ∧
      (¬ Short (wire.marshal (fileHeader f)) → ∃ err, readFileHeader wire r = .error err) := by
  rw [sendFile, List.append_assoc] at there
  obtain ⟨len, first, length, part, second, header, read⟩ := Reader.readFull_field there
  constructor
  · intro short
    rw [if_pos short] at read
    obtain ⟨rfl, left⟩ := read
    refine ⟨second, left, ?_⟩
    simp only [readFileHeader, length, header, wire.unmarshal_marshal]
    rfl
  · intro long
    rw [if_neg long] at read
    obtain ⟨err, unread⟩ := wire.unmarshal_cut _ _ read.1 read.2
    exact ⟨.unmarshal err, by simp only [readFileHeader, length, header, unread]⟩

theorem receiveFile_eq_ok (there : s.reader.bytes = sendFile wire f ++ rest)
    (received : Received wire faults destPath i f s.disk disk) :
    ∃ r, r.bytes = rest ∧ receiveFile wire faults destPath i s
      = (disk, .ok ⟨disk, r, s.hashed ++ f.2, s.received + f.2.length⟩) := by
  obtain ⟨short, spared, names, accepted, stored⟩ := received
  obtain ⟨r, there, header⟩ := (readFileHeader_sendFile there).1 short
  obtain ⟨r', copied, left⟩ := Reader.copyN_append rfl there
  refine ⟨r', left, ?_⟩
  unfold arrival at accepted
  -- The directory is made before the file.
  cases made : s.disk.mkdirAll (destPath ++ names).dropLast with
  | error err => simp [Disk.put, made, Except.bind] at stored
  | ok middle =>
    simp only [Disk.put, made, Except.bind] at stored
    simp [receiveFile, header, receiveContent, accepted, failing, spared.mkdir, spared.create,
      spared.write, made, copied, stored]

theorem received_of_receiveFile (there : s.reader.bytes = sendFile wire f ++ rest)
    (done : (receiveFile wire faults destPath i s).2 = .ok s') :
    Received wire faults destPath i f s.disk s'.disk := by
  obtain ⟨read, unread⟩ := readFileHeader_sendFile there
  by_cases short : Short (wire.marshal (fileHeader f))
  · obtain ⟨r, there, header⟩ := read short
    obtain ⟨r', copied, -⟩ := Reader.copyN_append rfl there
    simp only [receiveFile, header, receiveContent, Int.toNat_natCast, copied] at done
    cases accepted : accept (wire.text f.1.text) with
    | none => simp [accepted] at done
    | some names =>
      simp only [accepted] at done
      split at done
      · cases done
      · rename_i middle made
        obtain ⟨mkdir, made⟩ := failing_eq_ok.mp made
        split at done
        · cases done
        · rename_i disk stored
          obtain ⟨create, stored⟩ := failing_eq_ok.mp stored
          cases write : faults.write i with
          | some fault => simp [write] at done
          | none =>
            simp only [write, Option.map_none, Option.getD_none, Option.none_or] at done stored
            cases done
            refine ⟨short, ⟨mkdir, create, write⟩, names, accepted, ?_⟩
            rw [Disk.put, made]
            exact stored
  · obtain ⟨err, header⟩ := unread short
    simp [receiveFile, header] at done

theorem accept_text (p : Path) : accept p.text = some p := by
  simp [accept, clean_text]

variable {files : Files}

theorem arrivals_of_text (texts : ∀ f ∈ files, wire.text f.1.text = f.1.text) :
    arrivals wire files = some files := by
  induction files with
  | nil => rfl
  | cons f files ih =>
    have others := ih fun g there => texts g (List.mem_cons_of_mem f there)
    rw [arrivals, arrival, texts f List.mem_cons_self, accept_text, others]
    rfl

theorem length_arrivals {stored : Files} (arrived : arrivals wire files = some stored) :
    stored.length = files.length := by
  induction files generalizing stored with
  | nil =>
    cases arrived
    rfl
  | cons f files ih =>
    rw [arrivals, Option.bind_eq_some_iff] at arrived
    obtain ⟨names, -, arrived⟩ := arrived
    obtain ⟨others, accepted, rfl⟩ := Option.map_eq_some_iff.mp arrived
    simp [ih accepted]

theorem receivedAll_cons_iff {disk' : Disk} :
    ReceivedAll wire faults destPath i (f :: files) disk disk' ↔
      ∃ middle, Received wire faults destPath i f disk middle ∧
        ReceivedAll wire faults destPath (i + 1) files middle disk' := by
  constructor
  · rintro ⟨short, spared, stored, arrived, made⟩
    rw [arrivals, Option.bind_eq_some_iff] at arrived
    obtain ⟨names, accepted, arrived⟩ := arrived
    obtain ⟨others, accepted', rfl⟩ := Option.map_eq_some_iff.mp arrived
    obtain ⟨middle, first, made⟩ := Disk.putAll_cons_eq_ok.mp made
    refine ⟨middle, ⟨short f List.mem_cons_self, spared 0 (by simp), names, accepted, first⟩,
      fun g there => short g (List.mem_cons_of_mem f there), fun j inside => ?_, others,
      accepted', made⟩
    rw [Nat.add_assoc, Nat.add_comm 1]
    exact spared (j + 1) (by simpa using inside)
  · rintro ⟨middle, ⟨short, spared, names, accepted, first⟩, shorts, spares, others, arrived, made⟩
    refine ⟨?_, fun j inside => ?_, (names, f.2) :: others, ?_, ?_⟩
    · intro g there
      rcases List.mem_cons.mp there with rfl | there
      · exact short
      · exact shorts g there
    · cases j with
      | zero => exact spared
      | succ j =>
        rw [Nat.add_comm j, ← Nat.add_assoc]
        exact spares j (by simpa using inside)
    · rw [arrivals, accepted, arrived]
      rfl
    · rw [List.map_cons]
      exact Disk.putAll_cons_eq_ok.mpr ⟨middle, first, made⟩

theorem receiveFiles_eq_ok (there : s.reader.bytes = sendFiles wire files)
    (received : ReceivedAll wire faults destPath i files s.disk disk) :
    ∃ r, receiveFiles wire faults destPath files.length i s
      = (disk, .ok ⟨disk, r, s.hashed ++ files.contents, s.received + files.totalSize⟩) := by
  -- Each file leaves the bytes of the others.
  induction files generalizing i s with
  | nil =>
    obtain ⟨-, -, stored, arrived, made⟩ := received
    cases arrived
    cases made
    exact ⟨s.reader, by simp [receiveFiles, Files.contents, Files.totalSize]⟩
  | cons f files ih =>
    obtain ⟨middle, first, others⟩ := receivedAll_cons_iff.mp received
    obtain ⟨r, left, done⟩ := receiveFile_eq_ok there first
    obtain ⟨r', rest⟩ := ih (i := i + 1)
      (s := ⟨middle, r, s.hashed ++ f.2, s.received + f.2.length⟩) left others
    refine ⟨r', ?_⟩
    rw [List.length_cons, receiveFiles, done]
    simp only [rest, Files.contents, Files.totalSize, List.flatMap_cons, List.map_cons,
      List.sum_cons, List.append_assoc, Int.add_assoc]

theorem receivedAll_of_receiveFiles (there : s.reader.bytes = sendFiles wire files)
    (done : (receiveFiles wire faults destPath files.length i s).2 = .ok s') :
    ReceivedAll wire faults destPath i files s.disk s'.disk := by
  -- Each file leaves the bytes of the others.
  induction files generalizing i s with
  | nil =>
    cases done
    exact ⟨nofun, nofun, [], rfl, rfl⟩
  | cons f files ih =>
    rw [List.length_cons, receiveFiles] at done
    cases first : receiveFile wire faults destPath i s with
    | mk disk result =>
      cases result with
      | error err =>
        rw [first] at done
        cases done
      | ok middle =>
        rw [first] at done
        have received := received_of_receiveFile there (congrArg Prod.snd first)
        obtain ⟨r, left, same⟩ := receiveFile_eq_ok there received
        rw [first] at same
        have reader : middle.reader = r :=
          congrArg Receiving.reader (Except.ok.inj (congrArg Prod.snd same))
        exact receivedAll_cons_iff.mpr ⟨_, received, ih (reader ▸ left) done⟩

theorem receiveFiles_nil {n : Nat} (empty : s.reader.bytes = []) :
    ∃ disk err, receiveFiles wire faults destPath (n + 1) i s = (disk, .error err) := by
  obtain ⟨err, unread⟩ := Reader.readFull_of_lt (r := s.reader) (n := 4) (by simp [empty])
  refine ⟨s.disk, (i, .headerLength err), ?_⟩
  simp only [receiveFiles, receiveFile, readFileHeader, unread]

end Receive

end Falak.Snapshot

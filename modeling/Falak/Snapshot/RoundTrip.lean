import Falak.Snapshot.Receive

/-! When the receiver of a snapshot has what the sender has. -/

namespace Falak.Snapshot

structure Visit (disk : Disk) (root : Path) where
  files : Files
  holds : disk.Holds root files
  once : (files.map Prod.fst).Nodup

structure Transfer where
  wire : Wire
  server : Store
  client : Store
  capsuleID : String
  tag : String
  visit : Visit server.disk (server.snapshotPath capsuleID tag)
  recorded : (server.records.lookup (capsuleID, tag)).isSome = true
  fault : Option String
  faults : PullFaults
  now : Int
  requested : Reader
  asked : requested.bytes = wire.request.line ⟨capsuleID, tag⟩
  stream : Reader
  answered : stream.bytes = handleStream wire server fault (fun _ => .ok visit.files) requested

section Pull

variable {wire : Wire} {faults : PullFaults} {now : Int} {capsuleID tag : String} {s s' : Store}
  {hdr : TransferHeader} {stream : Reader} {record : Record}

theorem receiveSnapshot_eq_ok_iff :
    receiveSnapshot wire faults now capsuleID tag s hdr stream = (s', .ok record) ↔
      ∃ disk got, receiveFiles wire faults (s.snapshotPath capsuleID tag) hdr.fileCount.toNat 0
          ⟨s.disk, wire.decompress stream, [], 0⟩ = (disk, .ok got) ∧
        wire.sha256 got.hashed = hdr.checksum ∧
        record = pulledRecord now capsuleID tag (s.snapshotPath capsuleID tag) got.received
          hdr.checksum ∧
        Store.put { s with disk := disk } faults.put record = .ok s' := by
  simp only [receiveSnapshot]
  rcases received : receiveFiles wire faults (s.snapshotPath capsuleID tag) hdr.fileCount.toNat 0
    ⟨s.disk, wire.decompress stream, [], 0⟩ with ⟨disk, err | got⟩
  · simp
  · dsimp only
    by_cases same : wire.sha256 got.hashed = hdr.checksum
    · rw [same, if_neg (by simp)]
      -- The record is stored last.
      constructor
      · intro stored
        split at stored
        · cases stored
        · rename_i put
          cases stored
          exact ⟨disk, got, rfl, same, rfl, put⟩
      · rintro ⟨disk, got, found, -, rfl, put⟩
        cases found
        rw [put]
    · rw [if_pos same]
      constructor
      · intro stored
        cases stored
      · rintro ⟨disk, got, found, sum, -⟩
        cases found
        exact absurd sum same

theorem pullSnapshot_eq_ok_iff :
    pullSnapshot wire faults now capsuleID tag s stream = (s', .ok record) ↔
      (faults.newStream = none ∧ faults.request = none) ∧
      ∃ hdr r, wire.header.decodeFrom stream = .ok (hdr, r) ∧ hdr.fileCount ≠ 0 ∧
        (faults.ensureDir = none ∧ faults.newReader = none) ∧
        ∃ disk, s.disk.mkdirAll (s.snapshotPath capsuleID tag) = .ok disk ∧
          receiveSnapshot wire faults now capsuleID tag { s with disk := disk } hdr r
            = (s', .ok record) := by
  unfold pullSnapshot
  cases newStream : faults.newStream with
  | some err => simp
  | none =>
    cases request : faults.request with
    | some err => simp
    | none =>
      cases decoded : wire.header.decodeFrom stream with
      | error err => simp
      | ok found =>
        obtain ⟨hdr, r⟩ := found
        by_cases empty : hdr.fileCount = 0
        · simp [empty]
        · cases ensured : faults.ensureDir with
          | some err => simp [empty, Store.ensureDir, failing]
          | none =>
            cases made : s.disk.mkdirAll (s.snapshotPath capsuleID tag) with
            | error err => simp [empty, Store.ensureDir, failing, made, Except.map]
            | ok disk =>
              cases faults.newReader <;>
                simp [empty, Store.ensureDir, failing, made, Except.map]

theorem handleStream_recorded {fault : Option String} {files : Files}
    (asked : stream.bytes = wire.request.line ⟨capsuleID, tag⟩)
    (recorded : (s.records.lookup (capsuleID, tag)).isSome = true) :
    handleStream wire s fault (fun _ => .ok files) stream
      = if fault = none then
          wire.header.line (transferHeader wire capsuleID tag files)
            ++ wire.compress (sendFiles wire files)
        else wire.header.line {} := by
  obtain ⟨_, _, _, -, -, -, decoded⟩ := wire.request.exists_decodeFrom asked
  obtain ⟨record, there⟩ := Option.isSome_iff_exists.mp recorded
  rw [handleStream, decoded]
  cases fault with
  | none => simp [Store.get, failing, there]
  | some err => simp [Store.get, failing]

end Pull

namespace Transfer

variable (t : Transfer)

def files : Files := t.visit.files

def destPath : Path := t.client.snapshotPath t.capsuleID t.tag

def header : TransferHeader := transferHeader t.wire t.capsuleID t.tag t.files

def pull : Store × Except PullError Record :=
  pullSnapshot t.wire t.faults t.now t.capsuleID t.tag t.client t.stream

def RoundTrip : Prop :=
  ∃ s record, t.pull = (s, .ok record) ∧
    s.records.lookup (t.capsuleID, t.tag) = some record ∧
    record.size = t.files.totalSize ∧ record.checksum = t.wire.sha256 t.files.contents ∧
    ∀ p content, s.disk.entry (t.destPath ++ p) = some (.file content) ↔
      t.server.disk.entry (t.server.snapshotPath t.capsuleID t.tag ++ p) = some (.file content)

def Aligned : Prop :=
  ∃ first last rest, t.stream.reads = first ++ last :: rest ∧
    first.flatten.length < (t.wire.header.encode t.header).length ∧
    (first ++ [last]).flatten = t.wire.header.line t.header

structure Fits : Prop where
  served : t.fault = none
  opened : t.faults.newStream = none ∧ t.faults.request = none
  aligned : t.Aligned
  nonempty : t.files ≠ []
  ensured : t.faults.ensureDir = none ∧ t.faults.newReader = none
  spared : ∀ i < t.files.length, t.faults.Spare i
  short : ∀ f ∈ t.files, Short (t.wire.marshal (fileHeader f))
  room : ∃ stored, arrivals t.wire t.files = some stored ∧
    t.client.disk.Room t.destPath t.files stored
  put : t.faults.put = none

variable {t}

theorem bytes_stream :
    t.stream.bytes = if t.fault = none then
      t.wire.header.line t.header ++ t.wire.compress (sendFiles t.wire t.files)
    else t.wire.header.line {} := by
  rw [t.answered]
  exact handleStream_recorded t.asked t.recorded

theorem exists_decodeFrom_header (served : t.fault = none) :
    ∃ r, t.wire.header.decodeFrom t.stream = .ok (t.header, r) ∧
      (t.Aligned → (t.wire.decompress r).bytes = sendFiles t.wire t.files) ∧
      (¬ t.Aligned → (t.wire.decompress r).bytes = []) := by
  have sent := t.bytes_stream
  rw [if_pos served, Json.line, List.append_assoc] at sent
  have whole {first rest : List Bytes} {last : Bytes}
      (split : t.stream.reads = first ++ last :: rest) :
      (first ++ [last]).flatten ++ rest.flatten
        = t.wire.header.encode t.header
          ++ ([10] ++ t.wire.compress (sendFiles t.wire t.files)) := by
    rw [← sent, Reader.bytes, split]
    simp
  by_cases aligned : t.Aligned
  · obtain ⟨first, last, rest, split, few, line⟩ := aligned
    have many : (t.wire.header.encode t.header).length ≤ (first ++ [last]).flatten.length := by
      rw [line, Json.line, List.length_append]
      omega
    refine ⟨_, t.wire.header.decodeFrom_append sent split few many, fun _ => ?_, fun other => ?_⟩
    · apply t.wire.decompress_compress
      have together := whole split
      rw [line, Json.line, List.append_assoc, List.append_right_inj] at together
      exact (List.append_right_inj [10]).mp together
    · exact absurd ⟨first, last, rest, split, few, line⟩ other
  · obtain ⟨first, last, rest, split, few, many, decoded⟩ :=
      t.wire.header.exists_decodeFrom sent
    refine ⟨_, decoded, fun other => absurd other aligned, fun _ => ?_⟩
    have together := whole split
    obtain ⟨extra, taken⟩ := List.prefix_of_prefix_length_le (List.prefix_append ..)
      ⟨_, together⟩ many
    rw [← taken, List.append_assoc, List.append_right_inj] at together
    cases extra with
    | nil => exact t.wire.decompress_newline _ _ together
    | cons b extra =>
      obtain ⟨rfl, left⟩ := List.cons.inj together
      have lost : extra ++ rest.flatten = t.wire.compress (sendFiles t.wire t.files) := left
      refine t.wire.decompress_headless _ extra _ (fun empty => ?_) lost
      subst empty
      exact aligned ⟨first, last, rest, split, few, taken.symm⟩

theorem served_of_decodeFrom {hdr : TransferHeader} {r : Reader}
    (decoded : t.wire.header.decodeFrom t.stream = .ok (hdr, r)) (counted : hdr.fileCount ≠ 0) :
    t.fault = none := by
  by_contra failed
  -- Otherwise it sends a header without files.
  have sent := t.bytes_stream
  rw [if_neg failed, Json.line] at sent
  obtain ⟨_, _, _, -, -, -, empty⟩ := t.wire.header.exists_decodeFrom sent
  rw [decoded] at empty
  cases empty
  exact counted rfl

theorem receiveFiles_ne_ok {disk disk' : Disk} {r : Reader} {got : Receiving}
    (nonempty : t.files ≠ []) (lost : (t.wire.decompress r).bytes = []) :
    receiveFiles t.wire t.faults t.destPath t.files.length 0 ⟨disk, t.wire.decompress r, [], 0⟩
      ≠ (disk', .ok got) := by
  intro received
  -- The first file is missing already.
  obtain ⟨n, length⟩ := Nat.exists_eq_succ_of_ne_zero (List.length_pos_iff.mpr nonempty).ne'
  obtain ⟨_, _, failed⟩ := receiveFiles_nil (s := ⟨disk, t.wire.decompress r, [], 0⟩) lost
  rw [length, failed] at received
  cases received

theorem RoundTrip.fits (trip : t.RoundTrip) : t.Fits := by
  obtain ⟨s, record, pulled, -, -, -, same⟩ := trip
  obtain ⟨opened, hdr, r, decoded, counted, ensured, disk₁, made, received⟩ :=
    pullSnapshot_eq_ok_iff.mp pulled
  obtain ⟨disk₂, got, files, -, -, put⟩ := receiveSnapshot_eq_ok_iff.mp received
  obtain ⟨unfailing, rfl⟩ : t.faults.put = none ∧ _ = s := by
    obtain ⟨unfailing, stored⟩ := failing_eq_ok.mp put
    exact ⟨unfailing, Except.ok.inj stored⟩
  have served := served_of_decodeFrom decoded counted
  obtain ⟨_, decoded', whole, lost⟩ := exists_decodeFrom_header served
  rw [decoded] at decoded'
  cases decoded'
  have nonempty : t.files ≠ [] := by
    intro empty
    exact counted (by simp [header, transferHeader, empty])
  have count : t.header.fileCount.toNat = t.files.length := rfl
  rw [count] at files
  have aligned : t.Aligned := by
    by_contra other
    exact receiveFiles_ne_ok nonempty (lost other) files
  have all := receivedAll_of_receiveFiles (whole aligned) (congrArg Prod.snd files)
  obtain ⟨_, done⟩ := receiveFiles_eq_ok (whole aligned) all
  have disks : disk₂ = got.disk := by
    rw [files] at done
    exact congrArg Prod.fst done
  obtain ⟨short, spared, stored, arrived, written⟩ := all
  have holds : got.disk.Holds t.destPath t.files := by
    intro p content
    rw [← disks]
    exact (same p content).trans (t.visit.holds p content)
  have some_stored : stored ≠ [] := by
    rw [← List.length_pos_iff, length_arrivals arrived]
    exact List.length_pos_iff.mpr nonempty
  exact
    { served := served
      opened := opened
      aligned := aligned
      nonempty := nonempty
      ensured := ensured
      spared := fun i inside => Nat.zero_add i ▸ spared i inside
      short := short
      room := ⟨stored, arrived,
        .of_putAll t.visit.holds.apart some_stored made written holds⟩
      put := unfailing }

theorem Fits.roundTrip (fits : t.Fits) : t.RoundTrip := by
  obtain ⟨r, decoded, whole, -⟩ := exists_decodeFrom_header fits.served
  obtain ⟨stored, arrived, room⟩ := fits.room
  obtain ⟨disk₁, made⟩ := Disk.mkdirAll_eq_ok room.above
  obtain ⟨disk₂, written⟩ := room.exists_putAll t.visit.holds.apart made
  have holds := room.holds made written
  have all : ReceivedAll t.wire t.faults t.destPath 0 t.files disk₁ disk₂ :=
    ⟨fits.short, fun i inside => (Nat.zero_add i).symm ▸ fits.spared i inside, stored, arrived,
      written⟩
  obtain ⟨r', files⟩ := receiveFiles_eq_ok
    (s := ⟨disk₁, t.wire.decompress r, [], 0⟩) (whole fits.aligned) all
  rw [List.nil_append, Int.zero_add] at files
  have counted : t.header.fileCount ≠ 0 := by
    have length := List.length_pos_iff.mpr fits.nonempty
    simp only [header, transferHeader]
    omega
  refine ⟨_, _, pullSnapshot_eq_ok_iff.mpr ⟨fits.opened, t.header, r, decoded, counted,
    fits.ensured, disk₁, made, receiveSnapshot_eq_ok_iff.mpr ⟨disk₂, _, files, rfl, rfl,
      failing_eq_ok.mpr ⟨fits.put, rfl⟩⟩⟩, ?_, rfl, rfl, fun p content => ?_⟩
  · exact AList.lookup_insert ..
  · exact (holds p content).trans (t.visit.holds p content).symm

/--
The receiver has exactly what the sender has when a read ends with the header's line and the
snapshot is a directory whose files fit into the receiver's directory under the names they arrive
with, and in no other case.
-/
theorem round_trip_iff (t : Transfer) : t.RoundTrip ↔ t.Fits :=
  ⟨RoundTrip.fits, Fits.roundTrip⟩

end Transfer

def numeral (n : Int) : Bytes := (if n < 0 then 0 else 1) :: List.replicate n.natAbs 0

theorem numeral_inj {m n : Int} (same : numeral m = numeral n) : m = n := by
  obtain ⟨sign, rest⟩ := List.cons.inj same
  have sizes := congrArg List.length rest
  rw [List.length_replicate, List.length_replicate] at sizes
  split at sign <;> split at sign <;> first | omega | cases sign

def plainHeader (h : FileHeader) : Bytes := words [h.name, numeral h.size]

theorem plainHeader_unique {h h' : FileHeader} (inside : plainHeader h <+: plainHeader h') :
    h = h' := by
  have parts := words_unique inside rfl
  simp only [List.cons.injEq, and_true] at parts
  exact FileHeader.ext parts.1 (numeral_inj parts.2)

open Classical in
noncomputable def plainWire : Wire where
  request := .ofPrefixFree (fun r => words [utf8 r.capsuleID, utf8 r.tag]) (by simp [words, word])
    (by
      intro a b inside
      have parts := words_unique inside rfl
      simp only [List.cons.injEq, and_true] at parts
      exact TransferRequest.ext (utf8_inj parts.1) (utf8_inj parts.2))
  header := .ofPrefixFree
    (fun h => words [utf8 h.capsuleID, utf8 h.tag, utf8 h.checksum, numeral h.totalSize,
      numeral h.fileCount])
    (by simp [words, word])
    (by
      intro a b inside
      have parts := words_unique inside rfl
      simp only [List.cons.injEq, and_true] at parts
      exact TransferHeader.ext (utf8_inj parts.1) (utf8_inj parts.2.1) (utf8_inj parts.2.2.1)
        (numeral_inj parts.2.2.2.1) (numeral_inj parts.2.2.2.2))
  marshal := plainHeader
  unmarshal bytes :=
    if there : ∃ h, plainHeader h = bytes then .ok there.choose else .error "invalid header"
  text := id
  sha256 data := String.ofList (data.map fun b => Char.ofNat b.toNat)
  compress data := (word data).reverse
  decompress r :=
    if there : ∃ data, (word data).reverse = r.bytes then ⟨[there.choose], none⟩ else ⟨[], none⟩
  unmarshal_marshal h := by
    have there : ∃ h', plainHeader h' = plainHeader h := ⟨h, rfl⟩
    have same : there.choose = h := plainHeader_unique (by rw [there.choose_spec])
    rw [dif_pos there, same]
    rfl
  unmarshal_cut h part inside cut := by
    refine ⟨_, dif_neg ?_⟩
    rintro ⟨h', rfl⟩
    exact cut (by rw [plainHeader_unique inside])
  decompress_compress data r there := by
    have some_data : ∃ data, (word data).reverse = r.bytes := ⟨data, there.symm⟩
    have same := List.reverse_injective (some_data.choose_spec.trans there)
    have inside : word some_data.choose ++ [] <+: word data ++ [] := by rw [same]
    rw [dif_pos some_data, (word_append_unique inside).1]
    simp [Reader.bytes]
  decompress_newline rest r there := by
    rw [dif_neg]
    · rfl
    · rintro ⟨data, same⟩
      rw [there] at same
      simp [word] at same
  decompress_headless data lost r nonempty there := by
    rw [dif_neg]
    · rfl
    · rintro ⟨data', same⟩
      rw [← same, ← List.reverse_eq_iff, List.reverse_append, List.reverse_reverse] at there
      have inside : word data' ++ lost.reverse <+: word data ++ [] := by simp [there]
      have empty := (word_append_unique inside).2
      simp [nonempty] at empty

def oneRecord : AList fun _ : String × String => Record :=
  (∅ : AList _).insert ("web", "v1") (pulledRecord 0 "web" "v1" [] 1 "")

theorem isSome_oneRecord : (oneRecord.lookup ("web", "v1")).isSome = true := by
  rfl

noncomputable def oneRequest : Reader := ⟨[plainWire.request.line ⟨"web", "v1"⟩], none⟩

theorem bytes_oneRequest : oneRequest.bytes = plainWire.request.line ⟨"web", "v1"⟩ := by
  simp [oneRequest, Reader.bytes]

noncomputable def sample (p : Path) (pieces : Bool) : Transfer :=
  let root : Path := Path.join [] [utf8 "web", utf8 "v1"]
  let line := plainWire.header.line (transferHeader plainWire "web" "v1" [(p, [7])])
  let data := plainWire.compress (sendFiles plainWire [(p, [7])])
  { wire := plainWire
    server := ⟨[], .single (root ++ p) [7], oneRecord⟩
    client := ⟨[], .empty, ∅⟩
    capsuleID := "web"
    tag := "v1"
    visit := ⟨[(p, [7])], Disk.holds_single root p [7], by simp⟩
    recorded := isSome_oneRecord
    fault := none
    faults := {}
    now := 0
    requested := oneRequest
    asked := bytes_oneRequest
    stream := ⟨if pieces then [line, data] else [line ++ data], none⟩
    answered := by
      rw [handleStream_recorded bytes_oneRequest isSome_oneRecord]
      cases pieces <;> simp [Reader.bytes, line, data] }

/--
A snapshot that is a single file is not received, and neither is a directory whose answer arrives in
one piece.
-/
theorem round_trip_fails :
    ¬ (sample [] true).RoundTrip ∧ ¬ (sample [⟨[97], by decide⟩] false).RoundTrip := by
  constructor
  · intro trip
    obtain ⟨stored, -, room⟩ := trip.fits.room
    exact room.below ([], [7]) List.mem_cons_self rfl
  · intro trip
    obtain ⟨first, last, rest, split, -, line⟩ := trip.fits.aligned
    cases first with
    | cons piece first =>
      have sizes := congrArg List.length split
      simp [sample] at sizes
    | nil =>
      -- The only piece is longer than the line.
      obtain ⟨rfl, -⟩ := List.cons.inj split
      have sizes := congrArg List.length line
      simp [sample, plainWire, word, Transfer.header, Transfer.files] at sizes

/-- A directory whose answer arrives in two pieces is received. -/
theorem round_trip_pieces : (sample [⟨[97], by decide⟩] true).RoundTrip := by
  refine (Transfer.round_trip_iff _).mpr
    { served := rfl
      opened := ⟨rfl, rfl⟩
      aligned := ⟨[], _, _, rfl, List.length_pos_iff.mpr (Json.encode_ne_nil _ _), ?_⟩
      nonempty := List.cons_ne_nil _ _
      ensured := ⟨rfl, rfl⟩
      spared := fun i _ => ⟨rfl, rfl, rfl⟩
      short := ?_
      room := ⟨_, arrivals_of_text fun _ _ => rfl, ?_⟩
      put := rfl }
  · -- The first piece is the line of the header.
    exact List.append_nil _
  · intro f there
    obtain rfl := List.mem_singleton.mp there
    show Short (plainHeader ⟨[97], 1⟩)
    decide
  · -- The receiver's disk is empty.
    apply Disk.Room.of_free
    · exact List.nodup_singleton _
    · intro f there
      obtain rfl := List.mem_singleton.mp there
      exact List.cons_ne_nil _ _
    · exact fun _ _ ⟨_, file⟩ => nomatch file
    · exact fun _ _ => rfl

end Falak.Snapshot

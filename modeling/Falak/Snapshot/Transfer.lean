import Falak.Lib.Reader
import Falak.Snapshot.Store

/-!
The transfer of a snapshot from a node that has it to one that asks for it.

The answer is a header in JSON on a line of its own, and then a compressed stream with the files of
the snapshot, each after a header of its own.
-/

namespace Falak.Snapshot

@[ext] structure TransferRequest where
  capsuleID : String
  tag : String

@[ext] structure TransferHeader where
  capsuleID : String := ""
  tag : String := ""
  checksum : String := ""
  totalSize : Int := 0
  fileCount : Int := 0

@[ext] structure FileHeader where
  name : Bytes
  size : Int

structure Wire where
  request : Json TransferRequest
  header : Json TransferHeader
  marshal : FileHeader → Bytes
  unmarshal : Bytes → Except String FileHeader
  text : Bytes → Bytes
  sha256 : Bytes → String
  compress : Bytes → Bytes
  decompress : Reader → Reader
  unmarshal_marshal : ∀ h, unmarshal (marshal h) = .ok { h with name := text h.name }
  /-- A header that is cut off is not read. -/
  unmarshal_cut : ∀ h part, part <+: marshal h → part ≠ marshal h →
    ∃ err, unmarshal part = .error err
  /-- The compression is lossless, however its bytes are split. -/
  decompress_compress : ∀ data r, r.bytes = compress data → (decompress r).bytes = data
  /-- A stream that begins with something else is not read. -/
  decompress_newline : ∀ rest r, r.bytes = 10 :: rest → (decompress r).bytes = []
  /-- A stream that has lost its first bytes is not read. -/
  decompress_headless : ∀ data lost r, lost ≠ [] → lost ++ r.bytes = compress data →
    (decompress r).bytes = []

abbrev Files := List (Path × Bytes)

def Files.contents (files : Files) : Bytes := files.flatMap (·.2)

def Files.totalSize (files : Files) : Int := (files.map fun f => (f.2.length : Int)).sum

section Server

variable (wire : Wire)

def fileHeader (f : Path × Bytes) : FileHeader := ⟨f.1.text, f.2.length⟩

def sendFile (f : Path × Bytes) : Bytes := field (wire.marshal (fileHeader f)) ++ f.2

def sendFiles (files : Files) : Bytes := files.flatMap (sendFile wire)

def transferHeader (capsuleID tag : String) (files : Files) : TransferHeader :=
  { capsuleID := capsuleID
    tag := tag
    checksum := wire.sha256 files.contents
    totalSize := files.totalSize
    fileCount := files.length }

def handleStream (s : Store) (fault : Option String) (walk : Path → Except String Files)
    (stream : Reader) : Bytes :=
  match wire.request.decodeFrom stream with
  | .error _ => []
  | .ok (req, _) =>
    match s.get fault req.capsuleID req.tag with
    | .error _ | .ok none => wire.header.line {}
    | .ok (some _) =>
      match walk (s.snapshotPath req.capsuleID req.tag) with
      | .error _ => wire.header.line {}
      | .ok files =>
        wire.header.line (transferHeader wire req.capsuleID req.tag files)
          ++ wire.compress (sendFiles wire files)

end Server

inductive ReceiveError
  | headerLength (err : String)
  | header (err : String)
  | unmarshal (err : String)
  | traversal (name : Bytes)
  | mkdir (names : Path) (err : String)
  | create (name : Bytes) (err : String)
  | content (name : Bytes) (err : String)

inductive PullError
  | openStream (err : String)
  | encodeRequest (err : String)
  | decodeHeader (err : String)
  | absent (capsuleID tag : String)
  | ensureDir (err : String)
  | zstdReader (err : String)
  | receiveFile (i : Nat) (count : Int) (err : ReceiveError)
  | checksum (got want : String)
  | storePut (err : String)

structure PullFaults where
  newStream : Option String := none
  request : Option String := none
  ensureDir : Option String := none
  newReader : Option String := none
  mkdir : Nat → Option String := fun _ => none
  create : Nat → Option String := fun _ => none
  write : Nat → Option (Nat × String) := fun _ => none
  removeDir : Option String := none
  put : Option String := none

def accept (name : Bytes) : Option Path :=
  let cleanName := clean name
  if cleanName.absolute = true ∨ cleanName.ups ≠ 0 then none else some cleanName.names

structure Receiving where
  disk : Disk
  reader : Reader
  hashed : Bytes
  received : Int

section Client

variable (wire : Wire) (faults : PullFaults) (destPath : Path)

def readFileHeader (r : Reader) : Except ReceiveError (FileHeader × Reader) :=
  match r.readFull 4 with
  | .error err => .error (.headerLength err)
  | .ok (len, r) =>
    match r.readFull (ofBigEndian len) with
    | .error err => .error (.header err)
    | .ok (hdrBytes, r) =>
      match wire.unmarshal hdrBytes with
      | .error err => .error (.unmarshal err)
      | .ok hdr => .ok (hdr, r)

def receiveContent (i : Nat) (s : Receiving) (hdr : FileHeader) (r : Reader) :
    Disk × Except ReceiveError Receiving :=
  match accept hdr.name with
  | none => (s.disk, .error (.traversal hdr.name))
  | some names =>
    let filePath := destPath ++ names
    match failing (faults.mkdir i) (s.disk.mkdirAll filePath.dropLast) with
    | .error err => (s.disk, .error (.mkdir names err))
    | .ok disk =>
      -- A size below zero copies nothing.
      let (content, r, stopped) := r.copyN hdr.size.toNat
      let written := ((faults.write i).map fun fault => content.take fault.1).getD content
      match failing (faults.create i) (disk.create filePath written) with
      | .error err => (disk, .error (.create hdr.name err))
      | .ok disk =>
        match ((faults.write i).map Prod.snd).or stopped with
        | some err => (disk, .error (.content hdr.name err))
        | none => (disk, .ok ⟨disk, r, s.hashed ++ content, s.received + content.length⟩)

def receiveFile (i : Nat) (s : Receiving) : Disk × Except ReceiveError Receiving :=
  match readFileHeader wire s.reader with
  | .error err => (s.disk, .error err)
  | .ok (hdr, r) => receiveContent faults destPath i s hdr r

def receiveFiles : Nat → Nat → Receiving → Disk × Except (Nat × ReceiveError) Receiving
  | 0, _, s => (s.disk, .ok s)
  | n + 1, i, s =>
    match receiveFile wire faults destPath i s with
    | (disk, .error err) => (disk, .error (i, err))
    | (_, .ok s) => receiveFiles n (i + 1) s

end Client

def pulledRecord (now : Int) (capsuleID tag : String) (destPath : Path) (size : Int)
    (checksum : String) : Record :=
  { capsuleID := capsuleID
    tag := tag
    size := size
    path := destPath
    checksum := checksum
    createdAt := now
    lastAccessed := now
    ttl := 72 * 3600 * second }

def receiveSnapshot (wire : Wire) (faults : PullFaults) (now : Int) (capsuleID tag : String)
    (s : Store) (hdr : TransferHeader) (stream : Reader) : Store × Except PullError Record :=
  let destPath := s.snapshotPath capsuleID tag
  match receiveFiles wire faults destPath hdr.fileCount.toNat 0
      ⟨s.disk, wire.decompress stream, [], 0⟩ with
  | (disk, .error (i, err)) =>
    (Store.removeDir { s with disk := disk } faults.removeDir capsuleID tag,
      .error (.receiveFile (i + 1) hdr.fileCount err))
  | (disk, .ok got) =>
    let s := { s with disk := disk }
    let gotChecksum := wire.sha256 got.hashed
    if gotChecksum ≠ hdr.checksum then
      (s.removeDir faults.removeDir capsuleID tag, .error (.checksum gotChecksum hdr.checksum))
    else
      let record := pulledRecord now capsuleID tag destPath got.received gotChecksum
      match s.put faults.put record with
      | .error err => (s, .error (.storePut err))
      | .ok s => (s, .ok record)

def pullSnapshot (wire : Wire) (faults : PullFaults) (now : Int) (capsuleID tag : String)
    (s : Store) (stream : Reader) : Store × Except PullError Record :=
  match faults.newStream, faults.request with
  | some err, _ => (s, .error (.openStream err))
  | none, some err => (s, .error (.encodeRequest err))
  | none, none =>
    match wire.header.decodeFrom stream with
    | .error err => (s, .error (.decodeHeader err))
    | .ok (hdr, stream) =>
      if hdr.fileCount = 0 then (s, .error (.absent capsuleID tag))
      else
        match s.ensureDir faults.ensureDir capsuleID tag, faults.newReader with
        | .error err, _ => (s, .error (.ensureDir err))
        | .ok s, some err =>
          (s.removeDir faults.removeDir capsuleID tag, .error (.zstdReader err))
        | .ok s, none => receiveSnapshot wire faults now capsuleID tag s hdr stream

end Falak.Snapshot

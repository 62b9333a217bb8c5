import Falak.Lib.Disk
import Falak.Lib.Reach
import Falak.Phonebook.Book

/-!
The keys of a node for its clusters, each in a directory of its own.

A path is kept in its cleaned form. Where a relative one leads depends on the working directory.
-/

namespace Falak.Auth

open Falak.Phonebook (parseClusterPath length_splitOn)

def dash : UInt8 := 45

def clusterDirName (clusterPath : String) : Bytes :=
  (utf8 clusterPath).map fun b => if b = slash then dash else b

structure KeyFormat (K : Type) where
  marshal : K → Except String Bytes
  unmarshal : Bytes → Except String K
  encode : Bytes → Bytes
  decode : Bytes → Option (String × Bytes)
  unmarshal_marshal : ∀ {key data}, marshal key = .ok data → unmarshal data = .ok key
  decode_encode : ∀ data, decode (encode data) = some ("PRIVATE KEY", data)

theorem isName_files : IsName (utf8 "node.key") ∧ IsName (utf8 "certificate.pem") ∧
    IsName (utf8 "ca.pem") := by
  decide +kernel

def keyFileName : Name := ⟨_, isName_files.1⟩

def certFileName : Name := ⟨_, isName_files.2.1⟩

def caCertFileName : Name := ⟨_, isName_files.2.2⟩

structure KeyManager (K : Type) extends KeyFormat K where
  dataDir : Bytes
  workingDir : Path

/-- The errors of a call. A write may end after some bytes. -/
structure KeyFaults where
  stat : Option String := none
  readFile : Option String := none
  mkdirAll : Option String := none
  openFile : Option String := none
  write : Option (Nat × String) := none

namespace KeyManager

variable {K : Type} (m : KeyManager K) (clusterPath : String)

def clustersDir : Cleaned := (clean m.dataDir).join (utf8 "clusters")

def clusterDir : Cleaned := m.clustersDir.join (clusterDirName clusterPath)

def keyPath : Cleaned := (m.clusterDir clusterPath).join keyFileName.bytes

def certPath : Cleaned := (m.clusterDir clusterPath).join certFileName.bytes

def caCertPath : Cleaned := (m.clusterDir clusterPath).join caCertFileName.bytes

def locate (c : Cleaned) : Path :=
  if c.absolute then c.names else m.workingDir.take (m.workingDir.length - c.ups) ++ c.names

def load (faults : KeyFaults) (d : Disk) : Except String K :=
  match faults.readFile, d.entry (m.locate (m.keyPath clusterPath)) with
  | some err, _ => .error ("failed to read key file: " ++ err)
  | none, none => .error "failed to read key file: no such file or directory"
  | none, some .dir => .error "failed to read key file: is a directory"
  | none, some (.file data) =>
    match m.decode data with
    | none => .error "failed to decode PEM block"
    | some (type, bytes) =>
      if type ≠ "PRIVATE KEY" then .error ("unexpected PEM block type: " ++ type)
      else (m.unmarshal bytes).mapError ("failed to unmarshal private key: " ++ ·)

def save (faults : KeyFaults) (key : K) (d : Disk) : Disk × Except String Unit :=
  match faults.mkdirAll, d.mkdirAll (m.locate (m.clusterDir clusterPath)) with
  | some err, _ | none, .error err =>
    (d, .error ("failed to create cluster directory: " ++ err))
  | none, .ok made =>
    match m.marshal key with
    | .error err => (made, .error ("failed to marshal private key: " ++ err))
    | .ok bytes =>
      let data := m.encode bytes
      let length := (faults.write.map (·.1)).getD data.length
      match faults.openFile, made.create (m.locate (m.keyPath clusterPath)) (data.take length) with
      | some err, _ | none, .error err => (made, .error ("failed to write key file: " ++ err))
      | none, .ok written =>
        match faults.write with
        | some (_, err) => (written, .error ("failed to write key file: " ++ err))
        | none => (written, .ok ())

/-- A new key, with the disk on which it is saved. -/
def generate (faults : KeyFaults) (fresh : Except String K) (d : Disk) : Disk × Except String K :=
  match fresh with
  | .error err => (d, .error ("failed to generate key pair: " ++ err))
  | .ok key =>
    let (d', saved) := m.save clusterPath faults key d
    (d', saved.map fun _ => key)

/-- The key file is there. -/
def present (faults : KeyFaults) (d : Disk) : Bool :=
  faults.stat.isNone && (d.entry (m.locate (m.keyPath clusterPath))).isSome

def loadOrCreate (faults : KeyFaults) (fresh : Except String K) (d : Disk) :
    Disk × Except String K :=
  if m.present clusterPath faults d then (d, m.load clusterPath faults d)
  else m.generate clusterPath faults fresh d

end KeyManager

inductive KeyCall (K : Type)
  | load (clusterPath : String) (faults : KeyFaults)
  | save (clusterPath : String) (faults : KeyFaults) (key : K)
  | loadOrCreate (clusterPath : String) (faults : KeyFaults) (fresh : Except String K)

def KeyCall.clusterPath {K : Type} : KeyCall K → String
  | load clusterPath _ | save clusterPath _ _ | loadOrCreate clusterPath _ _ => clusterPath

structure KeyRing (K : Type) where
  disk : Disk
  saved : String → Option K := fun _ => none

namespace KeyManager

variable {K : Type} (m : KeyManager K)

def keep (s : KeyRing K) (clusterPath : String) (faults : KeyFaults) (key : K) : KeyRing K :=
  let (disk, result) := m.save clusterPath faults key s.disk
  { disk
    saved := Function.update s.saved clusterPath
      (match result with
      | .ok () => some key
      | .error _ => if faults.write = none then s.saved clusterPath else none) }

def step (s : KeyRing K) : KeyCall K → Option (KeyRing K)
  | .load _ _ => some s
  | .save clusterPath faults key => some (m.keep s clusterPath faults key)
  | .loadOrCreate clusterPath faults fresh =>
    if m.present clusterPath faults s.disk then some s
    else
      match fresh with
      | .error _ => some s
      | .ok key => some (m.keep s clusterPath faults key)

variable {m} {p q : String} {s s' : KeyRing K} {d : Disk} {faults : KeyFaults} {key : K}

/-- The paths that are read as the path of a cluster. -/
def Accepted (p : String) : Prop := ∃ cp, parseClusterPath p = .ok cp

theorem Accepted.isName (accepted : Accepted p) : IsName (clusterDirName p) := by
  obtain ⟨cp, accepted⟩ := accepted
  -- The path has a slash, so its name has a dash.
  have parts : '/' ∈ p.toList := by
    by_contra none
    have three := length_splitOn accepted
    rw [List.splitOn_eq_singleton none] at three
    cases three
  have byte : slash ∈ utf8 p := mem_utf8 parts (by decide)
  have there : dash ∈ clusterDirName p := List.mem_map.mpr ⟨slash, byte, if_pos rfl⟩
  have other {name : Bytes} (free : dash ∉ name) : clusterDirName p ≠ name := by
    rintro rfl
    exact free there
  refine ⟨other nofun, fun slashed => ?_, other (by decide), other (by decide)⟩
  obtain ⟨b, -, same⟩ := List.mem_map.mp slashed
  split at same
  · cases same
  · contradiction

def dirName (accepted : Accepted p) : Name := ⟨clusterDirName p, accepted.isName⟩

theorem locate_join (c : Cleaned) (name : Name) :
    m.locate (c.join name.bytes) = m.locate c ++ [name] := by
  rw [Cleaned.join_bytes, locate, locate]
  split_ifs <;> simp

theorem locate_clusterDir (accepted : Accepted p) :
    m.locate (m.clusterDir p) = m.locate m.clustersDir ++ [dirName accepted] :=
  locate_join _ (dirName accepted)

/-- What a call of `Save` does to the disk, by its result. -/
inductive Saves (m : KeyManager K) (p : String) (faults : KeyFaults) (key : K) (d : Disk) :
    Disk × Except String Unit → Prop
  | failed {d' : Disk} {err : String}
      (same : ∀ q, ¬ q <+: m.locate (m.clusterDir p) → d'.entry q = d.entry q) :
      Saves m p faults key d (d', .error err)
  | broken {d' : Disk} {err : String} (fault : faults.write ≠ none)
      (others : ∀ q, ¬ q <+: m.locate (m.clusterDir p) → q ≠ m.locate (m.keyPath p) →
        d'.entry q = d.entry q) : Saves m p faults key d (d', .error err)
  | saved {d' : Disk} {bytes : Bytes} (marshalled : m.marshal key = .ok bytes)
      (others : ∀ q, ¬ q <+: m.locate (m.clusterDir p) → q ≠ m.locate (m.keyPath p) →
        d'.entry q = d.entry q)
      (whole : d'.entry (m.locate (m.keyPath p)) = some (.file (m.encode bytes))) :
      Saves m p faults key d (d', .ok ())

theorem Saves.others {result : Disk × Except String Unit} (saves : Saves m p faults key d result)
    (q : Path) (apart : ¬ q <+: m.locate (m.clusterDir p)) (other : q ≠ m.locate (m.keyPath p)) :
    result.1.entry q = d.entry q := by
  cases saves with
  | failed same => exact same q apart
  | broken fault others | saved marshalled others => exact others q apart other

theorem saves_save (m : KeyManager K) (p : String) (faults : KeyFaults) (key : K) (d : Disk) :
    Saves m p faults key d (m.save p faults key d) := by
  unfold save
  split
  · exact .failed fun _ _ => rfl
  · exact .failed fun _ _ => rfl
  · rename_i made _ mkdir
    have entries (q : Path) (apart : ¬ q <+: m.locate (m.clusterDir p)) :=
      ((Disk.of_mkdirAll mkdir).2 q).trans (if_neg apart)
    split
    · exact .failed entries
    · rename_i bytes marshalled
      dsimp only
      split
      · exact .failed entries
      · exact .failed entries
      · rename_i written _ create
        -- Only the entry of the key file is new.
        have new := (Disk.of_create create).2.2
        have others (q : Path) (apart : ¬ q <+: m.locate (m.clusterDir p))
            (other : q ≠ m.locate (m.keyPath p)) : written.entry q = d.entry q := by
          rw [new, Function.update_of_ne other, entries q apart]
        split
        · rename_i fault
          exact .broken (by simp [fault]) others
        · rename_i whole
          refine .saved marshalled others ?_
          rw [new, Function.update_self, whole]
          simp

/-- The files of all keys that are known are whole. -/
def Kept (m : KeyManager K) (clusters : String → Prop) (s : KeyRing K) : Prop :=
  ∀ p, clusters p → ∀ k, s.saved p = some k → ∃ bytes, m.marshal k = .ok bytes ∧
    s.disk.entry (m.locate (m.keyPath p)) = some (.file (m.encode bytes))

theorem load_eq {bytes : Bytes} (marshalled : m.marshal key = .ok bytes)
    (there : d.entry (m.locate (m.keyPath p)) = some (.file (m.encode bytes))) :
    m.load p {} d = .ok key := by
  simp [load, there, m.decode_encode, m.unmarshal_marshal marshalled, Except.mapError]

theorem step_cases {a : KeyCall K} (stepped : m.step s a = some s') :
    s' = s ∨ ∃ faults key, s' = m.keep s a.clusterPath faults key := by
  cases a with
  | load p faults => exact .inl (Option.some.inj stepped).symm
  | save p faults key => exact .inr ⟨faults, key, (Option.some.inj stepped).symm⟩
  | loadOrCreate p faults fresh =>
    simp only [step] at stepped
    split_ifs at stepped
    · exact .inl (Option.some.inj stepped).symm
    · cases fresh with
      | error err => exact .inl (Option.some.inj stepped).symm
      | ok key => exact .inr ⟨faults, key, (Option.some.inj stepped).symm⟩

section Apart

variable {clusters : String → Prop} (accepted : ∀ p, clusters p → Accepted p)
  (apart : ∀ p q, clusters p → clusters q → clusterDirName p = clusterDirName q → p = q)

include accepted

theorem outside_dir (hp : clusters p) (hq : clusters q) (file : Name) :
    ¬ m.locate ((m.clusterDir p).join file.bytes) <+: m.locate (m.clusterDir q) := by
  intro inside
  have := inside.length_le
  rw [locate_join, locate_clusterDir (accepted p hp), locate_clusterDir (accepted q hq)] at this
  simp at this

include apart

theorem locate_ne (hp : clusters p) (hq : clusters q) (other : p ≠ q) (file file' : Name) :
    m.locate ((m.clusterDir p).join file.bytes) ≠ m.locate ((m.clusterDir q).join file'.bytes) := by
  rw [locate_join, locate_join, locate_clusterDir (accepted p hp),
    locate_clusterDir (accepted q hq)]
  intro same
  simp only [List.append_assoc, List.append_cancel_left_eq, List.singleton_append, List.cons.injEq,
    dirName, Name.mk.injEq] at same
  exact other (apart p q hp hq same.1)

/-- A call leaves the files of all other clusters alone. -/
theorem entry_keep (hp : clusters p) (hq : clusters q) (other : p ≠ q) (file : Name) :
    (m.keep s q faults key).disk.entry (m.locate ((m.clusterDir p).join file.bytes))
      = s.disk.entry (m.locate ((m.clusterDir p).join file.bytes)) :=
  (saves_save m q faults key s.disk).others _ (outside_dir accepted hp hq file)
    (locate_ne accepted apart hp hq other file keyFileName)

theorem Kept.step {a : KeyCall K} (kept : Kept m clusters s) (inside : clusters a.clusterPath)
    (stepped : m.step s a = some s') : Kept m clusters s' := by
  rcases step_cases stepped with rfl | ⟨faults, key, rfl⟩
  · exact kept
  intro p hp k known
  by_cases own : p = a.clusterPath
  · subst own
    have saves := saves_save m a.clusterPath faults key s.disk
    have outside := outside_dir accepted inside inside keyFileName (m := m)
    simp only [keep, Function.update_self] at known ⊢
    generalize m.save a.clusterPath faults key s.disk = result at saves known
    cases saves with
    | failed same =>
      dsimp only at known ⊢
      split_ifs at known
      obtain ⟨bytes, marshalled, there⟩ := kept _ hp k known
      exact ⟨bytes, marshalled, (same _ outside).trans there⟩
    | broken fault =>
      dsimp only at known
      rw [if_neg fault] at known
      cases known
    | saved marshalled others whole =>
      cases known
      exact ⟨_, marshalled, whole⟩
  · have same : s.saved p = some k := by
      simpa [keep, own] using known
    obtain ⟨bytes, marshalled, there⟩ := kept p hp k same
    exact ⟨bytes, marshalled, (entry_keep accepted apart hp inside own keyFileName).trans there⟩

end Apart

/--
The directories of clusters are inside the directory for all of them. They are different, and so are
the files in them, and each cluster has the key that was last generated or saved for it, exactly if
no two cluster paths are the same once their slashes are replaced.
-/
theorem keys_apart_iff (m : KeyManager K) {clusters : String → Prop}
    (accepted : ∀ p, clusters p → Accepted p) :
    ((∀ p, clusters p → ∃ name, m.clusterDir p
        = { m.clustersDir with names := m.clustersDir.names ++ [name] }) ∧
      (∀ p q, clusters p → clusters q → p ≠ q → m.clusterDir p ≠ m.clusterDir q ∧
        m.keyPath p ≠ m.keyPath q ∧ m.certPath p ≠ m.certPath q ∧
        m.caCertPath p ≠ m.caCertPath q) ∧
      ∀ d s, Reach m.step (fun _ a => clusters a.clusterPath) { disk := d } s →
        (∀ p k, clusters p → s.saved p = some k → m.load p {} s.disk = .ok k ∧
          ∀ fresh, m.loadOrCreate p {} fresh s.disk = (s.disk, .ok k)) ∧
        ∀ a s', m.step s a = some s' → clusters a.clusterPath → ∀ p, clusters p →
          p ≠ a.clusterPath → ∀ path ∈ [m.keyPath p, m.certPath p, m.caCertPath p],
            s'.disk.entry (m.locate path) = s.disk.entry (m.locate path)) ↔
    ∀ p q, clusters p → clusters q → clusterDirName p = clusterDirName q → p = q := by
  constructor
  · rintro ⟨-, different, -⟩ p q hp hq same
    by_contra other
    exact (different p q hp hq other).1 (by rw [clusterDir, clusterDir, same])
  · intro apart
    refine ⟨fun p hp => ⟨_, Cleaned.join_bytes _ (dirName (accepted p hp))⟩,
      fun p q hp hq other => ?_, fun d s reached => ?_⟩
    · have files (file : Name) :
          (m.clusterDir p).join file.bytes ≠ (m.clusterDir q).join file.bytes := fun same =>
        locate_ne accepted apart hp hq other file file (congrArg m.locate same)
      refine ⟨fun same => files keyFileName (by rw [same]), files _, files _, files _⟩
    · have kept : Kept m clusters s := reached.invariant (Kept m clusters) nofun
        fun _ _ _ kept inside stepped => kept.step accepted apart inside stepped
      constructor
      · intro p k hp known
        obtain ⟨bytes, marshalled, there⟩ := kept p hp k known
        have loaded := load_eq marshalled there
        exact ⟨loaded, fun fresh => by simp [loadOrCreate, present, there, loaded]⟩
      · intro a s' stepped inside p hp other path listed
        rcases step_cases stepped with rfl | ⟨faults, key, rfl⟩
        · rfl
        · simp only [List.mem_cons, List.not_mem_nil, or_false] at listed
          rcases listed with rfl | rfl | rfl
          all_goals exact entry_keep accepted apart hp inside other _

/-- Bytes that are their own encoding. -/
def plainKeys : KeyManager Bytes where
  marshal := .ok
  unmarshal := .ok
  encode := id
  decode data := some ("PRIVATE KEY", data)
  unmarshal_marshal same := same.symm
  decode_encode _ := rfl
  dataDir := utf8 "/data"
  workingDir := []

theorem keys_apart_two : plainKeys.keyPath "a/b/c" ≠ plainKeys.keyPath "a/b/d" :=
  have accepted : ∀ p, p = "a/b/c" ∨ p = "a/b/d" → Accepted p := by
    rintro p (rfl | rfl)
    · exact ⟨⟨"a", "b", "c"⟩, by decide +kernel⟩
    · exact ⟨⟨"a", "b", "d"⟩, by decide +kernel⟩
  have apart : ∀ p q, p = "a/b/c" ∨ p = "a/b/d" → q = "a/b/c" ∨ q = "a/b/d" →
      clusterDirName p = clusterDirName q → p = q := by
    rintro p q (rfl | rfl) (rfl | rfl) <;> decide +kernel
  (((keys_apart_iff plainKeys accepted).mpr apart).2.1 _ _ (.inl rfl) (.inr rfl) (by decide)).2.1

/-- The dashes of two cluster paths may stand in different places, and they share one key. -/
theorem keys_shared :
    Accepted "a-b/c/d" ∧ Accepted "a/b-c/d" ∧
    ∃ s, Reach plainKeys.step (fun _ _ => True) { disk := .empty } s ∧
      (s.saved "a-b/c/d" = some [1] ∧ (plainKeys.load "a-b/c/d" {} s.disk).toOption = some [2]) :=
  ⟨⟨⟨"a-b", "c", "d"⟩, by decide +kernel⟩, ⟨⟨"a", "b-c", "d"⟩, by decide +kernel⟩,
    Reach.exists_of_actions _ _ [.save "a-b/c/d" {} [1], .save "a/b-c/d" {} [2]] _
      (by decide +kernel)⟩

end KeyManager

end Falak.Auth

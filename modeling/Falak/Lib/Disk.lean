import Falak.Lib.Path
import Mathlib.Data.List.Nodup
import Mathlib.Data.List.Infix

/-! Directories and files by their paths, and what the calls that make and remove them leave. -/

namespace Falak

inductive Inode
  | dir
  | file (content : Bytes)
  deriving DecidableEq

structure Disk where
  entry : Path → Option Inode
  closed : ∀ p name, entry (p ++ [name]) ≠ none → entry p = some .dir

namespace Disk

def IsFile (d : Disk) (p : Path) : Prop := ∃ content, d.entry p = some (.file content)

instance (d : Disk) (p : Path) : Decidable (d.IsFile p) :=
  match there : d.entry p with
  | some (.file content) => .isTrue ⟨content, there⟩
  | some .dir | none => .isFalse fun ⟨_, file⟩ => by rw [there] at file; cases file

/-- Make a directory and the ones above it, unless they are there. -/
def mkdirAll (p : Path) (d : Disk) : Except String Disk :=
  if ∃ q ∈ p.inits, d.IsFile q then .error "not a directory"
  else .ok
    { entry := fun q => if q <+: p then some .dir else d.entry q
      closed := fun q name there => by
        by_cases made : q <+: p
        · rw [if_pos made]
        · rw [if_neg made]
          apply d.closed q name
          rwa [if_neg fun above => made ((List.prefix_append q [name]).trans above)] at there }

/-- Make a file, or empty it if it is there, and write to it. -/
def create (p : Path) (content : Bytes) (d : Disk) : Except String Disk :=
  if isDir : d.entry p = some .dir then .error "is a directory"
  else if placed : p ≠ [] ∧ d.entry p.dropLast = some .dir then
    .ok
      { entry := Function.update d.entry p (some (.file content))
        closed := fun q name there => by
          by_cases same : q ++ [name] = p
          · subst same
            rw [Function.update_of_ne (by simp)]
            simpa using placed.2
          · rw [Function.update_of_ne same] at there
            have above := d.closed q name there
            rw [Function.update_of_ne, above]
            rintro rfl
            exact isDir above }
  else .error "no such file or directory"

def removeAll (p : Path) (d : Disk) : Disk where
  entry q := if p <+: q then none else d.entry q
  closed q name there := by
    split at there
    · exact absurd rfl there
    · rename_i apart
      rw [if_neg fun below => apart (below.trans (List.prefix_append q [name]))]
      exact d.closed q name there

def put (p : Path) (content : Bytes) (d : Disk) : Except String Disk :=
  (d.mkdirAll p.dropLast).bind (create p content)

def putAll : List (Path × Bytes) → Disk → Except String Disk
  | [], d => .ok d
  | f :: rest, d => (d.put f.1 f.2).bind (putAll rest)

variable {d d' : Disk} {p q : Path} {content : Bytes}

theorem mkdirAll_eq_ok (free : ∀ q, q <+: p → ¬ d.IsFile q) : ∃ d', d.mkdirAll p = .ok d' := by
  have none_there : ¬ ∃ q ∈ p.inits, d.IsFile q := by
    rintro ⟨q, above, file⟩
    exact free q (List.mem_inits q p |>.mp above) file
  rw [mkdirAll, if_neg none_there]
  exact ⟨_, rfl⟩

theorem of_mkdirAll (made : d.mkdirAll p = .ok d') :
    (∀ q, q <+: p → ¬ d.IsFile q) ∧
      ∀ q, d'.entry q = if q <+: p then some .dir else d.entry q := by
  unfold mkdirAll at made
  split at made
  · cases made
  · rename_i free
    cases made
    refine ⟨fun q above file => free ⟨q, (List.mem_inits q p).mpr above, file⟩, fun q => rfl⟩

theorem of_create (made : d.create p content = .ok d') :
    p ≠ [] ∧ d.entry p ≠ some .dir ∧
      d'.entry = Function.update d.entry p (some (.file content)) := by
  unfold create at made
  split_ifs at made with place named
  cases made
  exact ⟨named.1, place, rfl⟩

theorem file_mkdirAll (made : d.mkdirAll p = .ok d') (content : Bytes) :
    d'.entry q = some (.file content) ↔ d.entry q = some (.file content) := by
  obtain ⟨free, entries⟩ := of_mkdirAll made
  rw [entries]
  split
  · -- A directory is made where no file was.
    rename_i above
    exact ⟨nofun, fun file => absurd ⟨content, file⟩ (free q above)⟩
  · rfl

structure Within (root : Path) (d d' : Disk) : Prop where
  apart : ∀ q, ¬ root <+: q → ¬ q <+: root → d'.entry q = d.entry q
  files : ∀ q, ¬ root <+: q → ∀ content,
    d'.entry q = some (.file content) ↔ d.entry q = some (.file content)

namespace Within

variable {root : Path} {d'' : Disk}

/-- Nothing changes. -/
protected theorem rfl : Within root d d := ⟨fun _ _ _ => rfl, fun _ _ _ => Iff.rfl⟩

/-- Two changes below the same path are one. -/
protected theorem trans (first : Within root d d') (second : Within root d' d'') :
    Within root d d'' where
  apart q below above := (second.apart q below above).trans (first.apart q below above)
  files q below content := (second.files q below content).trans (first.files q below content)

variable {names : Path}

theorem mkdirAll (inside : p <+: root ++ names) (made : d.mkdirAll p = .ok d') :
    Within root d d' where
  apart q below above := by
    rw [(of_mkdirAll made).2 q, if_neg]
    intro onTheWay
    rcases List.prefix_or_prefix_of_prefix (onTheWay.trans inside) (List.prefix_append root names)
      with up | down
    · exact above up
    · exact below down
  files q _ content := file_mkdirAll made content

theorem create (made : d.create (root ++ names) content = .ok d') : Within root d d' := by
  have other : ∀ q, ¬ root <+: q → d'.entry q = d.entry q := by
    intro q below
    rw [(of_create made).2.2, Function.update_of_ne]
    rintro rfl
    exact below (List.prefix_append root names)
  exact ⟨fun q below _ => other q below, fun q below content => by rw [other q below]⟩

theorem removeAll : Within root d (d.removeAll root) := by
  have other : ∀ q, ¬ root <+: q → (d.removeAll root).entry q = d.entry q :=
    fun q below => if_neg below
  exact ⟨fun q below _ => other q below, fun q below content => by rw [other q below]⟩

end Within

theorem put_eq_ok (named : p ≠ []) (free : ∀ q, q <+: p → q ≠ p → ¬ d.IsFile q)
    (place : d.entry p ≠ some .dir) : ∃ d', d.put p content = .ok d' := by
  -- A path is no part of what is above it.
  have apart : ¬ p <+: p.dropLast := by
    intro above
    have shorter := above.length_le
    rw [List.length_dropLast] at shorter
    have positive := List.length_pos_iff.mpr named
    omega
  have above {q : Path} (inside : q <+: p.dropLast) : q <+: p ∧ q ≠ p := by
    refine ⟨inside.trans ( List.dropLast_prefix p), ?_⟩
    rintro rfl
    exact apart inside
  obtain ⟨made, dirs⟩ := mkdirAll_eq_ok fun q inside => free q (above inside).1 (above inside).2
  have entries := (of_mkdirAll dirs).2
  rw [put, dirs, Except.bind, create, dif_neg, dif_pos]
  · exact ⟨_, rfl⟩
  · exact ⟨named, by rw [entries, if_pos List.prefix_rfl]⟩
  · rw [entries, if_neg apart]
    exact place

theorem of_put (made : d.put p content = .ok d') :
    (∀ q, q <+: p → q ≠ p → ¬ d.IsFile q) ∧ d.entry p ≠ some .dir ∧
      d'.entry p = some (.file content) ∧
      ∀ q, q ≠ p → d'.entry q = if q <+: p then some .dir else d.entry q := by
  unfold put at made
  cases dirs : d.mkdirAll p.dropLast with
  | error err =>
    rw [dirs] at made
    cases made
  | ok middle =>
    obtain ⟨free, entries⟩ := of_mkdirAll dirs
    rw [dirs] at made
    obtain ⟨named, place, new⟩ := of_create made
    have above {q : Path} (apart : q ≠ p) : q <+: p ↔ q <+: p.dropLast := by
      obtain ⟨front, last, rfl⟩ := (List.eq_nil_or_concat' p).resolve_left named
      rw [List.dropLast_concat, List.prefix_concat_iff]
      simp [apart]
    refine ⟨fun q inside apart => free q ((above apart).mp inside), ?_, ?_, fun q apart => ?_⟩
    · intro isDir
      apply place
      rw [entries]
      split <;> simp [isDir]
    · rw [new, Function.update_self]
    · rw [new, Function.update_of_ne apart, entries]
      simp only [above apart]

theorem isFile_put (made : d.put p content = .ok d') (file : d.IsFile q) : d'.IsFile q := by
  obtain ⟨free, -, here, others⟩ := of_put made
  by_cases same : q = p
  · subst same
    exact ⟨content, here⟩
  · rw [IsFile, others q same, if_neg fun above => free q above same file]
    exact file

theorem dir_put (made : d.put p content = .ok d') (dir : d.entry q = some .dir) :
    d'.entry q = some .dir := by
  obtain ⟨-, place, -, others⟩ := of_put made
  -- No file is written in its place.
  have apart : q ≠ p := by
    rintro rfl
    exact place dir
  rw [others q apart, dir, ite_self]

section Several

variable {files : List (Path × Bytes)} {f : Path × Bytes}

theorem putAll_cons_eq_ok :
    d.putAll (f :: files) = .ok d' ↔
      ∃ middle, d.put f.1 f.2 = .ok middle ∧ middle.putAll files = .ok d' := by
  rw [putAll]
  cases d.put f.1 f.2 <;> simp [Except.bind]

theorem isFile_putAll (made : d.putAll files = .ok d') (file : d.IsFile q) : d'.IsFile q := by
  induction files generalizing d with
  | nil =>
    cases made
    exact file
  | cons f rest ih =>
    obtain ⟨middle, first, others⟩ := putAll_cons_eq_ok.mp made
    exact ih others (isFile_put first file)

theorem place_of_putAll (made : d.putAll files = .ok d') (written : f ∈ files) :
    d.entry f.1 ≠ some .dir := by
  induction files generalizing d with
  | nil => cases written
  | cons g rest ih =>
    obtain ⟨middle, first, others⟩ := putAll_cons_eq_ok.mp made
    rcases List.mem_cons.mp written with rfl | later
    · exact (of_put first).2.1
    · exact fun dir => ih others later (dir_put first dir)

theorem lookup_cons_of_ne {rest : List (Path × Bytes)} (apart : q ≠ f.1) :
    (f :: rest).lookup q = rest.lookup q := by
  rw [List.lookup_cons, beq_false_of_ne apart]

theorem entry_putAll (made : d.putAll files = .ok d') (content : Bytes) :
    d'.entry q = some (.file content) ↔
      match files.reverse.lookup q with
      | some last => last = content
      | none => d.entry q = some (.file content) := by
  induction files generalizing d with
  | nil =>
    cases made
    rfl
  | cons f rest ih =>
    obtain ⟨middle, first, made⟩ := putAll_cons_eq_ok.mp made
    obtain ⟨free, place, here, others⟩ := of_put first
    rw [ih made, List.reverse_cons, List.lookup_append]
    cases later : rest.reverse.lookup q with
    | some last => rfl
    | none =>
      by_cases same : q = f.1
      · subst same
        have taken : [f].lookup f.1 = some f.2 := List.lookup_cons_self
        simp [here, taken]
      · have skipped : [f].lookup q = none := lookup_cons_of_ne same
        simp only [skipped, Option.or_none, others q same]
        split
        · -- There was no file above the new one.
          rename_i above
          constructor
          · intro file
            cases file
          · intro file
            exact absurd ⟨content, file⟩ (free q above same)
        · rfl

theorem putAll_eq_ok (named : ∀ f ∈ files, f.1 ≠ [])
    (apart : ∀ f ∈ files, ∀ g ∈ files, f.1 <+: g.1 → f.1 = g.1)
    (free : ∀ f ∈ files, ∀ q, q <+: f.1 → q ≠ f.1 → ¬ d.IsFile q)
    (place : ∀ f ∈ files, d.entry f.1 ≠ some .dir) : ∃ d', d.putAll files = .ok d' := by
  -- The first file leaves the others what they need.
  induction files generalizing d with
  | nil => exact ⟨d, rfl⟩
  | cons f rest ih =>
    simp only [List.mem_cons, forall_eq_or_imp] at named apart free place
    obtain ⟨middle, first⟩ : ∃ middle, d.put f.1 f.2 = .ok middle :=
      put_eq_ok named.1 free.1 place.1
    obtain ⟨-, -, here, others⟩ := of_put first
    rw [putAll, first]
    apply ih named.2 fun g later => (apart.2 g later).2
    · intro g later q above other file
      by_cases same : q = f.1
      · exact other (same.trans (apart.1.2 g later (same ▸ above)))
      · obtain ⟨content, there⟩ := file
        rw [others q same] at there
        split at there
        · cases there
        · exact free.2 g later q above other ⟨content, there⟩
    · intro g later dir
      by_cases same : g.1 = f.1
      · rw [same, here] at dir
        cases dir
      · rw [others _ same] at dir
        split at dir
        · rename_i above
          exact same ((apart.2 g later).1 above)
        · exact place.2 g later dir

def Holds (d : Disk) (root : Path) (files : List (Path × Bytes)) : Prop :=
  ∀ p content, d.entry (root ++ p) = some (.file content) ↔ (p, content) ∈ files

theorem dir_of_below {below : Path} (there : d.entry (p ++ below) ≠ none) (apart : below ≠ []) :
    d.entry p = some .dir := by
  induction below using List.reverseRecOn with
  | nil => exact absurd rfl apart
  | append_singleton below name ih =>
    rw [← List.append_assoc] at there
    have above := d.closed _ _ there
    cases below with
    | nil => simpa using above
    | cons first rest => exact ih (by rw [above]; simp) (by simp)

theorem Holds.apart {root : Path} (holds : d.Holds root files) :
    ∀ f ∈ files, ∀ g ∈ files, f.1 <+: g.1 → f.1 = g.1 := by
  rintro f there g there' ⟨below, longer⟩
  by_contra other
  have nonempty : below ≠ [] := by
    rintro rfl
    exact other (by simpa using longer)
  have file := (holds f.1 f.2).mpr there
  have file' := (holds g.1 g.2).mpr there'
  rw [← longer, ← List.append_assoc] at file'
  -- A file would be a directory.
  rw [dir_of_below (by rw [file']; simp) nonempty] at file
  cases file

structure Room (old : Disk) (root : Path) (files stored : List (Path × Bytes)) : Prop where
  above : ∀ q, q <+: root → ¬ old.IsFile q
  below : ∀ f ∈ files, f.1 ≠ []
  stale : ∀ p, old.IsFile (root ++ p) → ∃ content, (p, content) ∈ files
  named : ∀ f ∈ stored, ∃ content, (f.1, content) ∈ files
  place : ∀ f ∈ stored, old.entry (root ++ f.1) ≠ some .dir
  latest : ∀ f ∈ files, match stored.reverse.lookup f.1 with
    | some content => content = f.2
    | none => old.entry (root ++ f.1) = some (.file f.2)

end Several

section Directory

variable {files stored : List (Path × Bytes)} {root : Path}

theorem lookup_below (p : Path) :
    (stored.map fun f => (root ++ f.1, f.2)).reverse.lookup (root ++ p)
      = stored.reverse.lookup p := by
  rw [← List.map_reverse]
  -- One file after the other is compared.
  induction stored.reverse with
  | nil => rfl
  | cons f rest ih =>
    by_cases same : p = f.1
    · subst same
      have first : (f :: rest).lookup f.1 = some f.2 := List.lookup_cons_self
      rw [first]
      exact List.lookup_cons_self
    · have other : root ++ p ≠ root ++ f.1 := by simpa using same
      rw [List.map_cons, lookup_cons_of_ne other, lookup_cons_of_ne same]
      exact ih

variable {d₁ : Disk}

theorem entry_below {d₂ : Disk} (made : d.mkdirAll root = .ok d₁)
    (written : d₁.putAll (stored.map fun f => (root ++ f.1, f.2)) = .ok d₂) (p : Path)
    (content : Bytes) :
    d₂.entry (root ++ p) = some (.file content) ↔
      match stored.reverse.lookup p with
      | some last => last = content
      | none => d.entry (root ++ p) = some (.file content) := by
  rw [entry_putAll written, lookup_below]
  cases stored.reverse.lookup p with
  | none => exact file_mkdirAll made content
  | some last => rfl

theorem exists_lookup {f : Path × Bytes} (there : f ∈ stored) :
    ∃ content, stored.reverse.lookup f.1 = some content := by
  rw [← Option.isSome_iff_exists, Option.isSome_iff_ne_none, ne_eq, List.lookup_eq_none_iff]
  intro other
  exact absurd (other f (List.mem_reverse.mpr there)) (by simp)

theorem Room.exists_putAll (room : Room d root files stored)
    (apart : ∀ f ∈ files, ∀ g ∈ files, f.1 <+: g.1 → f.1 = g.1) (made : d.mkdirAll root = .ok d₁) :
    ∃ d₂, d₁.putAll (stored.map fun f => (root ++ f.1, f.2)) = .ok d₂ := by
  have entries := (of_mkdirAll made).2
  apply putAll_eq_ok
  · intro f mapped
    obtain ⟨g, there, rfl⟩ := List.mem_map.mp mapped
    obtain ⟨content, held⟩ := room.named g there
    have nonempty := room.below _ held
    simpa using fun _ => nonempty
  · intro f mapped f' mapped' inside
    obtain ⟨g, there, rfl⟩ := List.mem_map.mp mapped
    obtain ⟨g', there', rfl⟩ := List.mem_map.mp mapped'
    obtain ⟨content, held⟩ := room.named g there
    obtain ⟨content', held'⟩ := room.named g' there'
    have same := apart _ held _ held' ((List.prefix_append_right_inj root).mp inside)
    exact congrArg (root ++ ·) same
  · rintro f mapped q inside other ⟨content', file⟩
    obtain ⟨g, there, rfl⟩ := List.mem_map.mp mapped
    obtain ⟨content, held⟩ := room.named g there
    have file : d.IsFile q := ⟨content', (file_mkdirAll made content').mp file⟩
    rcases List.prefix_or_prefix_of_prefix inside (List.prefix_append root g.1) with above | under
    · exact room.above q above file
    · obtain ⟨p, rfl⟩ := under
      obtain ⟨content, stale⟩ := room.stale p file
      have same := apart _ stale _ held ((List.prefix_append_right_inj root).mp inside)
      exact other (congrArg (root ++ ·) same)
  · intro f mapped dir
    obtain ⟨g, there, rfl⟩ := List.mem_map.mp mapped
    obtain ⟨content, held⟩ := room.named g there
    rw [entries] at dir
    split at dir
    · rename_i inside
      -- The root itself is not written.
      apply room.below _ held
      have shorter : (root ++ g.1).length ≤ root.length := inside.length_le
      rw [List.length_append] at shorter
      exact List.length_eq_zero_iff.mp (show g.1.length = 0 by omega)
    · exact room.place g there dir

theorem Room.holds {d₂ : Disk} (room : Room d root files stored) (made : d.mkdirAll root = .ok d₁)
    (written : d₁.putAll (stored.map fun f => (root ++ f.1, f.2)) = .ok d₂) :
    d₂.Holds root files := by
  intro p content
  rw [entry_below made written]
  constructor
  · intro file
    obtain ⟨content', held⟩ : ∃ content', (p, content') ∈ files := by
      cases last : stored.reverse.lookup p with
      | none =>
        rw [last] at file
        exact room.stale p ⟨content, file⟩
      | some content' =>
        obtain ⟨before, after, there, -⟩ := List.lookup_eq_some_iff.mp last
        have there : (p, content') ∈ stored := by
          rw [← List.mem_reverse, there]
          simp
        exact room.named _ there
    have latest := room.latest _ held
    cases last : stored.reverse.lookup p with
    | none =>
      simp only [last] at file latest
      rw [file] at latest
      cases latest
      exact held
    | some content'' =>
      simp only [last] at file latest
      rw [← file, latest]
      exact held
  · intro held
    exact room.latest _ held

theorem Room.of_putAll {d₂ : Disk} (apart : ∀ f ∈ files, ∀ g ∈ files, f.1 <+: g.1 → f.1 = g.1)
    (something : stored ≠ []) (made : d.mkdirAll root = .ok d₁)
    (written : d₁.putAll (stored.map fun f => (root ++ f.1, f.2)) = .ok d₂)
    (holds : d₂.Holds root files) : Room d root files stored := by
  have entries := (of_mkdirAll made).2
  have named : ∀ f ∈ stored, ∃ content, (f.1, content) ∈ files := by
    intro f there
    obtain ⟨content, last⟩ := exists_lookup there
    have file := (entry_below made written f.1 content).mpr (by rw [last])
    exact ⟨content, (holds _ _).mp file⟩
  have free {f : Path × Bytes} (there : f ∈ stored) : d₁.entry (root ++ f.1) ≠ some .dir :=
    place_of_putAll written (List.mem_map.mpr ⟨f, there, rfl⟩)
  refine ⟨(of_mkdirAll made).1, ?_, ?_, named, ?_, ?_⟩
  · intro f held empty
    obtain ⟨g, there⟩ := List.exists_mem_of_ne_nil stored something
    obtain ⟨content, held'⟩ := named g there
    have same := apart f held _ held' (by rw [empty]; exact List.nil_prefix)
    apply free there
    rw [← same, empty, entries, if_pos (by simp)]
  · rintro p ⟨content, file⟩
    -- A file that was there is still there.
    have before : d₁.IsFile (root ++ p) := ⟨content, (file_mkdirAll made content).mpr file⟩
    obtain ⟨content', file⟩ := isFile_putAll written before
    exact ⟨content', (holds _ _).mp file⟩
  · intro f there dir
    apply free there
    rw [entries, dir, ite_self]
  · intro f held
    exact (entry_below made written f.1 f.2).mp ((holds _ _).mpr held)

theorem Room.of_free (once : (files.map Prod.fst).Nodup) (below : ∀ f ∈ files, f.1 ≠ [])
    (above : ∀ q, q <+: root → ¬ d.IsFile q) (free : ∀ p, p ≠ [] → d.entry (root ++ p) = none) :
    Room d root files files where
  above := above
  below := below
  stale p file := by
    by_cases empty : p = []
    · exact absurd (by simpa [empty] using file) (above root List.prefix_rfl)
    · obtain ⟨content, there⟩ := file
      rw [free p empty] at there
      cases there
  named f there := ⟨f.2, there⟩
  place f there := by
    rw [free f.1 (below f there)]
    simp
  latest f there := by
    obtain ⟨content, last⟩ := exists_lookup there
    obtain ⟨before, after, whole, -⟩ := List.lookup_eq_some_iff.mp last
    have there' : (f.1, content) ∈ files := by
      rw [← List.mem_reverse, whole]
      simp
    have same := List.inj_on_of_nodup_map once there' there rfl
    rw [last]
    exact congrArg Prod.snd same

end Directory

def empty : Disk := ⟨fun _ => none, fun _ _ there => absurd rfl there⟩

def single (p : Path) (content : Bytes) : Disk where
  entry q := if q = p then some (.file content) else if q <+: p then some .dir else none
  closed q name there := by
    have inside : q ++ [name] <+: p := by
      by_contra outside
      rw [if_neg fun same => outside (by rw [same]), if_neg outside] at there
      exact there rfl
    have apart : q ≠ p := by
      rintro rfl
      simpa using inside.length_le
    rw [if_neg apart, if_pos ((List.prefix_append q [name]).trans inside)]

theorem holds_single (root : Path) (p : Path) (content : Bytes) :
    (single (root ++ p) content).Holds root [(p, content)] := by
  intro q content'
  -- Everything else on the way is a directory.
  simp only [single, List.append_right_inj, List.mem_singleton, Prod.mk.injEq]
  split
  · rename_i same
    simp [same, eq_comm]
  · rename_i other
    split <;> simp [other]

end Disk

end Falak

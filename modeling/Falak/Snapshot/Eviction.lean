import Falak.Lib.Reach
import Falak.Snapshot.Store
import Mathlib.Data.List.Perm.Subperm

/-! Which snapshots the store evicts, and what becomes of those that are in use. -/

namespace Falak.Snapshot

namespace Record

def key (r : Record) : String × String := (r.capsuleID, r.tag)

def wallClock (r : Record) : Int := r.createdAt + r.zone * second

def expired (now : Int) (r : Record) : Bool := now - r.lastAccessed > r.ttl

end Record

namespace Store

variable (s : Store) (fault : Option String) (capsuleID tag : String)

variable (failed : List (String × String)) (now : Int)

def update (key : String × String) (change : Record → Record) : Store :=
  match s.records.lookup key with
  | some r => { s with records := s.records.insert key (change r) }
  | none => s

def touchAccess : Except String Store :=
  failing fault (.ok (s.update (capsuleID, tag) ({ · with lastAccessed := now })))

def setInUse (inUse : Bool) : Except String Store :=
  failing fault (.ok (s.update (capsuleID, tag) ({ · with inUse })))

def delete : Except String Store :=
  failing fault (.ok { s with records := s.records.erase (capsuleID, tag) })

def rows : List Record := s.records.entries.map (·.2)

def rowsOf : List Record := s.rows.filter (·.capsuleID = capsuleID)

def remove (keys : List (String × String)) : Store :=
  { s with records := keys.foldl (fun records key => records.erase key) s.records }

def deleteByCapsule : Except String Store :=
  failing fault (.ok (s.remove ((s.rowsOf capsuleID).map Record.key)))

def Answer (all : List Record) : Prop :=
  all.Perm (s.rowsOf capsuleID) ∧ all.Pairwise fun r r' => r'.wallClock ≤ r.wallClock

instance (all : List Record) : Decidable (s.Answer capsuleID all) :=
  inferInstanceAs (Decidable (_ ∧ _))

def evict (evicted : List Record) : Store :=
  s.remove ((evicted.map Record.key).filter (· ∉ failed))

def expiredRows : List Record := s.rows.filter fun r => !r.inUse && r.expired now

def evictExpired :
    Except String (Store × List Record) :=
  failing fault (.ok (s.evict failed (s.expiredRows now), s.expiredRows now))

def overCap (maxPerCapsule : Int) : Int → List Record → List Record
  | _, [] => []
  | kept, r :: rest =>
    if (kept < maxPerCapsule ∨ r.inUse) ∧ (!r.inUse ∨ kept < maxPerCapsule) then
      overCap maxPerCapsule (kept + 1) rest
    else r :: overCap maxPerCapsule kept rest

def evictOverCap (maxPerCapsule : Int) (all : List Record) :
    Except String (Store × List Record) :=
  failing fault (.ok (s.evict failed (overCap maxPerCapsule 0 all), overCap maxPerCapsule 0 all))

section Lookups

variable {s capsuleID} {key key' : String × String} {r : Record}

theorem lookup_update (change : Record → Record) :
    (s.update key change).records.lookup key' =
      if key' = key then (s.records.lookup key).map change else s.records.lookup key' := by
  -- There is a record to change, or nothing happens.
  unfold update
  split
  · rename_i r found
    by_cases same : key' = key
    · subst same
      simp [found]
    · simp [same, AList.lookup_insert_ne same]
  · rename_i absent
    by_cases same : key' = key
    · subst same
      simp [absent]
    · simp [same]

theorem lookup_remove (keys : List (String × String)) :
    (s.remove keys).records.lookup key = if key ∈ keys then none else s.records.lookup key := by
  unfold remove
  induction keys generalizing s with
  | nil => simp
  | cons first rest ih =>
    rw [List.foldl_cons, ih (s := { s with records := s.records.erase first })]
    by_cases same : key = first
    · subst same
      simp
    · simp [same, AList.lookup_erase_ne same]

theorem mem_rows : r ∈ s.rows ↔ ∃ key, s.records.lookup key = some r := by
  simp only [rows, List.mem_map, Sigma.exists, exists_eq_right]
  exact exists_congr fun key => AList.mem_lookup_iff.symm

def Keyed (s : Store) : Prop := ∀ key r, s.records.lookup key = some r → r.key = key

theorem mem_rowsOf (keyed : s.Keyed) :
    r ∈ s.rowsOf capsuleID ↔ s.records.lookup r.key = some r ∧ r.capsuleID = capsuleID := by
  simp only [rowsOf, List.mem_filter, mem_rows, decide_eq_true_eq]
  refine and_congr_left fun _ => ⟨fun ⟨key, found⟩ => ?_, fun found => ⟨_, found⟩⟩
  rwa [keyed key r found]

theorem nodup_rowsOf (keyed : s.Keyed) : (s.rowsOf capsuleID).Nodup := by
  refine List.Nodup.filter _ ?_
  have keys : (s.rows.map Record.key).Nodup := by
    have same : s.rows.map Record.key = s.records.keys := by
      simp only [rows, List.map_map]
      refine List.map_congr_left fun entry listed => ?_
      exact keyed entry.1 entry.2 (AList.mem_lookup_iff.mpr listed)
    rw [same]
    exact s.records.keys_nodup
  exact keys.of_map

end Lookups

theorem overCap_eq_drop (maxPerCapsule kept : Int) (all : List Record) :
    overCap maxPerCapsule kept all = all.drop (maxPerCapsule - kept).toNat := by
  induction all generalizing kept with
  | nil => simp [overCap]
  | cons r rest ih =>
    by_cases room : kept < maxPerCapsule
    · have left : (maxPerCapsule - kept).toNat = (maxPerCapsule - (kept + 1)).toNat + 1 := by omega
      simp [overCap, room, ih, left]
    · have none : (maxPerCapsule - kept).toNat = 0 := by omega
      cases inUse : r.inUse <;> simp [overCap, room, inUse, ih, none]

end Store

structure Usage where
  store : Store
  marked : List (String × String)

inductive Call
  | put (fault : Option String) (record : Record)
  | setInUse (fault : Option String) (capsuleID tag : String) (inUse : Bool)
  | touchAccess (fault : Option String) (capsuleID tag : String) (now : Int)
  | delete (fault : Option String) (capsuleID tag : String)
  | deleteByCapsule (fault : Option String) (capsuleID : String)
  | evictExpired (fault : Option String) (failed : List (String × String)) (now : Int)
  | evictOverCap (fault : Option String) (failed : List (String × String)) (capsuleID : String)
      (maxPerCapsule : Int) (all : List Record)

namespace Usage

variable (u : Usage)

def settle (result : Except String Store) (marked : List (String × String)) : Usage :=
  match result with
  | .error _ => u
  | .ok s => ⟨s, marked⟩

def mark (key : String × String) (inUse : Bool) : List (String × String) :=
  if inUse then if (u.store.records.lookup key).isSome then key :: u.marked else u.marked
  else u.marked.filter (· ≠ key)

def step : Call → Option Usage
  | .put fault record => some (u.settle (u.store.put fault record) u.marked)
  | .setInUse fault capsuleID tag inUse =>
    some (u.settle (u.store.setInUse fault capsuleID tag inUse) (u.mark (capsuleID, tag) inUse))
  | .touchAccess fault capsuleID tag now =>
    some (u.settle (u.store.touchAccess fault capsuleID tag now) u.marked)
  | .delete fault capsuleID tag =>
    some (u.settle (u.store.delete fault capsuleID tag) (u.marked.filter (· ≠ (capsuleID, tag))))
  | .deleteByCapsule fault capsuleID =>
    some (u.settle (u.store.deleteByCapsule fault capsuleID)
      (u.marked.filter (·.1 ≠ capsuleID)))
  | .evictExpired fault failed now =>
    some (u.settle ((u.store.evictExpired fault failed now).map Prod.fst) u.marked)
  | .evictOverCap fault failed capsuleID maxPerCapsule all =>
    if u.store.Answer capsuleID all then
      some (u.settle ((u.store.evictOverCap fault failed maxPerCapsule all).map Prod.fst) u.marked)
    else none

variable {u} {u' : Usage} {call : Call}

structure Guarded (u : Usage) : Prop where
  keyed : u.store.Keyed
  flagged : ∀ key ∈ u.marked, ∃ r, u.store.records.lookup key = some r ∧ r.inUse = true

def Careful (u : Usage) : Call → Prop
  | .put _ record => record.key ∈ u.marked → record.inUse = true
  | .evictOverCap _ _ _ maxPerCapsule all =>
    ∀ r ∈ all.drop maxPerCapsule.toNat, r.key ∉ u.marked
  | _ => True

variable {marked : List (String × String)} {key : String × String} {r : Record}
  {evicted all : List Record} {capsuleID : String}

theorem Guarded.settle (guarded : Guarded u) {result : Except String Store}
    (done : ∀ s, result = .ok s → Guarded ⟨s, marked⟩) :
    Guarded (u.settle result marked) := by
  cases result with
  | error err => exact guarded
  | ok s => exact done s rfl

theorem Guarded.attempt (guarded : Guarded u) {fault : Option String} {s : Store}
    (kept : Guarded ⟨s, marked⟩) : Guarded (u.settle (failing fault (.ok s)) marked) := by
  refine guarded.settle fun s done => ?_
  obtain ⟨-, stored⟩ := failing_eq_ok.mp done
  cases stored
  exact kept

theorem mem_mark {key' : String × String} {inUse : Bool} (member : key' ∈ u.mark key inUse) :
    key' ∈ u.marked ∧ (key' = key → inUse = true) ∨
      key' = key ∧ inUse = true ∧ (u.store.records.lookup key).isSome := by
  unfold mark at member
  split_ifs at member with set found
  · rcases List.mem_cons.mp member with here | before
    · exact .inr ⟨here, set, found⟩
    · exact .inl ⟨before, fun _ => set⟩
  · exact .inl ⟨member, fun _ => set⟩
  · obtain ⟨before, other⟩ := List.mem_filter.mp member
    exact .inl ⟨before, fun here => absurd here (of_decide_eq_true other)⟩

theorem keyed_remove (keyed : u.store.Keyed) (keys : List (String × String)) :
    (u.store.remove keys).Keyed := by
  intro key r found
  rw [Store.lookup_remove] at found
  split_ifs at found
  exact keyed key r found

theorem Guarded.remove (guarded : Guarded u) {keys : List (String × String)}
    (still : ∀ key ∈ marked, key ∈ u.marked) (spared : ∀ key ∈ marked, key ∉ keys) :
    Guarded ⟨u.store.remove keys, marked⟩ := by
  refine ⟨keyed_remove guarded.keyed keys, fun key member => ?_⟩
  rw [Store.lookup_remove, if_neg (spared key member)]
  exact guarded.flagged key (still key member)

theorem keyed_update (keyed : u.store.Keyed) (key : String × String) {change : Record → Record}
    (same : ∀ r, (change r).key = r.key) : (u.store.update key change).Keyed := by
  intro key' r found
  rw [Store.lookup_update] at found
  split_ifs at found with here
  · obtain ⟨before, was, rfl⟩ := Option.map_eq_some_iff.mp found
    rw [same, here]
    exact keyed key before was
  · exact keyed key' r found

theorem Guarded.not_marked_of_expired (guarded : Guarded u) {now : Int}
    (reported : r ∈ u.store.expiredRows now) : r.key ∉ u.marked := by
  obtain ⟨listed, unused⟩ := List.mem_filter.mp reported
  have unused : r.inUse = false ∧ r.expired now = true := by simpa using unused
  intro marked
  obtain ⟨r', found, flag⟩ := guarded.flagged _ marked
  obtain ⟨key, found'⟩ := Store.mem_rows.mp listed
  rw [guarded.keyed key r found'] at found
  cases found.symm.trans found'
  rw [unused.1] at flag
  cases flag

theorem evicted_ok {fault : Option String} {left s : Store}
    (done : (failing fault (.ok (left, evicted))).map Prod.fst = .ok s) : left = s := by
  cases fault with
  | some err => cases done
  | none => exact Except.ok.inj done

theorem Guarded.evict (guarded : Guarded u) (failed : List (String × String))
    (spared : ∀ r ∈ evicted, r.key ∉ u.marked) :
    Guarded ⟨u.store.evict failed evicted, u.marked⟩ := by
  refine guarded.remove (fun _ member => member) fun key member deleted => ?_
  obtain ⟨r, reported, rfl⟩ := List.mem_map.mp (List.mem_filter.mp deleted).1
  exact spared r reported member

theorem Guarded.put (guarded : Guarded u) (record : Record)
    (keeps : record.key ∈ u.marked → record.inUse = true) :
    Guarded ⟨{ u.store with records := u.store.records.insert record.key record }, u.marked⟩ := by
  -- Only the record under the key is another one.
  refine ⟨fun key r found => ?_, fun key member => ?_⟩
  · by_cases here : key = record.key
    · subst here
      rw [AList.lookup_insert] at found
      cases found
      rfl
    · rw [AList.lookup_insert_ne here] at found
      exact guarded.keyed key r found
  · by_cases here : key = record.key
    · subst here
      exact ⟨record, AList.lookup_insert _, keeps member⟩
    · rw [AList.lookup_insert_ne here]
      exact guarded.flagged key member

theorem Guarded.setInUse (guarded : Guarded u) (key : String × String) (inUse : Bool) :
    Guarded ⟨u.store.update key ({ · with inUse }), u.mark key inUse⟩ := by
  refine ⟨keyed_update guarded.keyed _ fun _ => rfl, fun key' member => ?_⟩
  rw [Store.lookup_update]
  -- No flag but that of the key is changed.
  rcases mem_mark member with ⟨before, set⟩ | ⟨here, set, found⟩
  · obtain ⟨r, found, flag⟩ := guarded.flagged key' before
    split_ifs with here
    · exact ⟨{ r with inUse }, by rw [← here, found]; rfl, set here⟩
    · exact ⟨r, found, flag⟩
  · obtain ⟨r, found⟩ := Option.isSome_iff_exists.mp found
    exact ⟨{ r with inUse }, by rw [if_pos here, found]; rfl, set⟩

theorem Guarded.touchAccess (guarded : Guarded u) (key : String × String) (now : Int) :
    Guarded ⟨u.store.update key ({ · with lastAccessed := now }), u.marked⟩ := by
  refine ⟨keyed_update guarded.keyed _ fun _ => rfl, fun key' member => ?_⟩
  obtain ⟨r, found, flag⟩ := guarded.flagged key' member
  rw [Store.lookup_update]
  split_ifs with here
  · exact ⟨{ r with lastAccessed := now }, by rw [← here, found]; rfl, flag⟩
  · exact ⟨r, found, flag⟩

theorem Guarded.step (guarded : Guarded u) (careful : Careful u call)
    (taken : u.step call = some u') : Guarded u' := by
  cases call with
  | put fault record =>
    cases taken
    exact guarded.attempt
      (guarded.put { record with ttl := record.ttl.tdiv second * second } careful)
  | setInUse fault capsuleID tag inUse =>
    cases taken
    exact guarded.attempt (guarded.setInUse (capsuleID, tag) inUse)
  | touchAccess fault capsuleID tag now =>
    cases taken
    exact guarded.attempt (guarded.touchAccess (capsuleID, tag) now)
  | delete fault capsuleID tag =>
    cases taken
    refine guarded.attempt ?_
    have spared : ∀ key ∈ u.marked.filter (· ≠ (capsuleID, tag)), key ∉ [(capsuleID, tag)] := by
      simp
    exact guarded.remove (fun key member => (List.mem_filter.mp member).1) spared
  | deleteByCapsule fault capsuleID =>
    cases taken
    refine guarded.attempt ?_
    refine guarded.remove (fun key member => (List.mem_filter.mp member).1) ?_
    intro key member deleted
    obtain ⟨r, listed, rfl⟩ := List.mem_map.mp deleted
    have other := of_decide_eq_true (List.mem_filter.mp member).2
    exact other ((Store.mem_rowsOf guarded.keyed).mp listed).2
  | evictExpired fault failed now =>
    cases taken
    refine guarded.settle fun s done => ?_
    rw [← evicted_ok done]
    exact guarded.evict failed fun r reported => guarded.not_marked_of_expired reported
  | evictOverCap fault failed capsuleID maxPerCapsule all =>
    obtain ⟨-, rfl⟩ := of_guard taken
    refine guarded.settle fun s done => ?_
    rw [← evicted_ok done]
    refine guarded.evict failed fun r reported => ?_
    rw [Store.overCap_eq_drop, Int.sub_zero] at reported
    exact careful r reported

def Spares (u : Usage) (s : Store) (evicted : List Record) : Prop :=
  ∀ key ∈ u.marked, s.records.lookup key = u.store.records.lookup key ∧
    key ∉ evicted.map Record.key

theorem spares_evict_iff {failed : List (String × String)} :
    Spares u (u.store.evict failed evicted) evicted ↔ ∀ r ∈ evicted, r.key ∉ u.marked := by
  constructor
  · intro spares r reported marked
    exact (spares r.key marked).2 (List.mem_map_of_mem reported)
  · intro spared key marked
    have other : key ∉ evicted.map Record.key := by
      intro reported
      obtain ⟨r, listed, rfl⟩ := List.mem_map.mp reported
      exact spared r listed marked
    refine ⟨?_, other⟩
    -- What is not reported is not deleted either.
    exact (Store.lookup_remove _).trans
      (if_neg fun deleted => other (List.mem_filter.mp deleted).1)

theorem lookup_evict_other (keyed : u.store.Keyed) (answer : u.store.Answer capsuleID all)
    (among : ∀ r ∈ evicted, r ∈ all) (failed : List (String × String)) (other : key.1 ≠ capsuleID) :
    (u.store.evict failed evicted).records.lookup key = u.store.records.lookup key := by
  refine (Store.lookup_remove _).trans (if_neg fun deleted => ?_)
  obtain ⟨r, reported, rfl⟩ := List.mem_map.mp (List.mem_filter.mp deleted).1
  exact other ((Store.mem_rowsOf keyed).mp (answer.1.subset (among r reported))).2

theorem mem_take_of_left (keyed : u.store.Keyed) (answer : u.store.Answer capsuleID all)
    (kept : Nat) (left : r ∈ (u.store.evict [] (all.drop kept)).rowsOf capsuleID) :
    r ∈ all.take kept := by
  obtain ⟨found, capsule⟩ := (Store.mem_rowsOf (keyed_remove keyed _)).mp left
  rw [Store.lookup_remove] at found
  split_ifs at found with deleted
  have listed : r ∈ all := answer.1.symm.subset ((Store.mem_rowsOf keyed).mpr ⟨found, capsule⟩)
  rw [← List.take_append_drop kept all] at listed
  refine (List.mem_append.mp listed).resolve_right fun evicted => deleted ?_
  exact List.mem_filter.mpr ⟨List.mem_map_of_mem evicted, by simp⟩

structure Capped (u : Usage) (capsuleID : String) (maxPerCapsule : Nat) (all : List Record)
    (s : Store) (evicted : List Record) : Prop where
  bounded : ((s.rowsOf capsuleID).filter fun r => !r.inUse).length ≤ maxPerCapsule
  newest : (∀ r ∈ all, ∀ r' ∈ all, r.zone = r'.zone) →
    ∀ r ∈ s.rowsOf capsuleID, ∀ r' ∈ evicted, r'.createdAt ≤ r.createdAt
  others : ∀ key : String × String, key.1 ≠ capsuleID →
    s.records.lookup key = u.store.records.lookup key

theorem capped_evictOverCap (keyed : u.store.Keyed) (answer : u.store.Answer capsuleID all)
    (maxPerCapsule : Nat) :
    Capped u capsuleID maxPerCapsule all (u.store.evict [] (all.drop maxPerCapsule))
      (all.drop maxPerCapsule) := by
  have kept : ∀ r ∈ (u.store.evict [] (all.drop maxPerCapsule)).rowsOf capsuleID,
      r ∈ all.take maxPerCapsule := fun r => mem_take_of_left keyed answer maxPerCapsule
  refine ⟨?_, fun zone r left r' evicted => ?_, fun key other => ?_⟩
  · have distinct : ((u.store.evict [] (all.drop maxPerCapsule)).rowsOf capsuleID).Nodup :=
      Store.nodup_rowsOf (keyed_remove keyed _)
    calc _ ≤ ((u.store.evict [] (all.drop maxPerCapsule)).rowsOf capsuleID).length :=
          List.length_filter_le _ _
      _ ≤ (all.take maxPerCapsule).length := (distinct.subperm kept).length_le
      _ ≤ maxPerCapsule := List.length_take_le _ _
  · have ordered := answer.2
    rw [← List.take_append_drop maxPerCapsule all, List.pairwise_append] at ordered
    have later := ordered.2.2 r (kept r left) r' evicted
    have same := zone r (List.mem_of_mem_take (kept r left)) r' (List.mem_of_mem_drop evicted)
    unfold Record.wallClock at later
    rw [same] at later
    omega
  · exact lookup_evict_other keyed answer (fun r => List.mem_of_mem_drop) [] other

/--
After careful calls every marked record exists and has its flag, and no expiry evicts it. An
eviction over the cap spares the marked records exactly if none of them is beyond the cap, and it
keeps its promises about the cap.
-/
theorem in_use_survives {s : Store} (keyed : s.Keyed) {u : Usage}
    (reached : Reach step Careful ⟨s, []⟩ u) :
    (∀ key ∈ u.marked, ∃ r, u.store.records.lookup key = some r ∧ r.inUse = true) ∧
      (∀ failed now, ∃ left evicted,
        u.store.evictExpired none failed now = .ok (left, evicted) ∧ Spares u left evicted) ∧
      ∀ capsuleID (maxPerCapsule : Nat) all, u.store.Answer capsuleID all →
        ∃ left evicted, u.store.evictOverCap none [] maxPerCapsule all = .ok (left, evicted) ∧
          (Spares u left evicted ↔ ∀ r ∈ all.drop maxPerCapsule, r.key ∉ u.marked) ∧
          Capped u capsuleID maxPerCapsule all left evicted := by
  have guarded : Guarded u := reached.invariant Guarded ⟨keyed, List.forall_mem_nil _⟩
    fun _ _ _ guarded careful taken => guarded.step careful taken
  refine ⟨guarded.flagged, fun failed now => ⟨_, _, rfl, ?_⟩, ?_⟩
  · exact spares_evict_iff.mpr fun r reported => guarded.not_marked_of_expired reported
  · intro capsuleID maxPerCapsule all answer
    have evicted : Store.overCap maxPerCapsule 0 all = all.drop maxPerCapsule := by
      rw [Store.overCap_eq_drop, Int.sub_zero, Int.toNat_natCast]
    refine ⟨_, _, rfl, ?_, ?_⟩
    · rw [evicted]
      exact spares_evict_iff
    · rw [evicted]
      exact capped_evictOverCap guarded.keyed answer maxPerCapsule

def bare : Store := ⟨[], .empty, ∅⟩

def taken (tag : String) (createdAt zone : Int) : Record :=
  { capsuleID := "web", tag, size := 1, path := [], checksum := "", createdAt, zone
    lastAccessed := createdAt, ttl := 60 * second }

def simple (u : Usage) : Call → Bool
  | .put _ _ => u.marked.isEmpty
  | .evictOverCap _ _ _ _ _ => false
  | _ => true

theorem careful_of_simple (u : Usage) (call : Call) (ok : simple u call = true) :
    Careful u call := by
  cases call with
  | put fault record =>
    intro member
    rw [List.isEmpty_iff.mp ok] at member
    cases member
  | evictOverCap => cases ok
  | _ => trivial

/-- A snapshot that is recorded and marked stays when the others expire. -/
theorem in_use_survives_marked :
    ∃ u, Reach step Careful ⟨bare, []⟩ u ∧ u.marked = [("web", "v1")] ∧
      ∀ key ∈ u.marked, ∃ r, u.store.records.lookup key = some r ∧ r.inUse = true := by
  obtain ⟨u, reached, marked⟩ := Reach.exists_of_accepted _ careful_of_simple step ⟨bare, []⟩
    [.put none (taken "v1" 0 0), .put none (taken "v2" 0 0), .setInUse none "web" "v1" true,
      .evictExpired none [] (3600 * second)] (fun u => u.marked = [("web", "v1")])
    (by decide +kernel)
  refine ⟨u, reached, marked, ?_⟩
  exact (in_use_survives (s := bare) (fun key r found => by cases found) reached).1

def capOfZero : List Call :=
  [.put none (taken "v1" 0 0), .setInUse none "web" "v1" true,
    .evictOverCap none [] "web" 0 [{ taken "v1" 0 0 with inUse := true }]]

def recordedAgain : List Call :=
  [.put none (taken "v1" 0 0), .setInUse none "web" "v1" true, .put none (taken "v1" 0 0),
    .evictExpired none [] (3600 * second)]

def setBack : List Call :=
  [.put none (taken "summer" 0 7200), .put none (taken "winter" (600 * second) 3600),
    .evictOverCap none [] "web" 1 [taken "summer" 0 7200, taken "winter" (600 * second) 3600]]

/--
A marked record is evicted when the cap is below its position, and when it is recorded again and
expires. When the clock has been set back, the newer one of two records is evicted.
-/
theorem in_use_evicted :
    (∃ u, Trace step (fun _ _ => True) ⟨bare, []⟩ capOfZero u ∧ u.marked = [("web", "v1")] ∧
        u.store.rows = []) ∧
      (∃ u, Trace step (fun _ _ => True) ⟨bare, []⟩ recordedAgain u ∧ u.marked = [("web", "v1")] ∧
        u.store.rows = []) ∧
      ∃ u, Trace step (fun _ _ => True) ⟨bare, []⟩ setBack u ∧
        u.store.rows = [taken "summer" 0 7200] := by
  refine ⟨?_, ?_, ?_⟩
  · exact Trace.exists_of_actions _ _ capOfZero _ (by decide +kernel)
  · exact Trace.exists_of_actions _ _ recordedAgain _ (by decide +kernel)
  · exact Trace.exists_of_actions _ _ setBack _ (by decide +kernel)

end Usage

end Falak.Snapshot

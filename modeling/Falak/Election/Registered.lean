import Falak.Election.Offers

/-! Which listener is registered for a key, told from the calls that were made. -/

namespace Falak.Election.Exchange

open ClusterTopic

variable {w w' : Exchange} {call : Call}

structure Registered (w : Exchange) (key : MessageKey) (l : Nat) : Prop where
  call : ∃ c, w.listens[l]? = some c ∧ c.key = key
  last : ∀ (l' : Nat) (c : Listened), l < l' → w.listens[l']? = some c → c.key ≠ key
  active : (w.cells[l]?).map (·.cancelled) = some false

structure Wired (w : Exchange) : Prop where
  aligned : w.cells.length = w.listens.length
  found : ∀ (n : Nat) (r : Arrived) (l : Nat), w.arrivals[n]? = some r → r.listener = some l →
    l < w.listens.length
  registered : ∀ (key : MessageKey) (l : Nat),
    w.topic.listeners.lookup key = some l ↔ Registered w key l

variable {key : MessageKey} {l : Nat} {cells : List Cell}

theorem Registered.lt (registered : Registered w key l) : l < w.listens.length := by
  obtain ⟨c, call, -⟩ := registered.call
  exact lt_of_some call

theorem Registered.congr (listens : w'.listens = w.listens)
    (flags : (w'.cells[l]?).map (·.cancelled) = (w.cells[l]?).map (·.cancelled)) :
    Registered w' key l ↔ Registered w key l := by
  constructor
  · rintro ⟨called, last, active⟩
    rw [listens] at called last
    exact ⟨called, last, flags ▸ active⟩
  · rintro ⟨called, last, active⟩
    rw [← listens] at called last
    exact ⟨called, last, flags ▸ active⟩

theorem flags_modify {change : Cell → Cell} (keeps : ∀ c, (change c).cancelled = c.cancelled)
    (i l : Nat) :
    ((cells.modify i change)[l]?).map (·.cancelled) = (cells[l]?).map (·.cancelled) := by
  rw [List.getElem?_modify]
  cases cells[l]? with
  | none => rfl
  | some c =>
    simp only [Option.map_eq_map, Option.map_some, Option.some.injEq]
    split
    · exact keeps c
    · rfl

theorem flags_set {i : Nat} {c c' : Cell} (here : cells[i]? = some c)
    (same : c'.cancelled = c.cancelled) (l : Nat) :
    ((cells.set i c')[l]?).map (·.cancelled) = (cells[l]?).map (·.cancelled) := by
  have bound := lt_of_some here
  by_cases own : i = l
  · subst own
    rw [List.getElem?_set_self bound, here, Option.map_some, Option.map_some, same]
  · rw [List.getElem?_set_ne own]

theorem Wired.aligned_step (wired : Wired w) (move : Move w call w') :
    w'.cells.length = w'.listens.length := by
  have old := wired.aligned
  cases move with
  | dispatch | replay => simpa [offer] using old
  | listen key size =>
    simp only [Exchange.listen, List.length_append, List.length_singleton]
    split <;> simp [old]
  | cancel | close | takeClaim | takeFailure => simpa [setCell] using old
  | _ => exact old

theorem Wired.found_step (wired : Wired w) (move : Move w call w') (n : Nat) (r : Arrived) (l : Nat)
    (here : w'.arrivals[n]? = some r) (found : r.listener = some l) : l < w'.listens.length := by
  have more := move.extends.listens.length_le
  have old (before : w.arrivals[n]? = some r) : l < w'.listens.length :=
    Nat.lt_of_lt_of_le (wired.found n r l before found) more
  cases move with
  | buffer =>
    rcases append_some here with ⟨-, rfl⟩ | before
    · cases found
    · exact old before
  | route there =>
    rcases append_some here with ⟨-, rfl⟩ | before
    · cases found
      exact ((wired.registered _ _).mp there).lt
    · exact old before
  | _ => exact old here

theorem listen_cells (w : Exchange) (key : MessageKey) (size : Int) :
    ∃ replaced, (w.listen key size).cells = replaced ++ [⟨.new (capacity size), false, [], []⟩] ∧
      replaced.length = w.cells.length ∧
      ∀ l, replaced[l]? = w.cells[l]? ∨
        w.topic.listeners.lookup key = some l ∧ replaced[l]? = (w.cells[l]?).map Cell.close := by
  refine ⟨_, rfl, ?_, fun l => ?_⟩
  · split <;> simp
  · cases existing : w.topic.listeners.lookup key with
    | none => exact .inl rfl
    | some l' =>
      by_cases same : l' = l
      · exact .inr ⟨congrArg some same, by simp [same]⟩
      · exact .inl (by simp [same])

theorem flags_listen (wired : Wired w) (key : MessageKey) (size : Int)
    (early : l < w.listens.length) :
    ((w.listen key size).cells[l]?).map (·.cancelled) = (w.cells[l]?).map (·.cancelled) := by
  obtain ⟨replaced, cells, length, entry⟩ := listen_cells w key size
  rw [cells, List.getElem?_append_left (by rw [length, wired.aligned]; exact early)]
  rcases entry l with same | ⟨-, closed⟩
  · rw [same]
  · rw [closed, Option.map_map]
    rfl

theorem registered_listen (wired : Wired w) (key other : MessageKey) (size : Int) (l : Nat) :
    Registered (w.listen key size) other l ↔
      if other = key then l = w.listens.length else Registered w other l := by
  have last : (w.listen key size).listens[w.listens.length]?
      = some ⟨key, w.now, capacity size⟩ := List.getElem?_concat_length
  constructor
  · intro registered
    obtain ⟨c, here, own⟩ := registered.call
    rcases append_some here with ⟨rfl, rfl⟩ | before
    · rw [if_pos own.symm]
    · have early := lt_of_some before
      have different : other ≠ key := Ne.symm (registered.last _ _ early last)
      rw [if_neg different]
      refine ⟨⟨c, before, own⟩, fun l' c' after there => ?_, ?_⟩
      · have made := lt_of_some there
        exact registered.last l' c' after (List.getElem?_append_left made ▸ there)
      · exact (flags_listen wired key size early) ▸ registered.active
  · intro registered
    split at registered
    · rename_i same
      subst registered same
      obtain ⟨replaced, cells, length, -⟩ := listen_cells w other size
      refine ⟨⟨_, last, rfl⟩, fun l' c' after there => ?_, ?_⟩
      · have made := lt_of_some there
        simp only [Exchange.listen, List.length_append, List.length_singleton] at made
        omega
      · rw [cells, ← wired.aligned, ← length, List.getElem?_concat_length]
        rfl
    · rename_i different
      have early := registered.lt
      obtain ⟨c, here, own⟩ := registered.call
      refine ⟨⟨c, ?_, own⟩, fun l' c' after there => ?_, ?_⟩
      · exact List.getElem?_append_left early ▸ here
      · rcases append_some there with ⟨-, rfl⟩ | before
        · exact Ne.symm different
        · exact registered.last l' c' after before
      · rw [flags_listen wired key size early]
        exact registered.active

theorem registered_cancel (wired : Wired w) {listened : Listened} {c : Cell}
    (called : w.listens[l]? = some listened) (here : w.cells[l]? = some c) (key : MessageKey)
    (l' : Nat) :
    (w.topic.unlisten listened.key l).listeners.lookup key = some l' ↔
      Registered { w.setCell l { c with cancelled := true } with
        topic := w.topic.unlisten listened.key l } key l' := by
  have bound := lt_of_some here
  -- Only the flag of the call itself changes.
  have flags (different : l ≠ l') :
      (((w.cells.set l { c with cancelled := true })[l']?).map (·.cancelled))
        = (w.cells[l']?).map (·.cancelled) := by
    rw [List.getElem?_set_ne different]
  constructor
  · intro found
    obtain ⟨before, own⟩ := lookup_unlisten found
    have registered := (wired.registered key l').mp before
    have different : l ≠ l' := by
      rintro rfl
      obtain ⟨c', called', same⟩ := registered.call
      obtain rfl := Option.some.inj (called.symm.trans called')
      exact own same.symm rfl
    refine (Registered.congr ?_ ?_).mpr registered
    · rfl
    · exact flags different
  · intro registered
    have different : l ≠ l' := by
      rintro rfl
      have active := registered.active
      simp only [setCell, List.getElem?_set_self bound] at active
      cases active
    have earlier : Registered w key l' := by
      refine (Registered.congr ?_ ?_).mp registered
      · rfl
      · exact flags different
    exact lookup_unlisten_of_ne ((wired.registered key l').mpr earlier) (Ne.symm different)

theorem Wired.registered_step (wired : Wired w) (move : Move w call w') (key : MessageKey)
    (l : Nat) : w'.topic.listeners.lookup key = some l ↔ Registered w' key l := by
  have quiet (listens : w'.listens = w.listens)
      (flags : (w'.cells[l]?).map (·.cancelled) = (w.cells[l]?).map (·.cancelled)) :
      w.topic.listeners.lookup key = some l ↔ Registered w' key l :=
    (wired.registered key l).trans (Registered.congr listens flags).symm
  cases move with
  | tick | route | sweep => exact quiet rfl rfl
  | buffer =>
    rw [receive_listeners]
    exact quiet rfl rfl
  | dispatch | replay => exact quiet rfl (flags_modify (Cell.dispatch_cancelled _) _ l)
  | listen key' size =>
    simp only [Exchange.listen, lookup_listen]
    rw [show Exchange.mk _ _ _ _ _ _ _ _ = w.listen key' size from rfl, registered_listen wired]
    split
    · simp [eq_comm]
    · exact wired.registered key l
  | cancel _ called here => exact registered_cancel wired called here key l
  | close here => exact quiet rfl (flags_set here (Cell.close_cancelled _) l)
  | takeClaim here => exact quiet rfl (flags_set here (Cell.takeClaim_cancelled _ _ _) l)
  | takeFailure here => exact quiet rfl (flags_set here (Cell.takeFailure_cancelled _ _ _) l)

theorem Wired.step (wired : Wired w) (move : Move w call w') : Wired w' :=
  ⟨wired.aligned_step move, wired.found_step move, wired.registered_step move⟩

end Falak.Election.Exchange

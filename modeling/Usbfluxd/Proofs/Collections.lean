import Mathlib.Data.Multiset.AddSub
import Usbfluxd.Lib.Foreach
import Usbfluxd.Moves.Remote

/-!
# Collections under mutation

Two things about the tables the daemon keeps its clients and remotes in. The
first is about their history: whatever is added and removed, in whatever
order and however often the array grows, the elements are those added less
those removed (`contents`). The second is about `FOREACH`: a body that takes
elements out, the one it was given or any other, never makes the loop run on,
visit an element twice or miss one that is still there when its slot comes.
The second is the law of `Lib.forEach` at a collection, and `reapLoop_visits`
is its use: `usbmux_remote_process` disposes of remotes while it walks them.
-/

namespace Usbfluxd

open Lib

namespace Collection

variable {α : Type} [DecidableEq α] {x y : α} {col col' : Collection α}

/-! ## Histories -/

/-- A call of `collection_add` or of `collection_remove`. -/
inductive Change (α : Type) where
  | add (x : α)
  | remove (x : α)

def change (col : Collection α) : Change α → Collection α
  | .add x => col.add x
  | .remove x => col.remove x

/-- A collection after some calls, from `collection_init` on. -/
def history (changes : List (Change α)) : Collection α := changes.foldl change init

/-- What the calls leave, as a multiset: a removal takes one occurrence out if
there is one. -/
def contents (changes : List (Change α)) : Multiset α :=
  changes.foldl (fun m c => match c with
    | .add x => x ::ₘ m
    | .remove x => m.erase x) 0

theorem coe_elems_change (c : Change α) :
    (↑(col.change c).elems : Multiset α) = match c with
      | .add x => x ::ₘ (↑col.elems : Multiset α)
      | .remove x => (↑col.elems : Multiset α).erase x := by
  cases c with
  | add x => exact Multiset.coe_eq_coe.mpr (elems_add_perm col)
  | remove x => exact congrArg _ (elems_remove col)

/-- From any collection on, the calls do to its elements what they do to the
multiset of them. -/
theorem coe_elems_foldl (changes : List (Change α)) :
    (↑(changes.foldl change col).elems : Multiset α) =
      changes.foldl (fun m c => match c with
        | .add x => x ::ₘ m
        | .remove x => m.erase x) ↑col.elems := by
  induction changes generalizing col with
  | nil => rfl
  | cons c rest ih =>
      rw [List.foldl_cons, List.foldl_cons, ih, coe_elems_change]

theorem coe_elems_history (changes : List (Change α)) :
    (↑(history changes).elems : Multiset α) = contents changes := by
  rw [history, coe_elems_foldl, elems_init]
  rfl

omit [DecidableEq α] in
theorem length_fillSlot {l l' : List (Option α)} (h : fillSlot x l = some l') :
    l'.length = l.length := by
  induction l generalizing l' with
  | nil => cases h
  | cons o rest ih =>
      cases o with
      | none =>
          cases h
          rfl
      | some y =>
          rw [fillSlot, Option.map_eq_some_iff] at h
          obtain ⟨l₁, h₁, rfl⟩ := h
          rw [List.length_cons, List.length_cons, ih h₁]

/-- Adding keeps the capacity or adds eight to it. -/
theorem capacity_add (col : Collection α) :
    (col.add x).capacity = col.capacity ∨ (col.add x).capacity = col.capacity + 8 := by
  rw [add]
  split
  · next slots h => exact .inl (length_fillSlot h)
  · refine .inr ?_
    rw [capacity, List.length_append, List.length_cons, List.length_replicate]
    rfl

@[simp] theorem capacity_remove : (col.remove x).capacity = col.capacity := length_clearSlot

/-- A positive multiple of eight. -/
def CapacityOk (col : Collection α) : Prop := 8 ∣ col.capacity ∧ 0 < col.capacity

theorem CapacityOk.change (h : CapacityOk col) (c : Change α) : CapacityOk (col.change c) := by
  obtain ⟨hdvd, hpos⟩ := h
  cases c with
  | add x =>
      rcases col.capacity_add (x := x) with hcap | hcap
      · exact ⟨hcap ▸ hdvd, hcap ▸ hpos⟩
      · exact ⟨hcap ▸ Nat.dvd_add hdvd (Nat.dvd_refl 8), hcap ▸ Nat.add_pos_left hpos 8⟩
  | remove x =>
      exact ⟨by rwa [Collection.change, capacity_remove],
        by rwa [Collection.change, capacity_remove]⟩

theorem history_capacityOk (changes : List (Change α)) : CapacityOk (history changes) := by
  have hfold : ∀ {col : Collection α}, CapacityOk col →
      CapacityOk (changes.foldl change col) := by
    induction changes with
    | nil => exact fun h => h
    | cons c rest ih => exact fun h => ih (h.change c)
  exact hfold ⟨⟨1, rfl⟩, Nat.zero_lt_succ 7⟩

theorem clearSlot_of_not_mem {l : List (Option α)} (h : x ∉ l.filterMap id) :
    clearSlot x l = l := by
  induction l with
  | nil => rfl
  | cons o rest ih =>
      have hrest : x ∉ rest.filterMap id := fun hx => by
        obtain ⟨o', ho', hid⟩ := List.mem_filterMap.mp hx
        exact h (List.mem_filterMap.mpr ⟨o', List.mem_cons_of_mem o ho', hid⟩)
      rw [clearSlot, if_neg, ih hrest]
      rintro rfl
      exact h List.mem_cons_self

/-- Removing what is not there changes nothing, the slots included. -/
theorem remove_of_not_mem (h : x ∉ col.elems) : col.remove x = col :=
  congrArg Collection.mk (clearSlot_of_not_mem h)

/-! ## Removing only -/

/-- `col'` is `col` after some removals. -/
def OnlyRemoves (col col' : Collection α) : Prop := ∃ xs : List α, col' = xs.foldl remove col

theorem OnlyRemoves.refl {col : Collection α} : OnlyRemoves col col := ⟨[], rfl⟩

theorem OnlyRemoves.one {col : Collection α} {x : α} : OnlyRemoves col (col.remove x) :=
  ⟨[x], rfl⟩

/-- What one removal keeps, all of them keep. -/
theorem OnlyRemoves.keeps {P : Collection α → Prop}
    (hP : ∀ {c : Collection α} {x : α}, P c → P (c.remove x)) (h : OnlyRemoves col col')
    (hcol : P col) : P col' := by
  obtain ⟨xs, rfl⟩ := h
  induction xs generalizing col with
  | nil => exact hcol
  | cons x rest ih => exact ih (hP hcol)

theorem OnlyRemoves.capacity (h : OnlyRemoves col col') : col'.capacity = col.capacity :=
  h.keeps (P := fun c => c.capacity = col.capacity)
    (fun hc => capacity_remove.trans hc) rfl

theorem OnlyRemoves.nodup (h : OnlyRemoves col col') (hn : col.elems.Nodup) :
    col'.elems.Nodup :=
  h.keeps (P := fun c => c.elems.Nodup)
    (fun {c x} hc => (elems_remove (x := x) c).symm ▸ hc.erase x) hn

theorem OnlyRemoves.slot (h : OnlyRemoves col col') {i : Nat} (hi : col'.slot i = some y) :
    col.slot i = some y :=
  h.keeps (P := fun c => c.slot i = some y → col.slot i = some y)
    (fun hc hj => hc (slot_remove hj)) (fun hj => hj) hi

/-- Where there are no duplicates, an element that is still there is where it
was. -/
theorem OnlyRemoves.slot_of_mem (h : OnlyRemoves col col') (hn : col.elems.Nodup) {i : Nat}
    (hi : col.slot i = some y) (hy : y ∈ col'.elems) : col'.slot i = some y := by
  obtain ⟨xs, rfl⟩ := h
  induction xs generalizing col with
  | nil => exact hi
  | cons x rest ih =>
      have hn' : (col.remove x).elems.Nodup := elems_remove col ▸ hn.erase x
      have hy' : y ∈ (col.remove x).elems := by
        obtain ⟨j, hj⟩ := mem_elems_iff.mp hy
        exact slot_mem (OnlyRemoves.slot ⟨rest, rfl⟩ hj)
      have hne : y ≠ x := ((mem_elems_remove hn).mp hy').1
      exact ih hn' (slot_remove_of_ne hi hne) hy

end Collection

/-! ## `FOREACH` -/

section Foreach

open Collection

variable {α σ ε : Type} [DecidableEq α]

/-- `FOREACH` over the collection of a state, with `fuel` turns at most. -/
def collectionForeach (col : σ → Collection α) (body : σ → α → Except ε σ) (fuel : Nat) (s : σ) :
    Option (List α × Except ε σ) :=
  forEach (fun s i => (col s).slot i) (fun s => (col s).capacity) body fuel 0 s

/-- The state in which the loop gets to a slot. -/
def collectionReached (col : σ → Collection α) (body : σ → α → Except ε σ) (s : σ) (i : Nat) :
    Except ε σ :=
  reached (fun s i => (col s).slot i) body s i

/-- The loop gets to a slot, and the element is in the collection then. -/
def presentAt (col : σ → Collection α) (body : σ → α → Except ε σ) (s : σ) (i : Nat) (x : α) :
    Bool :=
  match collectionReached col body s i with
  | .ok t => decide (x ∈ (col t).elems)
  | .error _ => false

variable {col : σ → Collection α} {body : σ → α → Except ε σ} {s : σ}

/-- The loop gets to every slot with what some removals have left. -/
theorem collectionReached_onlyRemoves
    (hbody : ∀ {s s' x}, body s x = .ok s' → OnlyRemoves (col s) (col s')) {i : Nat} {t : σ}
    (h : collectionReached col body s i = .ok t) : OnlyRemoves (col s) (col t) := by
  refine reached_inv (P := fun t => OnlyRemoves (col s) (col t)) ?_ OnlyRemoves.refl h
  rintro t t' x ⟨xs, hxs⟩ hb
  obtain ⟨ys, hys⟩ := hbody hb
  exact ⟨xs ++ ys, by rw [hys, hxs, List.foldl_append]⟩

/-- At a slot the loop visits what the slot held at the start, if that is
still in the collection. -/
theorem visitAt_collection
    (hbody : ∀ {s s' x}, body s x = .ok s' → OnlyRemoves (col s) (col s'))
    (hnodup : (col s).elems.Nodup) (i : Nat) :
    visitAt (fun s i => (col s).slot i) body s i =
      ((col s).slot i).filter (presentAt col body s i) := by
  cases ht : collectionReached col body s i with
  | error e =>
      have hnot : presentAt col body s i = fun _ => false := by
        funext x
        rw [presentAt, ht]
      rw [visitAt, show reached _ body s i = _ from ht, hnot]
      cases (col s).slot i <;> rfl
  | ok t =>
      have hrem := collectionReached_onlyRemoves hbody ht
      rw [visitAt, show reached _ body s i = _ from ht]
      dsimp only
      cases hi : (col s).slot i with
      | none =>
          rw [Option.filter_none, Option.eq_none_iff_forall_ne_some]
          intro x hx
          cases hi.symm.trans (hrem.slot hx)
      | some x =>
          have hpresent : presentAt col body s i x = decide (x ∈ (col t).elems) := by
            rw [presentAt, ht]
          rw [Option.filter_some, hpresent]
          by_cases hx : x ∈ (col t).elems
          · rw [if_pos (decide_eq_true hx)]
            exact hrem.slot_of_mem hnodup hi hx
          · rw [if_neg (by simpa using hx), Option.eq_none_iff_forall_ne_some]
            intro y hy
            cases hi.symm.trans (hrem.slot hy)
            exact hx (slot_mem hy)

/-- `FOREACH` with a body that only removes: it ends, and visits slot by slot
the elements of the start that are still there when their slot comes. -/
theorem collectionForeach_eq
    (hbody : ∀ {s s' x}, body s x = .ok s' → OnlyRemoves (col s) (col s'))
    (hnodup : (col s).elems.Nodup) {fuel : Nat} (hfuel : (col s).capacity < fuel) :
    collectionForeach col body fuel s =
      some ((List.range (col s).capacity).filterMap fun i =>
          ((col s).slot i).filter (presentAt col body s i),
        collectionReached col body s (col s).capacity) := by
  rw [collectionForeach, forEach_eq (fun h => (hbody h).capacity) hfuel]
  refine congrArg (fun l => some (l, _)) (List.filterMap_congr fun i _ => ?_)
  exact visitAt_collection hbody hnodup i

/-- Reading the bound once, at the start, comes to the same. -/
theorem collectionForeach_slotLoop
    (hbody : ∀ {s s' x}, body s x = .ok s' → OnlyRemoves (col s) (col s')) {fuel : Nat}
    (hfuel : (col s).capacity < fuel) :
    (collectionForeach col body fuel s).map Prod.snd =
      some (slotLoop (fun s i => (col s).slot i) body (List.range (col s).capacity) s) :=
  forEach_slotLoop (fun h => (hbody h).capacity) hfuel

omit [DecidableEq α] in
theorem filterMap_filter_sublist {l : List Nat} {f : Nat → Option α} {p : Nat → α → Bool} :
    (l.filterMap fun i => (f i).filter (p i)).Sublist (l.filterMap f) := by
  induction l with
  | nil => exact List.Sublist.refl _
  | cons i rest ih =>
      rw [List.filterMap_cons, List.filterMap_cons]
      cases f i with
      | none => exact ih
      | some x =>
          by_cases hx : p i x
          · rw [Option.filter_some, if_pos hx]
            exact ih.cons_cons x
          · rw [Option.filter_some, if_neg hx]
            exact ih.cons x

/-- Collections under mutation. After any calls from `collection_init` on, the
elements are those added less those removed, every occupied slot is below the
capacity, the capacity is a positive multiple of eight, and a further removal
of what is not there changes nothing. A `FOREACH` over a collection without
duplicates, with a body that removes what it likes and adds nothing, ends, and
visits in slot order and once each the elements of the start that are still
there when their slot is reached. -/
theorem collection_mutation (changes : List (Change α))
    (hbody : ∀ {s s' x}, body s x = .ok s' → OnlyRemoves (col s) (col s'))
    (hnodup : (col s).elems.Nodup) :
    ((↑(history changes).elems : Multiset α) = contents changes ∧
      (∀ i x, (history changes).slot i = some x → i < (history changes).capacity) ∧
      (8 ∣ (history changes).capacity ∧ 0 < (history changes).capacity) ∧
      ∀ x, x ∉ contents changes → (history changes).remove x = history changes) ∧
    ∃ visited ended,
      (∀ fuel, (col s).capacity < fuel →
        collectionForeach col body fuel s = some (visited, ended)) ∧
      visited = (List.range (col s).capacity).filterMap (fun i =>
        ((col s).slot i).filter (presentAt col body s i)) ∧
      visited.Sublist (col s).elems ∧ visited.Nodup := by
  refine ⟨⟨coe_elems_history changes, fun i x h => slot_lt h, history_capacityOk changes,
    fun x hx => ?_⟩, _, _, fun fuel hfuel => collectionForeach_eq hbody hnodup hfuel, rfl, ?_⟩
  · rw [← coe_elems_history, Multiset.mem_coe] at hx
    exact remove_of_not_mem hx
  · have hsub : ((List.range (col s).capacity).filterMap fun i =>
        ((col s).slot i).filter (presentAt col body s i)).Sublist (col s).elems :=
      filterMap_slot_range (col s) ▸ filterMap_filter_sublist
    exact ⟨hsub, hnodup.sublist hsub⟩

/-- Four elements come, one goes; a loop whose body takes the successor of what
it visits out visits every second one. -/
theorem collection_mutation_successors :
    let changes : List (Change Nat) := [.add 1, .add 2, .remove 5, .add 3, .add 4]
    let body : Collection Nat → Nat → Except Unit (Collection Nat) :=
      fun s x => .ok (s.remove (x + 1))
    (↑(history changes).elems : Multiset Nat) = contents changes ∧
      ∃ ended, collectionForeach id body 9 (history changes) = some ([1, 3], ended) := by
  intro changes body
  have hbody : ∀ {s s' : Collection Nat} {x : Nat}, body s x = .ok s' →
      OnlyRemoves (id s) (id s') := by
    intro s s' x h
    cases h
    exact OnlyRemoves.one
  obtain ⟨⟨hcontents, _⟩, visited, ended, hruns, hvisited, _⟩ :=
    @collection_mutation Nat (Collection Nat) Unit _ id body (history changes) changes hbody
      (by decide)
  have hthese : visited = [1, 3] := by
    rw [hvisited]
    decide
  exact ⟨hcontents, ended, hthese ▸ hruns 9 (by decide)⟩

end Foreach

/-! ## The loop that disposes of the dead -/

section Reap

variable {plat : Platform} {sys : Sys} {fd : Nat} {events : PollEvents}

/-- What `usbmux_remote_process` does with one remote takes it out of the list
or leaves the list alone. -/
theorem reapBody_onlyRemoves {acc acc' : Daemon × Option RemotePtr} {r : RemotePtr}
    (h : reapBody plat sys fd events acc r = .ok acc') :
    Collection.OnlyRemoves acc.1.remoteList acc'.1.remoteList := by
  have hdispose : ∀ {t : Daemon}, usbmuxRemoteDispose plat sys acc.1 r = .ok t →
      Collection.OnlyRemoves acc.1.remoteList t.remoteList := by
    intro t ht
    have hruns : Runs .all acc.1.toCore
        (fun t => ∃ y, Disposed Allow.all.lossOk r y acc.1.toCore t.toCore)
        (usbmuxRemoteDispose plat sys acc.1 r) := usbmuxRemoteDispose_runs fun _ => trivial
    obtain ⟨y, hy⟩ := hruns.of_ok ht
    rw [show t.remoteList = _ from hy.remoteList]
    exact .one
  rw [reapBody, bind_eq_ok] at h
  obtain ⟨x, _, h⟩ := h
  split at h
  · obtain ⟨t, ht, h⟩ := bind_eq_ok.mp h
    cases h
    exact hdispose ht
  · split at h
    · split at h
      · obtain ⟨t, ht, h⟩ := bind_eq_ok.mp h
        cases h
        exact hdispose ht
      · cases h
        exact .refl
    · cases h
      exact .refl

/-- The loop over the remotes at the start of `usbmux_remote_process`, with the
bound read once, is the `FOREACH` that reads it at every turn, and visits the
remotes of the start that are still in the list when their slot comes. -/
theorem reapLoop_visits {s : Daemon} (hnodup : s.remoteList.elems.Nodup) {fuel : Nat}
    (hfuel : s.remoteList.capacity < fuel) :
    let body := reapBody plat sys fd events
    collectionForeach (fun acc => acc.1.remoteList) body fuel (s, none) =
      some ((List.range s.remoteList.capacity).filterMap (fun i =>
          (s.remoteList.slot i).filter (presentAt (fun acc => acc.1.remoteList) body (s, none) i)),
        slotLoop (fun acc i => acc.1.remoteList.slot i) body
          (List.range s.remoteList.capacity) (s, none)) := by
  intro body
  have hruns : (collectionForeach (fun acc => acc.1.remoteList) body fuel (s, none)).map Prod.snd =
      _ := collectionForeach_slotLoop (fun h => reapBody_onlyRemoves h) hfuel
  have heq : collectionForeach (fun acc => acc.1.remoteList) body fuel (s, none) = _ :=
    collectionForeach_eq (fun h => reapBody_onlyRemoves h) hnodup hfuel
  rw [heq] at hruns
  rw [heq, ← Option.some_inj.mp hruns]

end Reap

end Usbfluxd

/-
The unicast operations of the routing table: what each does to the map.

* `EntriesConsistent` — every entry is stored under its own destination and
  its RREQ counter is zero unless it is IN_SEARCH; `step_consistent` says each
  call keeps it and `run_consistent` that every run from a new table does;
* `addRoute_find`, `deleteRoute_find`, `modifyEntry_find`,
  `mem_deleteAllRoutesFromInterface` — the frame of each mutating operation;
* `mem_getListOfDestinationWithNextHop` and `invalidateIfListed_eq` — the two
  halves of breaking a link: collect the destinations reached through a next
  hop, then invalidate the VALID routes to them.
-/
import AodvMultipath.Purge

namespace Aodv

open Ns3

namespace RoutingTable

/-! ### Entries -/

@[simp] theorem resetRreqCnt_destination (rt : RoutingTableEntry) :
    (resetRreqCnt rt).destination = rt.destination := by
  unfold resetRreqCnt; split <;> rfl

@[simp] theorem resetRreqCnt_flag (rt : RoutingTableEntry) :
    (resetRreqCnt rt).flag = rt.flag := by
  unfold resetRreqCnt; split <;> rfl

theorem resetRreqCnt_reqCount {rt : RoutingTableEntry} (h : rt.flag ≠ .inSearch) :
    (resetRreqCnt rt).reqCount = 0 := by
  simp [resetRreqCnt, h]

/-- The inner loop of `InvalidateRoutesWithDst` over any list of pairs. -/
theorem foldl_invalidate (now bl : Time) (k : Ipv4Address) :
    ∀ (l : List (Ipv4Address × Nat)) (e : RoutingTableEntry),
      l.foldl (fun e j => if k = j.1 ∧ e.flag = .valid then e.invalidate now bl else e) e =
        if e.flag = .valid ∧ k ∈ l.map (·.1) then e.invalidate now bl else e
  | [], e => by simp
  | j :: rest, e => by
    rw [List.foldl_cons, foldl_invalidate now bl k rest]
    by_cases hk : k = j.1
    · by_cases hv : e.flag = .valid <;>
        simp [hk, hv, RoutingTableEntry.invalidate_flag, RoutingTableEntry.invalidate_idem]
    · simp only [hk, false_and, if_false, List.map_cons, List.mem_cons, false_or]

/-- An entry is invalidated exactly when it is VALID and its key is listed. -/
theorem invalidateIfListed_eq (now bl : Time) (u : StdMap Ipv4Address Nat) (k : Ipv4Address)
    (e : RoutingTableEntry) :
    invalidateIfListed now bl u k e =
      if e.flag = .valid ∧ k ∈ u.toList.map (·.1) then e.invalidate now bl else e :=
  foldl_invalidate now bl k u.toList e

/-! ### The table each call leaves -/

theorem lookupRoute_snd (now : Time) (id : Ipv4Address) (rt : RoutingTableEntry)
    (t : RoutingTable) : (t.lookupRoute now id rt).2 = t.purge now := rfl

theorem lookupValidRoute_snd (now : Time) (id : Ipv4Address) (rt : RoutingTableEntry)
    (t : RoutingTable) : (t.lookupValidRoute now id rt).2 = t.purge now := by
  simp only [lookupValidRoute]; split <;> rfl

theorem addMultipathRoute_unicast (now : Time) (dst nh : Ipv4Address) (h : Nat) (lt : Time)
    (t : RoutingTable) :
    (t.addMultipathRoute now dst nh h lt).2.ipv4AddressEntry = t.ipv4AddressEntry := by
  unfold addMultipathRoute; split <;> rfl

theorem removeMultipathRoute_unicast (now : Time) (dst nh : Ipv4Address) (t : RoutingTable) :
    (t.removeMultipathRoute now dst nh).2.ipv4AddressEntry = t.ipv4AddressEntry := by
  simp only [removeMultipathRoute]; split
  · rfl
  · split <;> rfl

theorem getBestMultipathRoute_unicast (now : Time) (dst : Ipv4Address) (p : PathInfo)
    (t : RoutingTable) :
    (t.getBestMultipathRoute now dst p).2.ipv4AddressEntry = t.ipv4AddressEntry := by
  unfold getBestMultipathRoute; split <;> rfl

theorem getAllMultipathRoutes_unicast (now : Time) (dst : Ipv4Address) (t : RoutingTable) :
    (t.getAllMultipathRoutes now dst).2.ipv4AddressEntry = t.ipv4AddressEntry := by
  unfold getAllMultipathRoutes; split <;> rfl

theorem hasMultipathRoute_unicast (now : Time) (dst : Ipv4Address) (t : RoutingTable) :
    (t.hasMultipathRoute now dst).2.ipv4AddressEntry = t.ipv4AddressEntry := by
  unfold hasMultipathRoute; split <;> rfl

/-! ### The invariant -/

/-- One entry of a consistent unicast map. -/
def EntryConsistent (k : Ipv4Address) (e : RoutingTableEntry) : Prop :=
  k = e.destination ∧ (e.flag ≠ .inSearch → e.reqCount = 0)

/-- Every entry is keyed by its own destination, and its RREQ counter is zero
unless it is IN_SEARCH. -/
def EntriesConsistent (m : StdMap Ipv4Address RoutingTableEntry) : Prop :=
  ∀ k e, (k, e) ∈ m.toList → EntryConsistent k e

theorem entryConsistent_invalidate {now bl : Time} {k : Ipv4Address} {e : RoutingTableEntry}
    (h : EntryConsistent k e) : EntryConsistent k (e.invalidate now bl) := by
  unfold RoutingTableEntry.invalidate
  split
  · exact h
  · exact ⟨h.1, fun _ => rfl⟩

theorem consistent_sweep {body : Ipv4Address → RoutingTableEntry → Option RoutingTableEntry}
    {m : StdMap Ipv4Address RoutingTableEntry} (hm : EntriesConsistent m)
    (hb : ∀ k e e', body k e = some e' → EntryConsistent k e → EntryConsistent k e') :
    EntriesConsistent (m.sweep body) := fun k e he => by
  obtain ⟨e₀, h₀, hb₀⟩ := StdMap.mem_sweep.1 he
  exact hb k e₀ e hb₀ (hm k e₀ h₀)

theorem consistent_purge {now : Time} {t : RoutingTable}
    (h : EntriesConsistent t.ipv4AddressEntry) :
    EntriesConsistent (t.purge now).ipv4AddressEntry := by
  rw [purge_ipv4AddressEntry, purgeTable_eq_sweep]
  refine consistent_sweep h fun k e e' hb hk => ?_
  rcases purgeEntry_eq_some hb with rfl | ⟨-, rfl⟩
  · exact hk
  · exact entryConsistent_invalidate hk

theorem consistent_modifyEntry {id : Ipv4Address} {f : RoutingTableEntry → RoutingTableEntry}
    {t : RoutingTable} (h : EntriesConsistent t.ipv4AddressEntry)
    (hf : ∀ e, EntryConsistent id e → EntryConsistent id (f e)) :
    EntriesConsistent (t.modifyEntry id f).2.ipv4AddressEntry := by
  unfold modifyEntry
  split
  · exact h
  · refine consistent_sweep h fun k e e' hb hk => ?_
    cases hb
    split
    · subst_vars; exact hf e hk
    · exact hk

/-- Each call keeps the unicast map consistent. -/
theorem step_consistent (now : Time) (c : Call) {t : RoutingTable}
    (h : EntriesConsistent t.ipv4AddressEntry) :
    EntriesConsistent (step now c t).ipv4AddressEntry := by
  have hp : EntriesConsistent (t.purge now).ipv4AddressEntry := consistent_purge h
  cases c with
  | addRoute rt =>
    intro k e he
    rcases StdMap.mem_insert.1 he with ⟨-, rfl, rfl⟩ | he
    · exact ⟨rfl, fun hs =>
        resetRreqCnt_reqCount (by rwa [resetRreqCnt_flag] at hs)⟩
    · exact hp k e he
  | update rt =>
    exact consistent_modifyEntry h fun e he => ⟨(resetRreqCnt_destination rt).symm, fun hs =>
      resetRreqCnt_reqCount (by rwa [resetRreqCnt_flag] at hs)⟩
  | deleteRoute dst =>
    refine consistent_sweep hp fun k e e' hb hk => ?_
    split at hb
    · cases hb
    · cases hb; exact hk
  | setEntryState id state => exact consistent_modifyEntry h fun e he => ⟨he.1, fun _ => rfl⟩
  | markLinkAsUnidirectional neighbor timeout =>
    exact consistent_modifyEntry h fun e he => ⟨he.1, fun _ => rfl⟩
  | lookupRoute id rt => exact hp
  | lookupValidRoute id rt => simpa only [step, lookupValidRoute_snd] using hp
  | getListOfDestinationWithNextHop nextHop => exact hp
  | invalidateRoutesWithDst u =>
    refine consistent_sweep hp fun k e e' hb hk => ?_
    cases hb
    rw [invalidateIfListed_eq]
    split
    · exact entryConsistent_invalidate hk
    · exact hk
  | deleteAllRoutesFromInterface iface =>
    simp only [step, deleteAllRoutesFromInterface]
    split
    · exact h
    · refine consistent_sweep h fun k e e' hb hk => ?_
      split at hb
      · cases hb
      · cases hb; exact hk
  | purge => exact hp
  | addMultipathRoute dst nextHop hopCount lifetime =>
    simpa only [step, addMultipathRoute_unicast] using h
  | removeMultipathRoute dst nextHop => simpa only [step, removeMultipathRoute_unicast] using h
  | getBestMultipathRoute dst pathInfo => simpa only [step, getBestMultipathRoute_unicast] using h
  | getAllMultipathRoutes dst => simpa only [step, getAllMultipathRoutes_unicast] using h
  | hasMultipathRoute dst => simpa only [step, hasMultipathRoute_unicast] using h
  | purgeMultipathRoutes => exact h

theorem run_consistent {t : RoutingTable} (h : EntriesConsistent t.ipv4AddressEntry) :
    ∀ calls : List (Time × Call), EntriesConsistent (run calls t).ipv4AddressEntry
  | [] => h
  | c :: rest => run_consistent (step_consistent c.1 c.2 h) rest

/-- **Consistency of the unicast map.**  Along every sequence of calls from a
new table, every entry is stored under its own destination and has a zero RREQ
counter unless it is IN_SEARCH. -/
theorem unicast_entries_consistent (badLinkLifetime : Time) (calls : List (Time × Call)) :
    ∀ k e, (k, e) ∈ (run calls (mk' badLinkLifetime)).ipv4AddressEntry.toList →
      k = e.destination ∧ (e.flag ≠ .inSearch → e.reqCount = 0) :=
  run_consistent (fun _ _ he => by simp [mk'] at he) calls

theorem unicast_entries_consistent_added_route :
    (5, RoutingTableEntry.mk' default 5 true 1 ⟨1, 0, 0, 0, false⟩ 1 5 (Time.seconds 10)) ∈
        (run [(default, .addRoute (RoutingTableEntry.mk' default 5 true 1 ⟨1, 0, 0, 0, false⟩ 1 5
          (Time.seconds 10)))] (mk' (Time.seconds 3))).ipv4AddressEntry.toList ∧
      5 = (RoutingTableEntry.mk' default 5 true 1 ⟨1, 0, 0, 0, false⟩ 1 5 (Time.seconds 10)).destination ∧
      ((RoutingTableEntry.mk' default 5 true 1 ⟨1, 0, 0, 0, false⟩ 1 5 (Time.seconds 10)).flag ≠
          .inSearch →
        (RoutingTableEntry.mk' default 5 true 1 ⟨1, 0, 0, 0, false⟩ 1 5 (Time.seconds 10)).reqCount = 0) := by
  have h := unicast_entries_consistent (Time.seconds 3)
    [(default, .addRoute (RoutingTableEntry.mk' default 5 true 1 ⟨1, 0, 0, 0, false⟩ 1 5
      (Time.seconds 10)))]
  refine ⟨?_, h _ _ ?_⟩ <;> decide

/-! ### Frames of the mutating operations -/

theorem addRoute_fst (now : Time) (rt : RoutingTableEntry) (t : RoutingTable) :
    (t.addRoute now rt).1 =
      (((t.purge now).ipv4AddressEntry.find rt.destination).isNone, resetRreqCnt rt) := by
  simp [addRoute, StdMap.insert_snd]

theorem addRoute_find (now : Time) (rt : RoutingTableEntry) (t : RoutingTable) (k : Ipv4Address) :
    (t.addRoute now rt).2.ipv4AddressEntry.find k =
      if k = rt.destination ∧ ((t.purge now).ipv4AddressEntry.find rt.destination).isNone then
        some (resetRreqCnt rt)
      else (t.purge now).ipv4AddressEntry.find k := by
  simp [addRoute, StdMap.find_insert]

theorem addRoute_of_present {now : Time} {rt : RoutingTableEntry} {t : RoutingTable}
    (h : ((t.purge now).ipv4AddressEntry.find rt.destination).isNone = false) :
    (t.addRoute now rt).2 = t.purge now := by
  simp only [addRoute, StdMap.insert, resetRreqCnt_destination, h, Bool.false_eq_true,
    dite_false]

theorem deleteRoute_fst (now : Time) (dst : Ipv4Address) (t : RoutingTable) :
    (t.deleteRoute now dst).1 = ((t.purge now).ipv4AddressEntry.find dst).isSome := by
  cases h : (t.purge now).ipv4AddressEntry.find dst <;> simp [deleteRoute, h]

theorem deleteRoute_find (now : Time) (dst : Ipv4Address) (t : RoutingTable) (k : Ipv4Address) :
    (t.deleteRoute now dst).2.ipv4AddressEntry.find k =
      if k = dst then none else (t.purge now).ipv4AddressEntry.find k :=
  StdMap.find_erase _ _ _

/-- What `Update`, `SetEntryState` and `MarkLinkAsUnidirectional` promise for
key `d`: success exactly when `d` has an entry, nothing changed on failure, and
on success nothing changed but the entry for `d`. -/
def ChangesOnlyEntry (d : Ipv4Address) (t : RoutingTable) (r : Bool × RoutingTable) : Prop :=
  (r.1 = true ↔ t.ipv4AddressEntry.find d ≠ none) ∧ (r.1 = false → r.2 = t) ∧
    r.2.badLinkLifetime = t.badLinkLifetime ∧ r.2.multipathTable = t.multipathTable ∧
    ∀ k, k ≠ d → r.2.ipv4AddressEntry.find k = t.ipv4AddressEntry.find k

theorem modifyEntry_find (id : Ipv4Address) (f : RoutingTableEntry → RoutingTableEntry)
    (t : RoutingTable) (k : Ipv4Address) :
    (t.modifyEntry id f).2.ipv4AddressEntry.find k =
      if k = id then (t.ipv4AddressEntry.find id).map f else t.ipv4AddressEntry.find k := by
  unfold modifyEntry
  split
  · rename_i h; split <;> simp_all
  · exact StdMap.find_modify _ _ _ _

theorem modifyEntry_changesOnlyEntry (id : Ipv4Address) (f : RoutingTableEntry → RoutingTableEntry)
    (t : RoutingTable) : ChangesOnlyEntry id t (t.modifyEntry id f) := by
  refine ⟨?_, ?_, ?_, ?_, fun k hk => by rw [modifyEntry_find, if_neg hk]⟩ <;>
    unfold modifyEntry <;> split <;> simp_all

theorem mem_deleteAllRoutesFromInterface {iface : Ipv4InterfaceAddress} {t : RoutingTable}
    {k : Ipv4Address} {e : RoutingTableEntry} :
    (k, e) ∈ (t.deleteAllRoutesFromInterface iface).ipv4AddressEntry.toList ↔
      (k, e) ∈ t.ipv4AddressEntry.toList ∧ e.iface ≠ iface := by
  unfold deleteAllRoutesFromInterface
  split
  · rename_i h
    simp [StdMap.isEmpty_iff.1 h]
  · simp only [StdMap.mem_sweep]
    constructor
    · rintro ⟨e₀, h₀, hb⟩
      split at hb
      · cases hb
      · cases hb; exact ⟨h₀, ‹_›⟩
    · rintro ⟨h₀, hi⟩
      exact ⟨e, h₀, if_neg hi⟩

theorem deleteAllRoutesFromInterface_frame (iface : Ipv4InterfaceAddress) (t : RoutingTable) :
    (t.deleteAllRoutesFromInterface iface).badLinkLifetime = t.badLinkLifetime ∧
      (t.deleteAllRoutesFromInterface iface).multipathTable = t.multipathTable := by
  unfold deleteAllRoutesFromInterface; split <;> exact ⟨rfl, rfl⟩

/-- **Frames of the mutating unicast operations.**  `AddRoute` and
`DeleteRoute` act on the purged table: `AddRoute(rt)` succeeds exactly when its
destination `d` is absent after the purge and then adds `rt` at `d` (its RREQ
counter reset unless IN_SEARCH), and `DeleteRoute(d)` removes `d` and reports
whether it was there.  `Update`, `SetEntryState` and `MarkLinkAsUnidirectional`
change only the entry for their key, and only when it exists.
`DeleteAllRoutesFromInterface` removes exactly the entries on the interface. -/
theorem unicast_operations_frame (now : Time) (t : RoutingTable) (d : Ipv4Address) :
    let P := t.purge now
    (∀ rt : RoutingTableEntry, rt.destination = d →
      ((t.addRoute now rt).1.1 = true ↔ P.ipv4AddressEntry.find d = none) ∧
      (t.addRoute now rt).1.2 = resetRreqCnt rt ∧
      (∀ k, (t.addRoute now rt).2.ipv4AddressEntry.find k =
        if k = d ∧ (t.addRoute now rt).1.1 = true then some (resetRreqCnt rt)
        else P.ipv4AddressEntry.find k) ∧
      (t.addRoute now rt).2.badLinkLifetime = P.badLinkLifetime ∧
      (t.addRoute now rt).2.multipathTable = P.multipathTable ∧
      ((t.addRoute now rt).1.1 = false → (t.addRoute now rt).2 = P)) ∧
    ((t.deleteRoute now d).1 = true ↔ P.ipv4AddressEntry.find d ≠ none) ∧
    (∀ k, (t.deleteRoute now d).2.ipv4AddressEntry.find k =
      if k = d then none else P.ipv4AddressEntry.find k) ∧
    (t.deleteRoute now d).2.badLinkLifetime = P.badLinkLifetime ∧
    (t.deleteRoute now d).2.multipathTable = P.multipathTable ∧
    (∀ rt : RoutingTableEntry, rt.destination = d → ChangesOnlyEntry d t (t.update rt)) ∧
    (∀ state, ChangesOnlyEntry d t (t.setEntryState d state)) ∧
    (∀ τ, ChangesOnlyEntry d t (t.markLinkAsUnidirectional d τ)) ∧
    (∀ iface k e, (k, e) ∈ (t.deleteAllRoutesFromInterface iface).ipv4AddressEntry.toList ↔
      (k, e) ∈ t.ipv4AddressEntry.toList ∧ e.iface ≠ iface) ∧
    (∀ iface, (t.deleteAllRoutesFromInterface iface).badLinkLifetime = t.badLinkLifetime ∧
      (t.deleteAllRoutesFromInterface iface).multipathTable = t.multipathTable) := by
  intro P
  refine ⟨fun rt hd => ?_, ?_, fun k => deleteRoute_find now d t k, rfl, rfl,
    fun rt hd => hd ▸ modifyEntry_changesOnlyEntry _ _ t,
    fun _ => modifyEntry_changesOnlyEntry _ _ t, fun _ => modifyEntry_changesOnlyEntry _ _ t,
    fun _ _ _ => mem_deleteAllRoutesFromInterface, fun iface => deleteAllRoutesFromInterface_frame iface t⟩
  · subst hd
    refine ⟨by simp [addRoute_fst], by simp [addRoute_fst], fun k => ?_, rfl, rfl,
      fun h => addRoute_of_present (by simpa [addRoute_fst] using h)⟩
    rw [addRoute_find, addRoute_fst]
  · rw [deleteRoute_fst]; simp [Option.isSome_iff_ne_none]

/-! ### Breaking a link -/

/-- The loop of `GetListOfDestinationWithNextHop` over entries with distinct
keys, none of them in the map it fills yet. -/
theorem mem_foldl_unreachable (nh : Ipv4Address) :
    ∀ (l : List (Ipv4Address × RoutingTableEntry)) (acc : StdMap Ipv4Address Nat),
      (l.map (·.1)).Nodup → (∀ k ∈ l.map (·.1), acc.find k = none) → ∀ k s,
      (k, s) ∈ (l.foldl (fun u i =>
          if i.2.nextHop = nh then (u.insert i.1 i.2.seqNo).1 else u) acc).toList ↔
        (k, s) ∈ acc.toList ∨ ∃ e, (k, e) ∈ l ∧ e.nextHop = nh ∧ e.seqNo = s
  | [], acc, _, _, k, s => by simp
  | i :: rest, acc, hnd, hfree, k, s => by
    rw [List.foldl_cons]
    simp only [List.map_cons, List.nodup_cons] at hnd
    have hi : acc.find i.1 = none := hfree _ (List.mem_cons_self _ _)
    have hacc : ∀ k s, (k, s) ∈ (if i.2.nextHop = nh then (acc.insert i.1 i.2.seqNo).1
        else acc).toList ↔ (k, s) ∈ acc.toList ∨ (i.2.nextHop = nh ∧ k = i.1 ∧ s = i.2.seqNo) := by
      intro k s
      by_cases hn : i.2.nextHop = nh
      · rw [if_pos hn, StdMap.mem_insert]
        simp only [hi, hn, true_and]
        exact or_comm
      · rw [if_neg hn]
        simp only [hn, false_and, or_false]
    have hfree' : ∀ k ∈ rest.map (·.1), (if i.2.nextHop = nh then (acc.insert i.1 i.2.seqNo).1
        else acc).find k = none := by
      intro k hk
      have hne : k ≠ i.1 := fun h => hnd.1 (h ▸ hk)
      have := hfree k (List.mem_cons_of_mem _ hk)
      split
      · rw [StdMap.find_insert]; simp [hne, this]
      · exact this
    rw [mem_foldl_unreachable nh rest _ hnd.2 hfree', hacc]
    constructor
    · rintro ((h | ⟨h1, rfl, rfl⟩) | ⟨e, he, h1, h2⟩)
      · exact Or.inl h
      · exact Or.inr ⟨i.2, List.mem_cons_self _ _, h1, rfl⟩
      · exact Or.inr ⟨e, List.mem_cons_of_mem _ he, h1, h2⟩
    · rintro (h | ⟨e, he, h1, h2⟩)
      · exact Or.inl (Or.inl h)
      · rcases List.mem_cons.1 he with he | he
        · subst he; exact Or.inl (Or.inr ⟨h1, rfl, h2.symm⟩)
        · exact Or.inr ⟨e, he, h1, h2⟩

/-- `GetListOfDestinationWithNextHop(nh, u)` fills `u` with the destinations
of the purged map reached through `nh`, each with its sequence number. -/
theorem mem_getListOfDestinationWithNextHop (now : Time) (nh : Ipv4Address) (t : RoutingTable)
    (k : Ipv4Address) (s : Nat) :
    (k, s) ∈ (t.getListOfDestinationWithNextHop now nh).1.toList ↔
      ∃ e, (k, e) ∈ (t.purge now).ipv4AddressEntry.toList ∧ e.nextHop = nh ∧ e.seqNo = s := by
  rw [getListOfDestinationWithNextHop, mem_foldl_unreachable nh _ _ (StdMap.keys_nodup _)
    (fun _ _ => by simp [StdMap.find])]
  simp

/-- What breaking the link to `nh` at `now` does to `t`: the map `u` that
`GetListOfDestinationWithNextHop` fills holds the purged destinations reached
through `nh` with their sequence numbers, and `InvalidateRoutesWithDst(u)`
invalidates exactly the VALID routes through `nh` — INVALID, RREQ counter 0,
`badLinkLifetime` left to live — leaving every other entry as `Purge()` left it. -/
def LinkBreakOutcome (now : Time) (t : RoutingTable) (nh : Ipv4Address) : Prop :=
  let P := t.purge now
  let u := (t.getListOfDestinationWithNextHop now nh).1
  let T := (t.getListOfDestinationWithNextHop now nh).2.invalidateRoutesWithDst now u
  (∀ k s, (k, s) ∈ u.toList ↔
    ∃ e, (k, e) ∈ P.ipv4AddressEntry.toList ∧ e.nextHop = nh ∧ e.seqNo = s) ∧
  (∀ k e, (k, e) ∈ T.ipv4AddressEntry.toList ↔ ∃ e₀, (k, e₀) ∈ P.ipv4AddressEntry.toList ∧
    e = if e₀.flag = .valid ∧ e₀.nextHop = nh then
      { e₀ with flag := .invalid, reqCount := 0, lifeTime := t.badLinkLifetime + now }
    else e₀) ∧
  (∀ k e₀, (k, e₀) ∈ P.ipv4AddressEntry.toList → e₀.flag = .valid → e₀.nextHop = nh →
    ∃ e, (k, e) ∈ T.ipv4AddressEntry.toList ∧ e.flag = .invalid ∧ e.reqCount = 0 ∧
      e.getLifeTime now = t.badLinkLifetime) ∧
  (∀ k e, (k, e) ∈ T.ipv4AddressEntry.toList → e.nextHop = nh → e.flag ≠ .valid) ∧
  T.badLinkLifetime = P.badLinkLifetime ∧ T.multipathTable = P.multipathTable

/-- **Breaking a link.**  With `badLinkLifetime ≥ 0`, collecting the
destinations reached through `nh` and then invalidating them at the same time
has the `LinkBreakOutcome`; the second purge, inside `InvalidateRoutesWithDst`,
changes nothing. -/
theorem break_link_invalidates (now : Time) (t : RoutingTable) (nh : Ipv4Address)
    (hbl : 0 ≤ t.badLinkLifetime.val) : LinkBreakOutcome now t nh := by
  unfold LinkBreakOutcome
  intro P u T
  have hu := mem_getListOfDestinationWithNextHop now nh t
  have hkey : ∀ k e₀, (k, e₀) ∈ P.ipv4AddressEntry.toList →
      (k ∈ u.toList.map (·.1) ↔ e₀.nextHop = nh) := by
    intro k e₀ h₀
    simp only [List.mem_map, Prod.exists, exists_and_right, exists_eq_right]
    constructor
    · rintro ⟨s, hs⟩
      obtain ⟨e', he', hnh, -⟩ := (hu k s).1 hs
      rwa [StdMap.eq_of_mem_of_mem h₀ he']
    · intro hnh; exact ⟨e₀.seqNo, (hu k _).2 ⟨e₀, h₀, hnh, rfl⟩⟩
  have hmem : ∀ k e, (k, e) ∈ T.ipv4AddressEntry.toList ↔ ∃ e₀,
      (k, e₀) ∈ P.ipv4AddressEntry.toList ∧
        e = if e₀.flag = .valid ∧ e₀.nextHop = nh then e₀.invalidate now t.badLinkLifetime
          else e₀ := by
    intro k e
    simp only [T, invalidateRoutesWithDst, getListOfDestinationWithNextHop,
      purge_purge now t hbl, purge_badLinkLifetime, StdMap.mem_sweep, Option.some.injEq,
      invalidateIfListed_eq]
    constructor <;> rintro ⟨e₀, h₀, rfl⟩ <;> exact ⟨e₀, h₀, by simp only [hkey k e₀ h₀]⟩
  have hinv : ∀ e₀ : RoutingTableEntry, e₀.flag = .valid →
      e₀.invalidate now t.badLinkLifetime =
        { e₀ with flag := .invalid, reqCount := 0, lifeTime := t.badLinkLifetime + now } :=
    fun e₀ hv => RoutingTableEntry.invalidate_of_ne (by simp [hv])
  have hframe : T.badLinkLifetime = P.badLinkLifetime ∧ T.multipathTable = P.multipathTable := by
    simp [T, P, invalidateRoutesWithDst, getListOfDestinationWithNextHop, purge_purge now t hbl]
  refine ⟨hu, fun k e => ?_, fun k e₀ h₀ hv hnh => ?_, fun k e he hnh => ?_, hframe⟩
  · rw [hmem]
    refine exists_congr fun e₀ => and_congr_right fun _ => ?_
    by_cases hc : e₀.flag = .valid ∧ e₀.nextHop = nh
    · rw [if_pos hc, if_pos hc, hinv e₀ hc.1]
    · rw [if_neg hc, if_neg hc]
  · refine ⟨_, (hmem k _).2 ⟨e₀, h₀, rfl⟩, ?_⟩
    rw [if_pos ⟨hv, hnh⟩]
    exact ⟨RoutingTableEntry.invalidate_flag _ _ _, by rw [hinv e₀ hv],
      RoutingTableEntry.getLifeTime_invalidate (by simp [hv])⟩
  · obtain ⟨e₀, h₀, rfl⟩ := (hmem k e).1 he
    by_cases hc : e₀.flag = .valid ∧ e₀.nextHop = nh
    · rw [if_pos hc, RoutingTableEntry.invalidate_flag]
      exact nofun
    · rw [if_neg hc] at hnh ⊢
      exact fun hv => hc ⟨hv, hnh⟩

theorem break_link_invalidates_route_via_next_hop :
    let t : RoutingTable :=
      ((((mk' (Time.seconds 3)).addRoute default
          (RoutingTableEntry.mk' default 5 true 1 ⟨1, 0, 0, 0, false⟩ 1 7 (Time.seconds 10))).2).addRoute
        default (RoutingTableEntry.mk' default 6 true 2 ⟨1, 0, 0, 0, false⟩ 1 9 (Time.seconds 10))).2
    0 ≤ t.badLinkLifetime.val ∧ LinkBreakOutcome (Time.seconds 1) t 7 :=
  ⟨by decide, break_link_invalidates _ _ _ (by decide)⟩

end RoutingTable

end Aodv

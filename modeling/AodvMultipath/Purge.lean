/-
What `Purge()` does, and that doing it twice at one instant is doing it once.

* `purge_ipv4AddressEntry` — `Purge()` leaves the unicast map that the const
  overload `Purge(table)` computes from it;
* `purgeEntry_eq_some` — an entry the loop keeps is the old one or its
  `Invalidate`, and only a VALID entry is invalidated;
* `purgeMultipathEntry_eq` — a multipath entry keeps its live paths, scored,
  and goes when it has none;
* `purge_purge` — with `badLinkLifetime ≥ 0` a second `Purge()` at the same
  time changes nothing.  An entry the first pass invalidates has exactly
  `badLinkLifetime` left (`getLifeTime_invalidate`), so the second pass keeps
  it; rescoring a scored path gives the same path;
* **`purge_entrywise`** — what `Purge()` leaves under each destination: the
  unicast entry purged, and, only when the unicast map is non-empty, the
  multipath entry with its live paths scored; on an empty unicast map it
  returns before the multipath loop, so expired multipath routes stay
  (`purge_skips_multipath_routes`).
-/
import AodvMultipath.RoutingTable

namespace Aodv

open Ns3

namespace RoutingTable

/-! ### The unicast loop -/

theorem purgeTable_eq_sweep (now bl : Time) (m : StdMap Ipv4Address RoutingTableEntry) :
    purgeTable now bl m = m.sweep fun _ e => purgeEntry now bl e := by
  unfold purgeTable
  split
  · rename_i h; exact (StdMap.sweep_of_isEmpty h).symm
  · rfl

theorem purge_ipv4AddressEntry (now : Time) (t : RoutingTable) :
    (t.purge now).ipv4AddressEntry = purgeTable now t.badLinkLifetime t.ipv4AddressEntry := by
  unfold purge purgeTable; split <;> rfl

@[simp] theorem purge_badLinkLifetime (now : Time) (t : RoutingTable) :
    (t.purge now).badLinkLifetime = t.badLinkLifetime := by
  unfold purge; split <;> rfl

theorem purge_of_isEmpty {now : Time} {t : RoutingTable} (h : t.ipv4AddressEntry.isEmpty) :
    t.purge now = t := if_pos h

theorem purge_of_not_isEmpty {now : Time} {t : RoutingTable}
    (h : ¬ t.ipv4AddressEntry.isEmpty) :
    t.purge now = ⟨t.ipv4AddressEntry.sweep fun _ e => purgeEntry now t.badLinkLifetime e,
      t.badLinkLifetime, t.multipathTable.sweep fun _ e => purgeMultipathEntry now e⟩ := if_neg h

theorem purge_multipathTable (now : Time) (t : RoutingTable) :
    (t.purge now).multipathTable =
      if t.ipv4AddressEntry.isEmpty then t.multipathTable
      else t.multipathTable.sweep fun _ e => purgeMultipathEntry now e := by
  unfold purge; split <;> rfl

/-- What the `Purge` loop does to one entry it keeps. -/
theorem purgeEntry_eq_some {now bl : Time} {e e' : RoutingTableEntry}
    (h : purgeEntry now bl e = some e') :
    e' = e ∨ (e.flag = .valid ∧ e' = e.invalidate now bl) := by
  unfold purgeEntry at h
  split at h
  · split at h <;> simp_all
  · exact Or.inl (Option.some_injective _ h).symm

theorem purgeEntry_idem {now bl : Time} (hbl : 0 ≤ bl.val) {e e' : RoutingTableEntry}
    (h : purgeEntry now bl e = some e') : purgeEntry now bl e' = some e' := by
  rcases purgeEntry_eq_some h with rfl | ⟨hv, rfl⟩
  · exact h
  · have hlt : (e.invalidate now bl).getLifeTime now = bl :=
      RoutingTableEntry.getLifeTime_invalidate (by simp [hv])
    simp [purgeEntry, hlt, not_lt.2 hbl]

/-! ### The multipath loop -/

theorem purgeMultipathEntry_eq (now : Time) (e : MultipathRouteEntry) :
    purgeMultipathEntry now e =
      if (MultipathRouteEntry.removeExpired now e.paths).isEmpty then none
      else some { e with
        paths := (MultipathRouteEntry.removeExpired now e.paths).map MultipathRouteEntry.scorePath } := by
  simp only [purgeMultipathEntry, MultipathRouteEntry.getBestPath_snd,
    MultipathRouteEntry.hasValidPath, MultipathRouteEntry.removeExpired_map_scorePath,
    MultipathRouteEntry.removeExpired_removeExpired]
  cases MultipathRouteEntry.removeExpired now e.paths <;> rfl

theorem purgeMultipathEntry_idem {now : Time} {e e' : MultipathRouteEntry}
    (h : purgeMultipathEntry now e = some e') : purgeMultipathEntry now e' = some e' := by
  rw [purgeMultipathEntry_eq] at h ⊢
  split at h
  · cases h
  · cases h
    simp_all [MultipathRouteEntry.removeExpired_map_scorePath,
      MultipathRouteEntry.removeExpired_removeExpired, Function.comp_def]

/-- With `badLinkLifetime ≥ 0`, a second `Purge()` at the same time changes nothing. -/
theorem purge_purge (now : Time) (t : RoutingTable) (hbl : 0 ≤ t.badLinkLifetime.val) :
    (t.purge now).purge now = t.purge now := by
  by_cases h₀ : t.ipv4AddressEntry.isEmpty
  · rw [purge_of_isEmpty h₀, purge_of_isEmpty h₀]
  by_cases h₁ : (t.purge now).ipv4AddressEntry.isEmpty
  · exact purge_of_isEmpty h₁
  rw [purge_of_not_isEmpty h₁]
  rw [purge_of_not_isEmpty h₀] at h₁ ⊢
  simp only [RoutingTable.mk.injEq, true_and]
  exact ⟨StdMap.sweep_sweep _ fun _ _ _ => purgeEntry_idem hbl,
    StdMap.sweep_sweep _ fun _ _ _ => purgeMultipathEntry_idem⟩

/-! ### `Purge()` entry by entry -/

/-- **`Purge()` entry by entry.**  The unicast map becomes the entry-wise
image of the old one under the loop body, which is also the map the const
overload `Purge(table)` computes from a copy (as `Print` does).  When that map
holds an entry, the multipath map becomes the image under the body of
`PurgeMultipathRoutes`: each entry keeps its live paths in order, scored, and
goes when it has none.  When it holds none, `Purge()` returns at once and
changes nothing. -/
theorem purge_entrywise (now : Time) (t : RoutingTable) :
    (t.purge now).ipv4AddressEntry = purgeTable now t.badLinkLifetime t.ipv4AddressEntry ∧
    (∀ k, (t.purge now).ipv4AddressEntry.find k =
      (t.ipv4AddressEntry.find k).bind (purgeEntry now t.badLinkLifetime)) ∧
    (t.ipv4AddressEntry.isEmpty = false → ∀ k, (t.purge now).multipathTable.find k =
      (t.multipathTable.find k).bind fun e =>
        if MultipathRouteEntry.removeExpired now e.paths = [] then none
        else some { e with
          paths := (MultipathRouteEntry.removeExpired now e.paths).map
            MultipathRouteEntry.scorePath }) ∧
    (t.ipv4AddressEntry.isEmpty = true → t.purge now = t) := by
  refine ⟨purge_ipv4AddressEntry now t, fun k => ?_, fun h k => ?_, purge_of_isEmpty⟩
  · rw [purge_ipv4AddressEntry, purgeTable_eq_sweep, StdMap.find_sweep]
  · rw [purge_multipathTable, if_neg (by simp [h]), StdMap.find_sweep]
    congr 1
    funext e
    rw [purgeMultipathEntry_eq]
    simp only [List.isEmpty_iff]

/-- `Purge()` returns before `PurgeMultipathRoutes()` when the unicast map is
empty: a multipath entry whose only path has expired stays in the table. -/
theorem purge_skips_multipath_routes :
    let t : RoutingTable := ⟨StdMap.empty, Time.seconds 3,
      StdMap.empty.assign 1 ((MultipathRouteEntry.mk' 1).addPath default 2 1 (Time.seconds 1))⟩
    (t.purge (Time.seconds 2)).multipathTable = t.multipathTable ∧
      ((t.multipathTable.find 1).map fun e =>
        (e.paths.length, MultipathRouteEntry.removeExpired (Time.seconds 2) e.paths)) =
        some (1, []) :=
  ⟨congrArg RoutingTable.multipathTable (purge_of_isEmpty rfl), by decide⟩

end RoutingTable

end Aodv

/-
What `RemoveMultipathRoute` and `AddMultipathRoute` do to the entry of the
destination they name, and what the queries then answer.

* **`removeMultipathRoute_spec`** — `RemoveMultipathRoute(d, nh)` reports
  whether `d` had an entry, not whether a path went: the entry keeps its live
  paths not through `nh` and is erased when none remains, and nothing else
  changes; so it also returns true for a next hop `d` never had
  (`removeMultipathRoute_absent_next_hop`);
* **`addMultipathRoute_found`** — when `now + lifetime` fits in `int64_t`, a
  route just added is live at `now`: `HasMultipathRoute` holds, and
  `GetBestMultipathRoute` finds a route when every path stored for the
  destination is valid (as on every table the routing layer builds);
* `addMultipathRoute_expiry_wraps` — the largest lifetime at any positive
  time wraps the expiry below `now`, and the route is dead at once.
-/
import AodvMultipath.QueryStability

namespace Aodv

open Ns3

namespace RoutingTable

open MultipathRouteEntry (removeExpired mem_removeExpired nextHops)

/-! ### `RemoveMultipathRoute` -/

/-- **What `RemoveMultipathRoute(d, nh)` does.**  It returns whether `d` had
an entry; that entry keeps its unexpired paths not through `nh` and is erased
when none remains; the other entries and the unicast map are unchanged. -/
theorem removeMultipathRoute_spec (now : Time) (d nh : Ipv4Address) (t : RoutingTable) :
    (t.removeMultipathRoute now d nh).1 = (t.multipathTable.find d).isSome ∧
    (t.removeMultipathRoute now d nh).2.multipathTable.find d =
      (t.multipathTable.find d).bind (fun e =>
        if removeExpired now (e.removePath nh).paths = [] then none
        else some { e with paths := removeExpired now (e.removePath nh).paths }) ∧
    (∀ k, k ≠ d →
      (t.removeMultipathRoute now d nh).2.multipathTable.find k = t.multipathTable.find k) ∧
    (t.removeMultipathRoute now d nh).2.ipv4AddressEntry = t.ipv4AddressEntry := by
  unfold removeMultipathRoute
  cases hf : t.multipathTable.find d with
  | none => exact ⟨rfl, hf, fun _ _ => rfl, rfl⟩
  | some e =>
    by_cases hv : removeExpired now (e.removePath nh).paths = []
    · have hr : ((e.removePath nh).hasValidPath now).1 = false := by
        simp [MultipathRouteEntry.hasValidPath, hv]
      simp only [hr, Bool.not_false, if_true]
      exact ⟨rfl, by simp [StdMap.find_erase, hv], fun k hk => by simp [StdMap.find_erase, hk],
        trivial⟩
    · have hr : ((e.removePath nh).hasValidPath now).1 = true := by
        simp [MultipathRouteEntry.hasValidPath, hv]
      simp only [hr, Bool.not_true, Bool.false_eq_true, if_false]
      exact ⟨rfl, by simp [StdMap.find_modify, hf, hv, MultipathRouteEntry.hasValidPath],
        fun k hk => by simp [StdMap.find_modify, hk], trivial⟩

/-- `RemoveMultipathRoute(d, nh)` returns true for a next hop that `d` does
not have: one route to 0.0.0.1 via 0.0.0.2, and removing the path via 0.0.0.3
reports a removal. -/
theorem removeMultipathRoute_absent_next_hop :
    let t : RoutingTable :=
      ((mk' (Time.seconds 3)).addMultipathRoute default 1 2 1 (Time.seconds 10)).2
    (t.multipathTable.find 1).map (fun e => nextHops e.paths) = some [2] ∧
      (t.removeMultipathRoute (Time.seconds 1) 1 3).1 = true := by
  decide

/-! ### `AddMultipathRoute` and the queries -/

theorem find_addMultipathRoute (now : Time) (d nh : Ipv4Address) (h : Nat) (l : Time)
    (t : RoutingTable) :
    (t.addMultipathRoute now d nh h l).2.multipathTable.find d =
      some (((t.multipathTable.find d).getD (MultipathRouteEntry.mk' d)).addPath now nh h l) := by
  unfold addMultipathRoute
  cases hf : t.multipathTable.find d <;> simp [StdMap.find_assign, StdMap.find_modify, hf]

/-- **A route just added is live.**  When `now + lifetime` does not wrap,
`AddMultipathRoute(d, nh, h, lifetime)` at `now` leaves `d` a path alive at
`now`: `HasMultipathRoute(d)` holds, and when every path stored for `d` is
valid `GetBestMultipathRoute(d)` finds a route. -/
theorem addMultipathRoute_found (now : Time) (d nh : Ipv4Address) (h : Nat) (l : Time)
    (t : RoutingTable) (hl : 0 < l.val) (hfit : now.val + l.val < 2 ^ 63) :
    ((t.addMultipathRoute now d nh h l).2.hasMultipathRoute now d).1 = true ∧
      ((∀ e, t.multipathTable.find d = some e → ∀ p ∈ e.paths, p.isValid = true) →
        ∀ pathInfo : PathInfo,
          ((t.addMultipathRoute now d nh h l).2.getBestMultipathRoute now d pathInfo).1.1 = true) := by
  obtain ⟨⟨p, hp, hpx⟩, hold⟩ := MultipathRouteEntry.addPath_live now nh h l
    ((t.multipathTable.find d).getD (MultipathRouteEntry.mk' d))
  have hsum : (now + l).val = now.val + l.val := Time.add_val_of_inRange
    ⟨by have := now.lo; omega, hfit⟩
  have hlive : p ∈ removeExpired now (((t.multipathTable.find d).getD
      (MultipathRouteEntry.mk' d)).addPath now nh h l).paths :=
    mem_removeExpired.2 ⟨hp, by rw [Time.lt_def, hpx, hsum]; omega⟩
  refine ⟨?_, fun hv pathInfo => ?_⟩
  · simp only [hasMultipathRoute, find_addMultipathRoute, MultipathRouteEntry.hasValidPath,
      Bool.not_eq_true']
    exact Bool.eq_false_iff.2 fun h => List.ne_nil_of_mem hlive (List.isEmpty_iff.1 h)
  · simp only [getBestMultipathRoute, find_addMultipathRoute]
    rcases MultipathRouteEntry.getBestPath_fst now (((t.multipathTable.find d).getD
        (MultipathRouteEntry.mk' d)).addPath now nh h l) with ⟨hnil, -⟩ | ⟨q, hq, hb, -⟩
    · rw [hnil] at hlive; exact absurd hlive (List.not_mem_nil _)
    · rw [hb, MultipathRouteEntry.scorePath_isValid]
      rcases hold q (mem_removeExpired.1 hq).1 with hqE | hqv
      · cases hf : t.multipathTable.find d with
        | none => simp [hf, MultipathRouteEntry.mk'] at hqE
        | some e => rw [hf] at hqE; exact hv e hf q hqE
      · exact hqv

theorem addMultipathRoute_found_existing_entry :
    let t : RoutingTable :=
      ((mk' (Time.seconds 3)).addMultipathRoute default 1 5 3 (Time.seconds 20)).2
    0 < (Time.seconds 10).val ∧ (Time.seconds 1).val + (Time.seconds 10).val < 2 ^ 63 ∧
      (∀ e, t.multipathTable.find 1 = some e → ∀ p ∈ e.paths, p.isValid = true) ∧
      ((t.addMultipathRoute (Time.seconds 1) 1 2 1
          (Time.seconds 10)).2.hasMultipathRoute (Time.seconds 1) 1).1 = true ∧
      ((∀ e, t.multipathTable.find 1 = some e → ∀ p ∈ e.paths, p.isValid = true) →
        ∀ pathInfo : PathInfo,
          ((t.addMultipathRoute (Time.seconds 1) 1 2 1
            (Time.seconds 10)).2.getBestMultipathRoute (Time.seconds 1) 1 pathInfo).1.1 = true) := by
  intro t
  have hfind : t.multipathTable.find 1 =
      some ((MultipathRouteEntry.mk' 1).addPath default 5 3 (Time.seconds 20)) := rfl
  refine ⟨by decide, by decide, fun e he => ?_,
    addMultipathRoute_found _ _ _ _ _ _ (by decide) (by decide)⟩
  rw [hfind, Option.some.injEq] at he
  subst he
  decide

/-- The expiry `now + lifetime` wraps: at 1 ns, a route added with the
largest lifetime `2^63 − 1` ns expires at `−2^63` ns, so neither
`HasMultipathRoute` nor `GetBestMultipathRoute` sees it. -/
theorem addMultipathRoute_expiry_wraps :
    let t : RoutingTable :=
      ((mk' (Time.seconds 3)).addMultipathRoute (Time.ofInt 1) 1 2 1 (Time.ofInt (2 ^ 63 - 1))).2
    (t.hasMultipathRoute (Time.ofInt 1) 1).1 = false ∧
      (t.getBestMultipathRoute (Time.ofInt 1) 1 (PathInfo.default default)).1.1 = false := by
  decide

end RoutingTable

end Aodv

/-
A unicast route runs through AODV's expiry lifecycle.

* **`route_expiry_lifecycle`** — after `AddRoute(rt)` inserts a VALID route,
  along any calls that name neither its destination nor its interface, made at
  times `now ≥ 0` for which `badLinkLifetime + now` does not overflow, the
  table holds for the destination what the three-phase machine `Phase` says:
  the VALID entry until the first call after its lifetime that begins with
  `Purge()`, then an INVALID entry whose lifetime ends `badLinkLifetime` after
  that call, then no entry at all.
* **`valid_route_lives_until_lifetime`** — along such calls at times in
  `[0, lifetime]` (`AddRoute` to the destination allowed), `LookupValidRoute`
  at a time `now ≥ 0` answers true exactly when `now ≤ lifetime`: `Purge()`
  invalidates a route only once `GetLifeTime()` is strictly negative, and no
  other call reaches it.

`Phase` is the abstract machine and `Phase.Holds` relates it to the table:
`Phase.Holds.step` says that one call of the table is one step of the machine,
and `Phase.Holds.run` what a run keeps.
-/
import AodvMultipath.Unicast

namespace Aodv

open Ns3

namespace RoutingTable

/-- A call that leaves the unicast entry for `d` on interface `iface` alone:
it names neither. -/
def Call.spares (d : Ipv4Address) (iface : Ipv4InterfaceAddress) : Call → Bool
  | .update rt => decide (rt.destination ≠ d)
  | .deleteRoute dst => decide (dst ≠ d)
  | .setEntryState id _ => decide (id ≠ d)
  | .invalidateRoutesWithDst unreachable => (unreachable.find d).isNone
  | .deleteAllRoutesFromInterface i => decide (i ≠ iface)
  | _ => true

/-- `AddRoute` to `d`: the one call that brings back an entry for `d` once the
table has erased it. -/
def Call.addsRouteTo (d : Ipv4Address) : Call → Bool
  | .addRoute rt => decide (rt.destination = d)
  | _ => false

/-- The calls whose first statement is `Purge()`. -/
def Call.purges : Call → Bool
  | .addRoute _ | .deleteRoute _ | .lookupRoute _ _ | .lookupValidRoute _ _
  | .getListOfDestinationWithNextHop _ | .invalidateRoutesWithDst _ | .purge => true
  | _ => false

@[simp] theorem modifyEntry_badLinkLifetime (id : Ipv4Address)
    (f : RoutingTableEntry → RoutingTableEntry) (t : RoutingTable) :
    (t.modifyEntry id f).2.badLinkLifetime = t.badLinkLifetime := by
  unfold modifyEntry; split <;> rfl

/-- No call changes `m_badLinkLifetime`. -/
@[simp] theorem step_badLinkLifetime (now : Time) (c : Call) (t : RoutingTable) :
    (step now c t).badLinkLifetime = t.badLinkLifetime := by
  cases c <;> simp only [step, addRoute, update, deleteRoute, setEntryState,
    markLinkAsUnidirectional, lookupRoute_snd, lookupValidRoute_snd,
    getListOfDestinationWithNextHop, invalidateRoutesWithDst, deleteAllRoutesFromInterface,
    addMultipathRoute, removeMultipathRoute, getBestMultipathRoute, getAllMultipathRoutes,
    hasMultipathRoute, purgeMultipathRoutes, modifyEntry_badLinkLifetime,
    purge_badLinkLifetime] <;> split <;> (try split) <;> rfl

/-! ### `Purge()` and the lifetime -/

/-- For times and lifetimes that are not negative, `Purge()` sees a strictly
negative remaining lifetime exactly when the lifetime is before `now`. -/
theorem getLifeTime_isStrictlyNegative {now : Time} {e : RoutingTableEntry} (h0 : 0 ≤ now.val)
    (hL : 0 ≤ e.lifeTime.val) :
    (e.getLifeTime now).IsStrictlyNegative = decide (e.lifeTime < now) := by
  have hin : InRange (e.lifeTime.val - now.val) :=
    ⟨by have := now.hi; omega, by have := e.lifeTime.hi; omega⟩
  simp only [RoutingTableEntry.getLifeTime, Time.isStrictlyNegative_eq, Time.sub_val,
    wrap64_of_inRange hin, Time.lt_def, sub_neg]

/-- Until its lifetime ends, the `Purge()` loop keeps an entry as it is. -/
theorem purgeEntry_of_not_lt {now bl : Time} {e : RoutingTableEntry} (h0 : 0 ≤ now.val)
    (hL : 0 ≤ e.lifeTime.val) (hlt : ¬ e.lifeTime < now) : purgeEntry now bl e = some e := by
  rw [purgeEntry, if_neg (by rwa [getLifeTime_isStrictlyNegative h0 hL, decide_eq_true_iff])]

/-- Once its lifetime has ended, the `Purge()` loop invalidates a VALID entry. -/
theorem purgeEntry_of_lt_valid {now bl : Time} {e : RoutingTableEntry} (hv : e.flag = .valid)
    (h0 : 0 ≤ now.val) (hL : 0 ≤ e.lifeTime.val) (hlt : e.lifeTime < now) :
    purgeEntry now bl e = some (e.invalidate now bl) := by
  rw [purgeEntry, if_pos (by rwa [getLifeTime_isStrictlyNegative h0 hL, decide_eq_true_iff]), hv]

/-- Once its lifetime has ended, the `Purge()` loop erases an INVALID entry. -/
theorem purgeEntry_of_lt_invalid {now bl : Time} {e : RoutingTableEntry}
    (hv : e.flag = .invalid) (h0 : 0 ≤ now.val) (hL : 0 ≤ e.lifeTime.val)
    (hlt : e.lifeTime < now) : purgeEntry now bl e = none := by
  rw [purgeEntry, if_pos (by rwa [getLifeTime_isStrictlyNegative h0 hL, decide_eq_true_iff]), hv]

theorem findRoute_of_find {m : StdMap Ipv4Address RoutingTableEntry} {id : Ipv4Address}
    {e : RoutingTableEntry} (h : m.find id = some e) (rt : RoutingTableEntry) :
    findRoute m id rt = (true, e) := by
  have hne : m.isEmpty = false := by
    rw [Bool.eq_false_iff]
    intro hemp
    exact List.not_mem_nil _ (StdMap.isEmpty_iff.1 hemp ▸ StdMap.find_eq_some.1 h)
  simp only [findRoute, hne, h, Bool.false_eq_true, if_false]

theorem findRoute_of_none {m : StdMap Ipv4Address RoutingTableEntry} {id : Ipv4Address}
    (h : m.find id = none) (rt : RoutingTableEntry) : findRoute m id rt = (false, rt) := by
  unfold findRoute; split <;> simp [h]

/-! ### The lifecycle of one entry -/

/-- What the table holds for one destination as route expiry sees it: a VALID
or an INVALID entry with the instant its lifetime ends, or no entry. -/
inductive Phase
  | valid (lifeTime : Time)
  | invalid (lifeTime : Time)
  | gone
  deriving DecidableEq, Repr

namespace Phase

/-- What a `Purge()` at `now` makes of the phase: once its lifetime has ended,
a VALID entry turns INVALID for `badLinkLifetime` more, and an INVALID one
goes. -/
def expire (badLinkLifetime now : Time) : Phase → Phase
  | valid L => if L < now then invalid (badLinkLifetime + now) else valid L
  | invalid L => if L < now then gone else invalid L
  | gone => gone

/-- One call at `now`: only the calls that purge move the phase. -/
def step (badLinkLifetime now : Time) (c : Call) (p : Phase) : Phase :=
  if c.purges then p.expire badLinkLifetime now else p

/-- The phase after a sequence of calls, each at its own time. -/
def run (badLinkLifetime : Time) (calls : List (Time × Call)) (p : Phase) : Phase :=
  calls.foldl (fun p tc => p.step badLinkLifetime tc.1 tc.2) p

/-- The lifetime of the entry the phase describes is not negative. -/
def Nonneg : Phase → Prop
  | valid L | invalid L => 0 ≤ L.val
  | gone => True

/-- The table holds for `d` on `iface` what the phase says. -/
def Holds (d : Ipv4Address) (iface : Ipv4InterfaceAddress) : Phase → RoutingTable → Prop
  | valid L, t => ∃ e, t.ipv4AddressEntry.find d = some e ∧ e.flag = .valid ∧
      e.lifeTime = L ∧ e.iface = iface
  | invalid L, t => ∃ e, t.ipv4AddressEntry.find d = some e ∧ e.flag = .invalid ∧
      e.lifeTime = L ∧ e.iface = iface
  | gone, t => t.ipv4AddressEntry.find d = none

/-- Steps at times `≥ 0` for which `badLinkLifetime + now` does not overflow
keep lifetimes non-negative. -/
theorem Nonneg.step {bl now : Time} {p : Phase} (hp : p.Nonneg) (h0 : 0 ≤ now.val)
    (hbl : 0 ≤ bl.val) (hov : now.val + bl.val < 2 ^ 63) (c : Call) :
    (p.step bl now c).Nonneg := by
  unfold Phase.step
  split
  · cases p with
    | valid L =>
      simp only [expire]
      split
      · show 0 ≤ (bl + now).val
        rw [Time.add_val, wrap64_of_inRange ⟨by omega, by omega⟩]
        omega
      · exact hp
    | invalid L => simp only [expire]; split <;> trivial
    | gone => trivial
  · exact hp

variable {d : Ipv4Address} {iface : Ipv4InterfaceAddress} {p : Phase} {now : Time}
  {t t' : RoutingTable}

theorem Holds.of_find (h : p.Holds d iface t)
    (hf : t'.ipv4AddressEntry.find d = t.ipv4AddressEntry.find d) : p.Holds d iface t' := by
  cases p <;> simpa only [Holds, hf] using h

/-- The entry the table holds for `d` is on `iface`. -/
theorem Holds.iface_eq (h : p.Holds d iface t) {e : RoutingTableEntry}
    (he : t.ipv4AddressEntry.find d = some e) : e.iface = iface := by
  cases p with
  | valid L | invalid L =>
    obtain ⟨e', he', -, -, hi⟩ := h
    rw [he] at he'
    exact Option.some.inj he' ▸ hi
  | gone => simp only [Holds, he] at h; cases h

/-- Only `gone` holds where the table has no entry for `d`. -/
theorem Holds.eq_gone (h : p.Holds d iface t) (hn : t.ipv4AddressEntry.find d = none) :
    p = gone := by
  cases p with
  | valid L | invalid L => obtain ⟨e, he, -⟩ := h; rw [hn] at he; cases he
  | gone => rfl

/-- **`Purge()`** at `now ≥ 0` is one `expire` step of the machine. -/
theorem Holds.purge (h : p.Holds d iface t) (hp : p.Nonneg) (h0 : 0 ≤ now.val) :
    (p.expire t.badLinkLifetime now).Holds d iface (t.purge now) := by
  have hfind : (t.purge now).ipv4AddressEntry.find d =
      (t.ipv4AddressEntry.find d).bind (purgeEntry now t.badLinkLifetime) := by
    rw [purge_ipv4AddressEntry, purgeTable_eq_sweep, StdMap.find_sweep]
  cases p with
  | valid L =>
    obtain ⟨e, he, hv, rfl, hi⟩ := h
    have hne : e.flag ≠ .invalid := by rw [hv]; decide
    simp only [expire]
    split
    · exact ⟨e.invalidate now t.badLinkLifetime,
        by rw [hfind, he, Option.some_bind, purgeEntry_of_lt_valid hv h0 hp ‹_›],
        RoutingTableEntry.invalidate_flag _ _ _, by rw [RoutingTableEntry.invalidate_of_ne hne],
        by rw [RoutingTableEntry.invalidate_of_ne hne, hi]⟩
    · exact ⟨e, by rw [hfind, he, Option.some_bind, purgeEntry_of_not_lt h0 hp ‹_›],
        hv, rfl, hi⟩
  | invalid L =>
    obtain ⟨e, he, hv, rfl, hi⟩ := h
    simp only [expire]
    split
    · show _ = none
      rw [hfind, he, Option.some_bind, purgeEntry_of_lt_invalid hv h0 hp ‹_›]
    · exact ⟨e, by rw [hfind, he, Option.some_bind, purgeEntry_of_not_lt h0 hp ‹_›],
        hv, rfl, hi⟩
  | gone => show _ = none; rw [hfind, show t.ipv4AddressEntry.find d = none from h]; rfl

/-- **Step.**  One call at a time `now ≥ 0` that spares `d` and `iface` is one
step of the machine, unless it is an `AddRoute` to `d` made when the entry has
just gone. -/
theorem Holds.step (h : p.Holds d iface t) (hp : p.Nonneg) (h0 : 0 ≤ now.val) :
    ∀ c : Call, c.spares d iface = true →
      (p.expire t.badLinkLifetime now = gone → c.addsRouteTo d = false) →
      (p.step t.badLinkLifetime now c).Holds d iface (RoutingTable.step now c t)
  | .addRoute rt, _, hadd => by
    have hq := h.purge hp h0
    refine hq.of_find ?_
    rw [RoutingTable.step, addRoute_find, if_neg]
    rintro ⟨rfl, hn⟩
    exact absurd (hadd (hq.eq_gone (Option.isNone_iff_eq_none.1 hn)))
      (by simp [Call.addsRouteTo])
  | .update rt, hs, _ => h.of_find (by
      rw [RoutingTable.step, update, modifyEntry_find,
        if_neg (Ne.symm (of_decide_eq_true hs))])
  | .deleteRoute dst, hs, _ => (h.purge hp h0).of_find (by
      rw [RoutingTable.step, deleteRoute_find, if_neg (Ne.symm (of_decide_eq_true hs))])
  | .setEntryState id state, hs, _ => h.of_find (by
      rw [RoutingTable.step, setEntryState, modifyEntry_find,
        if_neg (Ne.symm (of_decide_eq_true hs))])
  | .markLinkAsUnidirectional nb timeout, _, _ => by
    have hf := modifyEntry_find nb
      (fun e => { e with blackListState := true, blackListTimeout := timeout, reqCount := 0 }) t d
    by_cases hd : d = nb
    · subst hd
      rw [if_pos rfl] at hf
      cases p with
      | valid L | invalid L =>
        obtain ⟨e, he, hv, hl, hi⟩ := h
        exact ⟨{ e with blackListState := true, blackListTimeout := timeout, reqCount := 0 },
          hf.trans (by rw [he]; rfl), hv, hl, hi⟩
      | gone => exact hf.trans (by rw [show t.ipv4AddressEntry.find d = none from h]; rfl)
    · exact h.of_find (by rw [RoutingTable.step, markLinkAsUnidirectional, hf, if_neg hd])
  | .lookupRoute id rt, _, _ => h.purge hp h0
  | .lookupValidRoute id rt, _, _ => by
    rw [RoutingTable.step, lookupValidRoute_snd]; exact h.purge hp h0
  | .getListOfDestinationWithNextHop nh, _, _ => h.purge hp h0
  | .invalidateRoutesWithDst u, hs, _ => (h.purge hp h0).of_find (by
      show (StdMap.sweep _ (t.purge now).ipv4AddressEntry).find d = _
      rw [StdMap.find_sweep]
      cases hf : (t.purge now).ipv4AddressEntry.find d with
      | none => rfl
      | some e =>
        rw [Option.some_bind, invalidateIfListed_eq, if_neg]
        rintro ⟨-, hm⟩
        obtain ⟨⟨k, v⟩, hkv, rfl⟩ := List.mem_map.1 hm
        exact StdMap.find_eq_none.1 (Option.isNone_iff_eq_none.1 hs) _ hkv rfl)
  | .deleteAllRoutesFromInterface i, hs, _ => h.of_find (by
      rw [RoutingTable.step, deleteAllRoutesFromInterface]
      split
      · rfl
      · rw [StdMap.find_sweep]
        cases hf : t.ipv4AddressEntry.find d with
        | none => rfl
        | some e => rw [Option.some_bind, if_neg (h.iface_eq hf ▸ Ne.symm (of_decide_eq_true hs))])
  | .purge, _, _ => h.purge hp h0
  | .addMultipathRoute dst nh hc l, _, _ => h.of_find (by
      rw [RoutingTable.step, addMultipathRoute_unicast])
  | .removeMultipathRoute dst nh, _, _ => h.of_find (by
      rw [RoutingTable.step, removeMultipathRoute_unicast])
  | .getBestMultipathRoute dst p, _, _ => h.of_find (by
      rw [RoutingTable.step, getBestMultipathRoute_unicast])
  | .getAllMultipathRoutes dst, _, _ => h.of_find (by
      rw [RoutingTable.step, getAllMultipathRoutes_unicast])
  | .hasMultipathRoute dst, _, _ => h.of_find (by
      rw [RoutingTable.step, hasMultipathRoute_unicast])
  | .purgeMultipathRoutes, _, _ => h.of_find rfl

/-- **Run.**  Calls at times `≥ 0` that spare `d` and `iface`, add no route to
`d` and keep `badLinkLifetime + now` from overflowing are, one by one, steps of
the machine. -/
theorem Holds.run : ∀ (calls : List (Time × Call)) {p : Phase} {t : RoutingTable},
    p.Holds d iface t → p.Nonneg → 0 ≤ t.badLinkLifetime.val →
    (∀ tc ∈ calls, tc.2.spares d iface = true ∧ tc.2.addsRouteTo d = false ∧
      0 ≤ tc.1.val ∧ tc.1.val + t.badLinkLifetime.val < 2 ^ 63) →
    (p.run t.badLinkLifetime calls).Holds d iface (RoutingTable.run calls t)
  | [], _, _, h, _, _, _ => h
  | tc :: rest, _, t, h, hp, hbl, hc => by
    obtain ⟨hs, ha, h0, hov⟩ := hc tc (List.mem_cons_self _ _)
    have hb := step_badLinkLifetime tc.1 tc.2 t
    have ih := run rest (h.step hp h0 tc.2 hs fun _ => ha) (hp.step h0 hbl hov tc.2)
      (hb ▸ hbl) (fun tc' h' => by rw [hb]; exact hc tc' (List.mem_cons_of_mem _ h'))
    rwa [hb] at ih

/-- Calls at times in `[0, L]` that spare `d` and `iface` keep a VALID entry
whose lifetime ends at `L ≥ 0`. -/
theorem Holds.run_valid {L : Time} (hL : 0 ≤ L.val) :
    ∀ (calls : List (Time × Call)) {t : RoutingTable}, (valid L).Holds d iface t →
      (∀ tc ∈ calls, tc.2.spares d iface = true ∧ 0 ≤ tc.1.val ∧ tc.1 ≤ L) →
        (valid L).Holds d iface (RoutingTable.run calls t)
  | [], _, h, _ => h
  | tc :: rest, t, h, hc => by
    obtain ⟨hs, h0, hle⟩ := hc tc (List.mem_cons_self _ _)
    have hq : (valid L).expire t.badLinkLifetime tc.1 = valid L := if_neg (not_lt.2 hle)
    have h' := h.step hL h0 tc.2 hs fun hg => by rw [hq] at hg; cases hg
    rw [Phase.step, hq, ite_self] at h'
    exact run_valid hL rest h' fun tc' h'' => hc tc' (List.mem_cons_of_mem _ h'')

/-- `LookupValidRoute(d)` answers true exactly when the phase its `Purge()`
leaves is VALID. -/
theorem Holds.lookupValidRoute {q : Phase} (h : q.Holds d iface (t.purge now))
    (rt : RoutingTableEntry) :
    (t.lookupValidRoute now d rt).1.1 = true ↔ ∃ L, q = valid L := by
  cases q with
  | valid L =>
    obtain ⟨e, he, hv, -⟩ := h
    simp [RoutingTable.lookupValidRoute, RoutingTable.lookupRoute, findRoute_of_find he, hv]
  | invalid L =>
    obtain ⟨e, he, hv, -⟩ := h
    simp [RoutingTable.lookupValidRoute, RoutingTable.lookupRoute, findRoute_of_find he, hv]
  | gone => simp [RoutingTable.lookupValidRoute, RoutingTable.lookupRoute, findRoute_of_none h]

end Phase

@[simp] theorem resetRreqCnt_lifeTime (rt : RoutingTableEntry) :
    (resetRreqCnt rt).lifeTime = rt.lifeTime := by
  unfold resetRreqCnt; split <;> rfl

@[simp] theorem resetRreqCnt_iface (rt : RoutingTableEntry) :
    (resetRreqCnt rt).iface = rt.iface := by
  unfold resetRreqCnt; split <;> rfl

/-- A VALID route `AddRoute` inserts starts the machine in its VALID phase. -/
theorem holds_addRoute {t : RoutingTable} {t₀ : Time} {rt : RoutingTableEntry}
    (hv : rt.flag = .valid) (hnew : (t.addRoute t₀ rt).1.1 = true) :
    (Phase.valid rt.lifeTime).Holds rt.destination rt.iface (t.addRoute t₀ rt).2 := by
  refine ⟨resetRreqCnt rt, ?_, by rw [resetRreqCnt_flag, hv], resetRreqCnt_lifeTime rt,
    resetRreqCnt_iface rt⟩
  rw [addRoute_find, if_pos ⟨rfl, by simpa [addRoute_fst] using hnew⟩]

/-- **The expiry lifecycle of a route.**  After `AddRoute(rt)` inserts a VALID
route, along calls at times `≥ 0` that name neither `rt`'s destination nor its
interface and keep `badLinkLifetime + now` from overflowing, the table holds
for the destination what the phase machine reaches from `valid lifetime`. -/
theorem route_expiry_lifecycle (t : RoutingTable) (t₀ : Time) (rt : RoutingTableEntry)
    (calls : List (Time × Call)) (hv : rt.flag = .valid)
    (hnew : (t.addRoute t₀ rt).1.1 = true)
    (hcalls : ∀ tc ∈ calls, tc.2.spares rt.destination rt.iface = true ∧
      tc.2.addsRouteTo rt.destination = false ∧ 0 ≤ tc.1.val ∧
      tc.1.val + t.badLinkLifetime.val < 2 ^ 63)
    (hbl : 0 ≤ t.badLinkLifetime.val) (hL : 0 ≤ rt.lifeTime.val) :
    ((Phase.valid rt.lifeTime).run t.badLinkLifetime calls).Holds rt.destination rt.iface
      (run calls (t.addRoute t₀ rt).2) := by
  have hb : (t.addRoute t₀ rt).2.badLinkLifetime = t.badLinkLifetime :=
    step_badLinkLifetime t₀ (.addRoute rt) t
  have h := (holds_addRoute hv hnew).run calls hL (hb ▸ hbl) (by rwa [hb])
  rwa [hb] at h

theorem route_expiry_lifecycle_erased :
    let rt : RoutingTableEntry :=
      RoutingTableEntry.mk' default 5 true 1 ⟨1, 0, 0, 0, false⟩ 1 5 (Time.seconds 10)
    let t : RoutingTable := mk' (Time.seconds 3)
    let calls : List (Time × Call) :=
      [(Time.seconds 2, .lookupRoute 5 rt), (Time.seconds 12, .purge),
        (Time.seconds 14, .update { rt with destination := 7 }),
        (Time.seconds 20, .lookupValidRoute 5 rt)]
    rt.flag = .valid ∧ (t.addRoute default rt).1.1 = true ∧
      (∀ tc ∈ calls, tc.2.spares rt.destination rt.iface = true ∧
        tc.2.addsRouteTo rt.destination = false ∧ 0 ≤ tc.1.val ∧
        tc.1.val + t.badLinkLifetime.val < 2 ^ 63) ∧
      0 ≤ t.badLinkLifetime.val ∧ 0 ≤ rt.lifeTime.val ∧
      ((Phase.valid rt.lifeTime).run t.badLinkLifetime calls).Holds rt.destination rt.iface
        (run calls (t.addRoute default rt).2) :=
  ⟨rfl, by decide, by decide, by decide, by decide,
    route_expiry_lifecycle _ _ _ _ rfl (by decide) (by decide) (by decide) (by decide)⟩

/-- **A VALID route lives until its lifetime ends.**  After `AddRoute(rt)`
inserts a VALID route, along any calls at times in `[0, rt.lifeTime]` that
name neither `rt`'s destination nor its interface, `LookupValidRoute` for the
destination at a time `now ≥ 0` answers true exactly when
`now ≤ rt.lifeTime`. -/
theorem valid_route_lives_until_lifetime (t : RoutingTable) (t₀ now : Time)
    (rt rt' : RoutingTableEntry) (calls : List (Time × Call)) (hv : rt.flag = .valid)
    (hnew : (t.addRoute t₀ rt).1.1 = true)
    (hcalls : ∀ tc ∈ calls,
      tc.2.spares rt.destination rt.iface = true ∧ 0 ≤ tc.1.val ∧ tc.1 ≤ rt.lifeTime)
    (h0 : 0 ≤ now.val) (hL : 0 ≤ rt.lifeTime.val) :
    ((run calls (t.addRoute t₀ rt).2).lookupValidRoute now rt.destination rt').1.1 = true ↔
      now ≤ rt.lifeTime := by
  rw [(((holds_addRoute hv hnew).run_valid hL calls hcalls).purge hL h0).lookupValidRoute,
    Phase.expire]
  split
  · exact ⟨fun ⟨_, h⟩ => (nomatch h), fun hle => absurd ‹_› (not_lt.2 hle)⟩
  · exact ⟨fun _ => not_lt.1 ‹_›, fun _ => ⟨_, rfl⟩⟩

theorem valid_route_lives_until_lifetime_ten_seconds :
    let rt : RoutingTableEntry :=
      RoutingTableEntry.mk' default 5 true 1 ⟨1, 0, 0, 0, false⟩ 1 5 (Time.seconds 10)
    let calls : List (Time × Call) :=
      [(Time.seconds 2, .lookupRoute 5 rt), (Time.seconds 4, .purge),
        (Time.seconds 6, .update { rt with destination := 7 })]
    rt.flag = .valid ∧ ((mk' (Time.seconds 3)).addRoute default rt).1.1 = true ∧
      (∀ tc ∈ calls, tc.2.spares rt.destination rt.iface = true ∧ 0 ≤ tc.1.val ∧
        tc.1 ≤ rt.lifeTime) ∧
      0 ≤ (Time.seconds 12).val ∧ 0 ≤ rt.lifeTime.val ∧
      ((((run calls ((mk' (Time.seconds 3)).addRoute default rt).2).lookupValidRoute
          (Time.seconds 12) rt.destination rt).1.1 = true ↔ Time.seconds 12 ≤ rt.lifeTime)) :=
  ⟨rfl, by decide, by decide, by decide, by decide,
    valid_route_lives_until_lifetime _ _ _ _ _ _ rfl (by decide) (by decide) (by decide)
      (by decide)⟩

end RoutingTable

end Aodv

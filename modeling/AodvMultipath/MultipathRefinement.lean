/-
The multipath table refines an abstract store of live paths.

`PathStore` says what the multipath part of the table is for: for each
destination and next hop, the hop count and absolute expiry of the latest
`AddMultipathRoute` through that next hop, unless it was removed since; such a
path is live at `τ` while its expiry is after `τ`.  The table keeps expired
paths until some call compacts the entry (`AddPath`, `GetBestPath`,
`GetAllPaths`, `HasValidPath` and `PurgeMultipathRoutes` all erase them), so the
relation `Refines τ t s` only asks the paths unexpired at `τ` to be the store's
live ones, and every path to be valid and alone on its next hop:

* `PathsRefine` — the relation for one destination, with one lemma per thing
  the entry does to its list (`compact`, `scored`, `refresh`, `append`, `erase`)
  and `PathsRefine.addPath` assembled from them;
* `step_refines` — a call made at `now ≥ τ` keeps the relation, moved to `now`,
  when the store takes the same call;
* `run_refines` — so does a run at non-decreasing times;
* `answersLive_of_refines` — the multipath queries, read against the store;
* `multipath_refines_live_store` — from a new table, after any run;
* `multipath_entries_keyed_by_destination` — and each entry of the multipath
  map is stored under its own destination.
-/
import AodvMultipath.QueryStability
import Mathlib.Data.List.Sort

namespace Aodv

open Ns3

/-! ### The abstract store -/

/-- The abstract multipath store: for a destination and a next hop, the hop
count and absolute expiry (in ns) of the latest `AddMultipathRoute` through that
next hop, unless it was removed since. -/
abbrev PathStore := Ipv4Address → Ipv4Address → Option (Nat × Int)

namespace PathStore

/-- No path recorded. -/
def empty : PathStore := fun _ _ => none

/-- `AddMultipathRoute(d, nh, h, l)` at `now`: the path through `nh` has hop
count `h` and expiry `now + l`. -/
def add (now : Time) (d nh : Ipv4Address) (h : Nat) (l : Time) (s : PathStore) : PathStore :=
  Function.update s d (Function.update (s d) nh (some (h, now.val + l.val)))

/-- `RemoveMultipathRoute(d, nh)`: no path through `nh`. -/
def remove (d nh : Ipv4Address) (s : PathStore) : PathStore :=
  Function.update s d (Function.update (s d) nh none)

/-- The path through `nh` with hop count `h` and expiry `e` is live for `d` at `τ`. -/
def Live (s : PathStore) (d : Ipv4Address) (τ : Time) (nh : Ipv4Address) (h : Nat) (e : Int) :
    Prop :=
  s d nh = some (h, e) ∧ τ.val < e

/-- What a call of the table does to the store: only the two multipath
mutators change it. -/
def apply (now : Time) : RoutingTable.Call → PathStore → PathStore
  | .addMultipathRoute d nh h l => add now d nh h l
  | .removeMultipathRoute d nh => remove d nh
  | _ => id

/-- The store after a run of calls, each made at its own time. -/
def run (calls : List (Time × RoutingTable.Call)) (s : PathStore) : PathStore :=
  calls.foldl (fun s c => apply c.1 c.2 s) s

variable {s : PathStore} {now : Time} {d d' nh : Ipv4Address} {h : Nat} {l : Time}

@[simp] theorem add_self : s.add now d nh h l d = Function.update (s d) nh (some (h, now.val + l.val)) :=
  Function.update_same _ _ _

theorem add_ne (hd : d' ≠ d) : s.add now d nh h l d' = s d' := Function.update_noteq hd _ _

@[simp] theorem remove_self : s.remove d nh d = Function.update (s d) nh none :=
  Function.update_same _ _ _

theorem remove_ne (hd : d' ≠ d) : s.remove d nh d' = s d' := Function.update_noteq hd _ _

end PathStore

/-! ### One destination -/

namespace MultipathRouteEntry

/-- The paths `ps` of one destination refine the store's entries `a` for it at
time `τ`: one path per next hop, all valid, each path unexpired at `τ` recorded
in `a` with its hop count and expiry, and each entry of `a` live at `τ` among
the paths. -/
structure PathsRefine (τ : Time) (a : Ipv4Address → Option (Nat × Int)) (ps : List PathInfo) :
    Prop where
  nodup : (nextHops ps).Nodup
  valid : ∀ p ∈ ps, p.isValid = true
  sound : ∀ p ∈ ps, τ < p.expiryTime → a p.nextHop = some (p.hopCount, p.expiryTime.val)
  complete : ∀ nh h e, a nh = some (h, e) → τ.val < e →
    ∃ p ∈ ps, p.nextHop = nh ∧ p.hopCount = h ∧ p.expiryTime.val = e

namespace PathsRefine

variable {τ now : Time} {a : Ipv4Address → Option (Nat × Int)} {ps : List PathInfo}

theorem nil : PathsRefine τ (fun _ => none) [] :=
  ⟨List.nodup_nil, fun _ h => absurd h (List.not_mem_nil _),
    fun _ h => absurd h (List.not_mem_nil _), fun _ _ _ h => Option.noConfusion h⟩

theorem mono (h : PathsRefine τ a ps) (hτ : τ ≤ now) : PathsRefine now a ps where
  nodup := h.nodup
  valid := h.valid
  sound p hp hx := h.sound p hp (lt_of_le_of_lt hτ hx)
  complete nh hc e ha he := h.complete nh hc e ha (lt_of_le_of_lt hτ he)

/-- Erasing the paths expired at `now`. -/
theorem compact (h : PathsRefine τ a ps) (hτ : τ ≤ now) :
    PathsRefine now a (removeExpired now ps) where
  nodup := h.nodup.sublist ((removeExpired_sublist now ps).map _)
  valid p hp := h.valid p (mem_removeExpired.1 hp).1
  sound p hp hx := (h.mono hτ).sound p (mem_removeExpired.1 hp).1 hx
  complete nh hc e ha he := by
    obtain ⟨p, hp, rfl, rfl, rfl⟩ := (h.mono hτ).complete nh hc e ha he
    exact ⟨p, mem_removeExpired.2 ⟨hp, he⟩, rfl, rfl, rfl⟩

/-- Caching the composite scores. -/
theorem scored (h : PathsRefine τ a ps) : PathsRefine τ a (ps.map scorePath) where
  nodup := by simpa [Function.comp_def] using h.nodup
  valid p hp := by
    obtain ⟨q, hq, rfl⟩ := List.mem_map.1 hp
    exact h.valid q hq
  sound p hp hx := by
    obtain ⟨q, hq, rfl⟩ := List.mem_map.1 hp
    exact h.sound q hq hx
  complete nh hc e ha he := by
    obtain ⟨p, hp, hrest⟩ := h.complete nh hc e ha he
    exact ⟨scorePath p, List.mem_map_of_mem _ hp, hrest⟩

/-- `AddPath` refreshing the path through `nh` to hop count `hc` and expiry `x`. -/
theorem refresh (h : PathsRefine now a ps) {nh : Ipv4Address} (hm : nh ∈ nextHops ps)
    (hc : Nat) (x : Time) :
    PathsRefine now (Function.update a nh (some (hc, x.val))) (ps.map (refreshPath nh hc x)) where
  nodup := by simpa [Function.comp_def] using h.nodup
  valid p hp := by
    obtain ⟨q, hq, rfl⟩ := List.mem_map.1 hp
    by_cases hn : q.nextHop = nh
    · rw [refreshPath_of_eq hn]
    · rw [refreshPath_of_ne hn]; exact h.valid q hq
  sound p hp hx := by
    obtain ⟨q, hq, rfl⟩ := List.mem_map.1 hp
    by_cases hn : q.nextHop = nh
    · simp [Function.update_apply, refreshPath_of_eq hn, hn]
    · rw [refreshPath_of_ne hn] at hx ⊢
      rw [Function.update_noteq hn]
      exact h.sound q hq hx
  complete nh' hc' e ha he := by
    by_cases hn : nh' = nh
    · subst hn
      obtain ⟨rfl, rfl⟩ := Prod.mk.inj (Option.some_injective _ (by simpa using ha))
      obtain ⟨q, hq, hqn⟩ := List.mem_map.1 hm
      exact ⟨_, List.mem_map_of_mem _ hq, by simp [refreshPath_of_eq hqn, hqn]⟩
    · rw [Function.update_noteq hn] at ha
      obtain ⟨p, hp, hpn, hrest⟩ := h.complete nh' hc' e ha he
      exact ⟨p, List.mem_map.2 ⟨p, hp, refreshPath_of_ne (hpn ▸ hn)⟩, hpn, hrest⟩

/-- `AddPath` appending a valid path `p` through a new next hop. -/
theorem append (h : PathsRefine now a ps) {p : PathInfo} (hm : p.nextHop ∉ nextHops ps)
    (hv : p.isValid = true) :
    PathsRefine now (Function.update a p.nextHop (some (p.hopCount, p.expiryTime.val)))
      (ps ++ [p]) where
  nodup := by
    simp only [nextHops, List.map_append, List.map_cons, List.map_nil]
    exact List.nodup_append.2 ⟨h.nodup, List.nodup_singleton _, List.disjoint_singleton.2 hm⟩
  valid q hq := by
    rcases List.mem_append.1 hq with hq | hq
    · exact h.valid q hq
    · rw [List.mem_singleton.1 hq]; exact hv
  sound q hq hx := by
    rcases List.mem_append.1 hq with hq | hq
    · have hn : q.nextHop ≠ p.nextHop := fun e => hm (e ▸ List.mem_map_of_mem _ hq)
      rw [Function.update_noteq hn]
      exact h.sound q hq hx
    · simp [Function.update_apply, List.mem_singleton.1 hq]
  complete nh hc e ha he := by
    by_cases hn : nh = p.nextHop
    · subst hn
      obtain ⟨rfl, rfl⟩ := Prod.mk.inj (Option.some_injective _ (by simpa using ha))
      exact ⟨p, by simp, rfl, rfl, rfl⟩
    · rw [Function.update_noteq hn] at ha
      obtain ⟨q, hq, hrest⟩ := h.complete nh hc e ha he
      exact ⟨q, List.mem_append_left _ hq, hrest⟩

/-- `RemovePath(nh)`. -/
theorem erase (h : PathsRefine τ a ps) (nh : Ipv4Address) :
    PathsRefine τ (Function.update a nh none) (ps.filter fun p => !decide (p.nextHop = nh)) where
  nodup := h.nodup.sublist ((List.filter_sublist _).map _)
  valid p hp := h.valid p (List.mem_filter.1 hp).1
  sound p hp hx := by
    obtain ⟨hp, hn⟩ := List.mem_filter.1 hp
    rw [Function.update_noteq (by simpa using hn)]
    exact h.sound p hp hx
  complete nh' hc e ha he := by
    by_cases hn : nh' = nh
    · subst hn; simp at ha
    · rw [Function.update_noteq hn] at ha
      obtain ⟨p, hp, hpn, hrest⟩ := h.complete nh' hc e ha he
      exact ⟨p, List.mem_filter.2 ⟨hp, by simpa [hpn] using hn⟩, hpn, hrest⟩

/-- `AddPath(nh, hc, l)` at `now`, with `now + l` inside `Time`. -/
theorem addPath {e : MultipathRouteEntry} (h : PathsRefine τ a e.paths) (hτ : τ ≤ now)
    {nh : Ipv4Address} {hc : Nat} {l : Time} (hr : InRange (now.val + l.val)) :
    PathsRefine now (Function.update a nh (some (hc, now.val + l.val)))
      (e.addPath now nh hc l).paths := by
  have hR := h.compact hτ
  rw [addPath_paths h.nodup, ← Time.add_val_of_inRange hr]
  split
  · exact hR.refresh ‹_› hc (now + l)
  · exact hR.append (p := newPath now nh hc l) ‹_› rfl

end PathsRefine

/-- On a non-empty list, the path `GetBestPath` picks is one of them, scored,
of least hop count. -/
theorem bestOf_map_scorePath (now : Time) :
    ∀ {L : List PathInfo}, L ≠ [] →
      ∃ q ∈ L, bestOf now (L.map scorePath) = scorePath q ∧ ∀ r ∈ L, q.hopCount ≤ r.hopCount
  | [], h => absurd rfl h
  | q :: rest, _ => by
    have hm : minElement (scorePath q) (rest.map scorePath) ∈ (q :: rest).map scorePath :=
      minElement_mem _ _
    obtain ⟨q', hq', hq'e⟩ := List.mem_map.1 hm
    refine ⟨q', hq', hq'e.symm, fun r hr => ?_⟩
    have := minElement_le (scorePath q) (rest.map scorePath) (scorePath r) (List.mem_map_of_mem _ hr)
    rwa [← hq'e] at this

end MultipathRouteEntry

/-! ### The table -/

namespace RoutingTable

open MultipathRouteEntry (PathsRefine nextHops removeExpired scorePath bestOf mem_removeExpired
  getBestPath_snd hasValidPath bestOf_map_scorePath)

/-- The paths the table holds for `d`; none without an entry. -/
def pathsOf (t : RoutingTable) (d : Ipv4Address) : List PathInfo :=
  match t.multipathTable.find d with
  | none => []
  | some e => e.paths

/-- **The refinement relation** at time `τ`: for every destination, the table's
paths refine the store's entries. -/
def Refines (τ : Time) (t : RoutingTable) (s : PathStore) : Prop :=
  ∀ d, PathsRefine τ (s d) (t.pathsOf d)

/-- Whether the `now + lifetime` of a call made at `now` stays inside `Time`;
only `AddMultipathRoute` has a lifetime. -/
def Call.lifetimeInRange (now : Time) : Call → Bool
  | .addMultipathRoute _ _ _ lifetime => decide (InRange (now.val + lifetime.val))
  | _ => true

variable {τ now : Time} {t t' : RoutingTable} {s : PathStore}

theorem pathsOf_congr {d : Ipv4Address}
    (h : t'.multipathTable.find d = t.multipathTable.find d) : t'.pathsOf d = t.pathsOf d := by
  unfold pathsOf; rw [h]

theorem pathsOf_of_find {d : Ipv4Address} {e : MultipathRouteEntry}
    (h : t.multipathTable.find d = some e) : t.pathsOf d = e.paths := by
  unfold pathsOf; rw [h]

theorem pathsOf_of_find_none {d : Ipv4Address} (h : t.multipathTable.find d = none) :
    t.pathsOf d = [] := by
  unfold pathsOf; rw [h]

theorem liveScored_eq_pathsOf (now : Time) (t : RoutingTable) (d : Ipv4Address) :
    t.liveScored now d = (removeExpired now (t.pathsOf d)).map scorePath := by
  unfold liveScored pathsOf; cases t.multipathTable.find d <;> rfl

theorem getAllMultipathRoutes_fst (now : Time) (t : RoutingTable) (d : Ipv4Address) :
    (t.getAllMultipathRoutes now d).1 = removeExpired now (t.pathsOf d) := by
  unfold getAllMultipathRoutes pathsOf; cases t.multipathTable.find d <;> rfl

namespace Refines

theorem mono (h : Refines τ t s) (hτ : τ ≤ now) : Refines now t s := fun d => (h d).mono hτ

theorem of_multipathTable (h : Refines τ t s) (ht : t'.multipathTable = t.multipathTable) :
    Refines τ t' s := fun d => by unfold pathsOf; rw [ht]; exact h d

/-- A call that changes the table and the store at one destination `d` only. -/
theorem update (h : Refines τ t s) (hτ : τ ≤ now) {d : Ipv4Address} {s' : PathStore}
    (hs : ∀ d', d' ≠ d → s' d' = s d')
    (ht : ∀ d', d' ≠ d → t'.multipathTable.find d' = t.multipathTable.find d')
    (hd : PathsRefine now (s' d) (t'.pathsOf d)) : Refines now t' s' := by
  intro d'
  by_cases hne : d' = d
  · subst hne; exact hd
  · rw [hs d' hne, pathsOf_congr (ht d' hne)]; exact (h d').mono hτ

/-- A query that replaces the entry `e` for `d` by `e'` with the same live paths. -/
theorem rewrite (h : Refines τ t s) (hτ : τ ≤ now) {d : Ipv4Address} {e e' : MultipathRouteEntry}
    (he : t.multipathTable.find d = some e) (he' : PathsRefine now (s d) e'.paths) :
    Refines now { t with multipathTable := t.multipathTable.modify d fun _ => e' } s := by
  refine h.update hτ (d := d) (fun _ _ => rfl) (fun d' hd' => ?_) ?_
  · simp only [StdMap.find_modify, if_neg hd']
  · rw [pathsOf_of_find (e := e') (by simp [StdMap.find_modify, he])]; exact he'

end Refines

theorem refines_mk' (τ badLinkLifetime : Time) : Refines τ (mk' badLinkLifetime) PathStore.empty :=
  fun _ => PathsRefine.nil

/-! ### Every call keeps the relation -/

theorem pathsOf_purgeMultipathRoutes (now : Time) (t : RoutingTable) (d : Ipv4Address) :
    (t.purgeMultipathRoutes now).pathsOf d = (removeExpired now (t.pathsOf d)).map scorePath := by
  unfold pathsOf purgeMultipathRoutes
  rw [StdMap.find_sweep]
  cases t.multipathTable.find d with
  | none => rfl
  | some e =>
    rw [Option.some_bind, purgeMultipathEntry_eq]
    by_cases he : (removeExpired now e.paths).isEmpty
    · rw [if_pos he, List.isEmpty_iff.1 he]; rfl
    · rw [if_neg he]

theorem refines_purgeMultipathRoutes (h : Refines τ t s) (hτ : τ ≤ now) :
    Refines now (t.purgeMultipathRoutes now) s := fun d => by
  rw [pathsOf_purgeMultipathRoutes]; exact ((h d).compact hτ).scored

theorem refines_purge (h : Refines τ t s) (hτ : τ ≤ now) : Refines now (t.purge now) s := by
  by_cases hu : t.ipv4AddressEntry.isEmpty
  · rw [purge_of_isEmpty hu]; exact h.mono hτ
  · exact (refines_purgeMultipathRoutes h hτ).of_multipathTable (by rw [purge_of_not_isEmpty hu]; rfl)

theorem refines_addMultipathRoute (h : Refines τ t s) (hτ : τ ≤ now) {d nh : Ipv4Address}
    {hc : Nat} {l : Time} (hr : InRange (now.val + l.val)) :
    Refines now (t.addMultipathRoute now d nh hc l).2 (s.add now d nh hc l) := by
  unfold addMultipathRoute
  cases hf : t.multipathTable.find d with
  | none =>
    refine h.update hτ (fun _ => PathStore.add_ne) (fun d' hd' => ?_) ?_
    · simp only [StdMap.find_assign, if_neg hd']
    · rw [PathStore.add_self,
        pathsOf_of_find (e := (MultipathRouteEntry.mk' d).addPath now nh hc l) (by simp [StdMap.find_assign])]
      exact PathsRefine.addPath (e := MultipathRouteEntry.mk' d)
        (by simpa only [pathsOf_of_find_none hf] using h d) hτ hr
  | some e =>
    refine h.update hτ (fun _ => PathStore.add_ne) (fun d' hd' => ?_) ?_
    · simp only [StdMap.find_modify, if_neg hd']
    · rw [PathStore.add_self,
        pathsOf_of_find (e := e.addPath now nh hc l) (by simp [StdMap.find_modify, hf])]
      exact PathsRefine.addPath (by simpa only [pathsOf_of_find hf] using h d) hτ hr

theorem refines_removeMultipathRoute (h : Refines τ t s) (hτ : τ ≤ now) (d nh : Ipv4Address) :
    Refines now (t.removeMultipathRoute now d nh).2 (s.remove d nh) := by
  have hd := ((h d).mono hτ).erase nh
  rw [← PathStore.remove_self] at hd
  refine Refines.update h hτ (fun _ => PathStore.remove_ne) (fun d' hd' => ?_) ?_ <;>
    unfold removeMultipathRoute <;> cases hf : t.multipathTable.find d
  · rfl
  · rename_i e
    dsimp only
    split
    · simp only [StdMap.find_erase, if_neg hd']
    · simp only [StdMap.find_modify, if_neg hd']
  · rw [pathsOf_of_find_none hf] at hd ⊢; exact hd
  · rename_i e
    rw [pathsOf_of_find hf] at hd
    have hc := hd.compact (le_refl now)
    dsimp only
    split
    · rename_i hv
      have hempty : removeExpired now (e.paths.filter fun p => !decide (p.nextHop = nh)) = [] := by
        simpa [hasValidPath, MultipathRouteEntry.removePath] using hv
      rw [pathsOf_of_find_none (by simp [StdMap.find_erase]), ← hempty]
      exact hc
    · rw [pathsOf_of_find (e := ((e.removePath nh).hasValidPath now).2)
        (by simp [StdMap.find_modify, hf])]
      exact hc

theorem refines_getBestMultipathRoute (h : Refines τ t s) (hτ : τ ≤ now) (d : Ipv4Address)
    (p : PathInfo) : Refines now (t.getBestMultipathRoute now d p).2 s := by
  unfold getBestMultipathRoute
  cases hf : t.multipathTable.find d with
  | none => exact h.mono hτ
  | some e =>
    refine h.rewrite hτ hf ?_
    rw [getBestPath_snd]
    exact ((pathsOf_of_find hf ▸ h d).compact hτ).scored

theorem refines_getAllMultipathRoutes (h : Refines τ t s) (hτ : τ ≤ now) (d : Ipv4Address) :
    Refines now (t.getAllMultipathRoutes now d).2 s := by
  unfold getAllMultipathRoutes
  cases hf : t.multipathTable.find d with
  | none => exact h.mono hτ
  | some e => exact h.rewrite hτ hf ((pathsOf_of_find hf ▸ h d).compact hτ)

theorem refines_hasMultipathRoute (h : Refines τ t s) (hτ : τ ≤ now) (d : Ipv4Address) :
    Refines now (t.hasMultipathRoute now d).2 s := by
  unfold hasMultipathRoute
  cases hf : t.multipathTable.find d with
  | none => exact h.mono hτ
  | some e => exact h.rewrite hτ hf ((pathsOf_of_find hf ▸ h d).compact hτ)

/-- **One call keeps the relation**, moved to the time of the call. -/
theorem step_refines (h : Refines τ t s) (hτ : τ ≤ now) (c : Call)
    (hc : c.lifetimeInRange now = true) : Refines now (step now c t) (s.apply now c) := by
  have hp := refines_purge h hτ
  cases c with
  | addRoute rt => exact hp.of_multipathTable rfl
  | update rt => exact (h.mono hτ).of_multipathTable (modifyEntry_changesOnlyEntry _ _ t).2.2.2.1
  | deleteRoute dst => exact hp.of_multipathTable rfl
  | setEntryState id state =>
    exact (h.mono hτ).of_multipathTable (modifyEntry_changesOnlyEntry _ _ t).2.2.2.1
  | markLinkAsUnidirectional nb timeout =>
    exact (h.mono hτ).of_multipathTable (modifyEntry_changesOnlyEntry _ _ t).2.2.2.1
  | lookupRoute id rt => exact hp.of_multipathTable rfl
  | lookupValidRoute id rt => exact hp.of_multipathTable (by rw [step, lookupValidRoute_snd])
  | getListOfDestinationWithNextHop nh => exact hp.of_multipathTable rfl
  | invalidateRoutesWithDst u => exact hp.of_multipathTable rfl
  | deleteAllRoutesFromInterface iface =>
    exact (h.mono hτ).of_multipathTable (deleteAllRoutesFromInterface_frame iface t).2
  | purge => exact hp
  | addMultipathRoute d nh hc l => exact refines_addMultipathRoute h hτ (of_decide_eq_true hc)
  | removeMultipathRoute d nh => exact refines_removeMultipathRoute h hτ d nh
  | getBestMultipathRoute d p => exact refines_getBestMultipathRoute h hτ d p
  | getAllMultipathRoutes d => exact refines_getAllMultipathRoutes h hτ d
  | hasMultipathRoute d => exact refines_hasMultipathRoute h hτ d
  | purgeMultipathRoutes => exact refines_purgeMultipathRoutes h hτ

/-- **A run at non-decreasing times keeps the relation**, moved to any time
`now` not before its calls. -/
theorem run_refines : ∀ (calls : List (Time × Call)) {τ now : Time} {t : RoutingTable}
    {s : PathStore}, Refines τ t s →
      (∀ c ∈ calls, τ ≤ c.1 ∧ c.1 ≤ now ∧ c.2.lifetimeInRange c.1 = true) →
      (calls.map Prod.fst).Sorted (· ≤ ·) → τ ≤ now → Refines now (run calls t) (s.run calls)
  | [], _, _, _, _, h, _, _, hτ => h.mono hτ
  | c :: cs, _, _, _, _, h, hc, hs, _ => by
    obtain ⟨hc₁, hc₂, hc₃⟩ := hc c (List.mem_cons_self _ _)
    rw [List.map_cons, List.sorted_cons] at hs
    exact run_refines cs (step_refines h hc₁ c.2 hc₃)
      (fun c' hc' => ⟨hs.1 _ (List.mem_map_of_mem _ hc'), (hc c' (List.mem_cons_of_mem _ hc')).2⟩)
      hs.2 hc₂

/-! ### The queries against the store -/

/-- What the multipath queries at `now` report for `d`, read against the live
paths of the store: `GetAllMultipathRoutes` lists each live path once with its
next hop, hop count and expiry, valid, and nothing else; `HasMultipathRoute`
and `GetBestMultipathRoute` find a route exactly when one is live, and the best
path is live with the least hop count. -/
structure AnswersLive (now : Time) (s : PathStore) (d : Ipv4Address) (t : RoutingTable) :
    Prop where
  all_nodup : (nextHops (t.getAllMultipathRoutes now d).1).Nodup
  all_live : ∀ p ∈ (t.getAllMultipathRoutes now d).1,
    p.isValid = true ∧ s.Live d now p.nextHop p.hopCount p.expiryTime.val
  all_complete : ∀ nh h e, s.Live d now nh h e →
    ∃ p ∈ (t.getAllMultipathRoutes now d).1, p.nextHop = nh ∧ p.hopCount = h ∧ p.expiryTime.val = e
  has_iff : (t.hasMultipathRoute now d).1 = true ↔ ∃ nh h e, s.Live d now nh h e
  best_found_iff : ∀ p, (t.getBestMultipathRoute now d p).1.1 = true ↔ ∃ nh h e, s.Live d now nh h e
  best_live : ∀ p, (t.getBestMultipathRoute now d p).1.1 = true →
    s.Live d now (t.getBestMultipathRoute now d p).1.2.nextHop
      (t.getBestMultipathRoute now d p).1.2.hopCount (t.getBestMultipathRoute now d p).1.2.expiryTime.val
  best_least : ∀ p, (t.getBestMultipathRoute now d p).1.1 = true →
    ∀ nh h e, s.Live d now nh h e → (t.getBestMultipathRoute now d p).1.2.hopCount ≤ h

theorem answersLive_of_refines (h : Refines τ t s) (hτ : τ ≤ now) (d : Ipv4Address) :
    AnswersLive now s d t := by
  have hL := getAllMultipathRoutes_fst now t d
  have hR : PathsRefine now (s d) (t.getAllMultipathRoutes now d).1 := hL ▸ (h d).compact hτ
  have hlive : ∀ p ∈ (t.getAllMultipathRoutes now d).1,
      p.isValid = true ∧ s.Live d now p.nextHop p.hopCount p.expiryTime.val := fun p hp =>
    have hx := (mem_removeExpired.1 (hL ▸ hp)).2
    ⟨hR.valid p hp, hR.sound p hp hx, hx⟩
  have hex : (∃ nh h e, s.Live d now nh h e) ↔ (t.getAllMultipathRoutes now d).1 ≠ [] := by
    constructor
    · rintro ⟨nh, hc, e, ha, he⟩
      obtain ⟨p, hp, -⟩ := hR.complete nh hc e ha he
      exact List.ne_nil_of_mem hp
    · intro hne
      obtain ⟨p, hp⟩ := List.exists_mem_of_ne_nil _ hne
      exact ⟨_, _, _, (hlive p hp).2⟩
  have hfound : ∀ p, (t.getBestMultipathRoute now d p).1.1 =
      (bestOf now ((t.getAllMultipathRoutes now d).1.map scorePath)).isValid := fun p => by
    rw [getBestMultipathRoute_found, liveScored_eq_pathsOf, hL]
  have hbest : ∀ p, (t.getBestMultipathRoute now d p).1.1 = true →
      ∃ q ∈ (t.getAllMultipathRoutes now d).1,
        (t.getBestMultipathRoute now d p).1.2 = scorePath q ∧
        ∀ r ∈ (t.getAllMultipathRoutes now d).1, q.hopCount ≤ r.hopCount := fun p hf => by
    have hne : (t.getAllMultipathRoutes now d).1 ≠ [] := fun hnil => by
      rw [hfound, hnil] at hf
      simp [bestOf, PathInfo.default] at hf
    obtain ⟨q, hq, hqe, hmin⟩ := bestOf_map_scorePath now hne
    refine ⟨q, hq, ?_, hmin⟩
    rw [getBestMultipathRoute_path ((getBestMultipathRoute_found ..).symm.trans hf),
      liveScored_eq_pathsOf, ← hL, hqe]
  refine ⟨hR.nodup, hlive, fun nh hc e hl => hR.complete nh hc e hl.1 hl.2, ?_, fun p => ?_,
    fun p hf => ?_, fun p hf => ?_⟩
  · rw [hex, hasMultipathRoute_fst, liveScored_eq_pathsOf, ← hL]
    cases (t.getAllMultipathRoutes now d).1 <;> simp
  · refine ⟨fun hf => hex.2 ?_, fun hl => ?_⟩
    · obtain ⟨q, hq, -⟩ := hbest p hf
      exact List.ne_nil_of_mem hq
    · obtain ⟨q, hq, hqe, -⟩ := bestOf_map_scorePath now (hex.1 hl)
      rw [hfound, hqe]
      exact (hlive q hq).1
  · obtain ⟨q, hq, hqe, -⟩ := hbest p hf
    rw [hqe]
    exact (hlive q hq).2
  · obtain ⟨q, hq, hqe, hmin⟩ := hbest p hf
    intro nh hc e hl
    obtain ⟨r, hr, -, rfl, -⟩ := hR.complete nh hc e hl.1 hl.2
    rw [hqe]
    exact hmin r hr

/-- **The multipath table refines the store of live paths.**  From a new table,
after any run of the table's calls at non-decreasing times, each before `now`
and each keeping `now + lifetime` inside `Time`, the multipath queries at `now`
report the live paths of the store that took the same calls. -/
theorem multipath_refines_live_store (badLinkLifetime : Time) (calls : List (Time × Call))
    (now : Time) (hsorted : (calls.map Prod.fst).Sorted (· ≤ ·))
    (hnow : ∀ c ∈ calls, c.1 ≤ now) (hrange : ∀ c ∈ calls, c.2.lifetimeInRange c.1 = true)
    (d : Ipv4Address) :
    AnswersLive now (PathStore.empty.run calls) d (run calls (mk' badLinkLifetime)) :=
  answersLive_of_refines (run_refines calls (refines_mk' ⟨-2 ^ 63, by decide⟩ badLinkLifetime)
    (fun c hc => ⟨c.1.lo, hnow c hc, hrange c hc⟩) hsorted now.lo) le_rfl d

theorem multipath_refines_live_store_add_remove :
    let calls : List (Time × Call) :=
      [(default, .addMultipathRoute 1 2 3 (Time.seconds 10)),
        (Time.seconds 1, .addMultipathRoute 1 4 1 (Time.seconds 10)),
        (Time.seconds 2, .removeMultipathRoute 1 2)]
    (calls.map Prod.fst).Sorted (· ≤ ·) ∧ (∀ c ∈ calls, c.1 ≤ Time.seconds 3) ∧
      (∀ c ∈ calls, c.2.lifetimeInRange c.1 = true) ∧
      AnswersLive (Time.seconds 3) (PathStore.empty.run calls) 1 (run calls (mk' (Time.seconds 3))) :=
  ⟨by decide, by decide, by decide,
    multipath_refines_live_store _ _ _ (by decide) (by decide) (by decide) 1⟩

/-! ### Entries under their destination -/

/-- Every entry of the multipath map is stored under its own destination. -/
def KeyedByDestination (t : RoutingTable) : Prop :=
  ∀ d e, t.multipathTable.find d = some e → e.destination = d

namespace KeyedByDestination

theorem of_multipathTable (h : KeyedByDestination t) (ht : t'.multipathTable = t.multipathTable) :
    KeyedByDestination t' := by
  unfold KeyedByDestination; rw [ht]; exact h

/-- Rewriting the entry for `d` into one with destination `d`. -/
theorem modify (h : KeyedByDestination t) {d : Ipv4Address}
    {f : MultipathRouteEntry → MultipathRouteEntry}
    (hf : ∀ e, t.multipathTable.find d = some e → (f e).destination = d) :
    KeyedByDestination { t with multipathTable := t.multipathTable.modify d f } := by
  intro d' e' he'
  simp only [StdMap.find_modify] at he'
  by_cases hd : d' = d
  · subst hd
    rw [if_pos rfl] at he'
    obtain ⟨e, he, rfl⟩ := Option.map_eq_some'.1 he'
    exact hf e he
  · rw [if_neg hd] at he'
    exact h d' e' he'

theorem assign (h : KeyedByDestination t) {d : Ipv4Address} {e₀ : MultipathRouteEntry}
    (he : e₀.destination = d) :
    KeyedByDestination { t with multipathTable := t.multipathTable.assign d e₀ } := by
  intro d' e' he'
  simp only [StdMap.find_assign] at he'
  by_cases hd : d' = d
  · rw [if_pos hd] at he'
    cases he'
    exact he.trans hd.symm
  · rw [if_neg hd] at he'
    exact h d' e' he'

theorem erase (h : KeyedByDestination t) (d : Ipv4Address) :
    KeyedByDestination { t with multipathTable := (t.multipathTable.erase d).1 } := by
  intro d' e' he'
  simp only [StdMap.find_erase] at he'
  by_cases hd : d' = d
  · rw [if_pos hd] at he'; cases he'
  · rw [if_neg hd] at he'; exact h d' e' he'

theorem purgeMultipathRoutes (h : KeyedByDestination t) (now : Time) :
    KeyedByDestination (t.purgeMultipathRoutes now) := by
  intro d e' he'
  simp only [RoutingTable.purgeMultipathRoutes, StdMap.find_sweep] at he'
  obtain ⟨e, he, hp⟩ := Option.bind_eq_some.1 he'
  rw [purgeMultipathEntry_eq] at hp
  split at hp
  · cases hp
  · cases hp; exact h d e he

theorem purge (h : KeyedByDestination t) (now : Time) : KeyedByDestination (t.purge now) := by
  by_cases hu : t.ipv4AddressEntry.isEmpty
  · rw [purge_of_isEmpty hu]; exact h
  · exact (h.purgeMultipathRoutes now).of_multipathTable (by rw [purge_of_not_isEmpty hu]; rfl)

end KeyedByDestination

/-- Each call keeps the multipath map keyed by destination. -/
theorem step_keyedByDestination (now : Time) (c : Call) (h : KeyedByDestination t) :
    KeyedByDestination (step now c t) := by
  have hp := h.purge now
  cases c with
  | addRoute rt => exact hp.of_multipathTable rfl
  | update rt => exact h.of_multipathTable (modifyEntry_changesOnlyEntry _ _ t).2.2.2.1
  | deleteRoute dst => exact hp.of_multipathTable rfl
  | setEntryState id state => exact h.of_multipathTable (modifyEntry_changesOnlyEntry _ _ t).2.2.2.1
  | markLinkAsUnidirectional nb timeout =>
    exact h.of_multipathTable (modifyEntry_changesOnlyEntry _ _ t).2.2.2.1
  | lookupRoute id rt => exact hp.of_multipathTable rfl
  | lookupValidRoute id rt => exact hp.of_multipathTable (by rw [step, lookupValidRoute_snd])
  | getListOfDestinationWithNextHop nh => exact hp.of_multipathTable rfl
  | invalidateRoutesWithDst u => exact hp.of_multipathTable rfl
  | deleteAllRoutesFromInterface iface =>
    exact h.of_multipathTable (deleteAllRoutesFromInterface_frame iface t).2
  | purge => exact hp
  | addMultipathRoute d nh hc l =>
    show KeyedByDestination (t.addMultipathRoute now d nh hc l).2
    unfold addMultipathRoute
    split
    · exact h.assign (MultipathRouteEntry.addPath_destination ..)
    · exact h.modify fun e he => (MultipathRouteEntry.addPath_destination ..).trans (h d e he)
  | removeMultipathRoute d nh =>
    show KeyedByDestination (t.removeMultipathRoute now d nh).2
    unfold removeMultipathRoute
    split
    · exact h
    · rename_i e he
      dsimp only
      split
      · exact h.erase d
      · exact h.modify fun _ _ => h d e he
  | getBestMultipathRoute d p =>
    show KeyedByDestination (t.getBestMultipathRoute now d p).2
    unfold getBestMultipathRoute
    split
    · exact h
    · rename_i e he
      exact h.modify fun _ _ => by rw [getBestPath_snd]; exact h d e he
  | getAllMultipathRoutes d =>
    show KeyedByDestination (t.getAllMultipathRoutes now d).2
    unfold getAllMultipathRoutes
    split
    · exact h
    · rename_i e he
      exact h.modify fun _ _ => h d e he
  | hasMultipathRoute d =>
    show KeyedByDestination (t.hasMultipathRoute now d).2
    unfold hasMultipathRoute
    split
    · exact h
    · rename_i e he
      exact h.modify fun _ _ => h d e he
  | purgeMultipathRoutes => exact h.purgeMultipathRoutes now

theorem run_keyedByDestination : ∀ (calls : List (Time × Call)) {t : RoutingTable},
    KeyedByDestination t → KeyedByDestination (run calls t)
  | [], _, h => h
  | c :: cs, _, h => run_keyedByDestination cs (step_keyedByDestination c.1 c.2 h)

/-- **The multipath map is keyed by destination.**  Along every sequence of the
table's calls from a new table, each multipath entry found under `d` is the
entry for destination `d`. -/
theorem multipath_entries_keyed_by_destination (badLinkLifetime : Time)
    (calls : List (Time × Call)) (d : Ipv4Address) (e : MultipathRouteEntry)
    (he : (run calls (mk' badLinkLifetime)).multipathTable.find d = some e) :
    e.destination = d :=
  run_keyedByDestination calls (fun _ _ h => by simp [mk', StdMap.find] at h) d e he

theorem multipath_entries_keyed_by_destination_one_add :
    (run [(default, .addMultipathRoute 1 2 3 (Time.seconds 10))] (mk' (Time.seconds 3))).multipathTable.find 1 =
        some ((MultipathRouteEntry.mk' 1).addPath default 2 3 (Time.seconds 10)) ∧
      ((MultipathRouteEntry.mk' 1).addPath default 2 3 (Time.seconds 10)).destination = 1 := by
  have h := multipath_entries_keyed_by_destination (Time.seconds 3)
    [(default, .addMultipathRoute 1 2 3 (Time.seconds 10))] 1
  refine ⟨?_, h _ ?_⟩ <;> decide

end RoutingTable

end Aodv

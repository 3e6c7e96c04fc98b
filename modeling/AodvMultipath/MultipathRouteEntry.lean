/-
The multipath entry of `aodv-rtable.cc` (`MultipathRouteEntry`).

An entry is a destination and a vector of candidate paths (`PathInfo`).  The
queries and `AddPath(nextHop, hopCount, lifetime)` first erase the paths whose
expiry is not after the clock (`removeExpired`, the `remove_if`/`erase` pair);
`AddPath` then updates the path through `nextHop` in place or appends a new
one.  `GetBestPath` caches each surviving path's composite score and returns
the first path of least hop count — the score is computed and not used.

* `mem_removeExpired` — what the expiry filter keeps;
* `addPath_paths` — everything `AddPath(nextHop, ...)` can do to the paths;
* `addPath_nodup` — that overload keeps one path per next hop;
* `getBestPath_fst` — the path `GetBestPath` returns: a live path of least
  hop count, valid or not (`getBestPath_prefers_invalid_path`).

Design notes: `double` fields are exact rationals.  The default constructor of
`WeightFactors` is declared in the absent `aodv-rtable.h`; see
`WeightFactors.default`.
-/
import AodvMultipath.Time
import Mathlib.Algebra.Order.Field.Rat
import Mathlib.Data.List.Nodup

namespace Aodv

open Ns3

/-- `BLEMetrics` of `aodv-rtable`: the link-quality signals of one path. -/
structure BLEMetrics where
  residualEnergy : ℚ
  rssiValue : ℚ
  stabilityScore : ℚ
  hopCount : Nat
  lastUpdated : Time
deriving DecidableEq, Repr

/-- `BLEMetrics()`, constructed at time `now`. -/
def BLEMetrics.default (now : Time) : BLEMetrics := ⟨1, -50, 1, 1, now⟩

/-- `WeightFactors`: the weights of the four metrics in the composite score. -/
structure WeightFactors where
  hopWeight : ℚ
  energyWeight : ℚ
  rssiWeight : ℚ
  stabilityWeight : ℚ
deriving DecidableEq, Repr

/-- Modelled from the spec: `WeightFactors()` is declared in the absent
`aodv-rtable.h`.  The spec's fallback weighting, and the copy of the class in
the scratch program, give each weight 0.25. -/
def WeightFactors.default : WeightFactors := ⟨1 / 4, 1 / 4, 1 / 4, 1 / 4⟩

/-- `MultipathRouteEntry::PathInfo`: one candidate next hop. -/
structure PathInfo where
  nextHop : Ipv4Address
  hopCount : Nat
  expiryTime : Time
  pathQuality : ℚ
  isValid : Bool
  compositeScore : ℚ
  lastUsed : Time
  usageCount : Nat
  bleMetrics : BLEMetrics
deriving DecidableEq, Repr

namespace PathInfo

/-- `PathInfo()`, constructed at time `now`: the "no path" value, `isValid = false`. -/
def default (now : Time) : PathInfo :=
  ⟨Ipv4Address.default, 0, Inhabited.default, 0, false, 0, now, 0, BLEMetrics.default now⟩

/-- `CalculateCompositeScore(weights)`. -/
def calculateCompositeScore (weights : WeightFactors) (p : PathInfo) : ℚ :=
  let hopScore := 1 / (1 + (p.hopCount : ℚ))
  let energyScore := p.bleMetrics.residualEnergy
  let rssiScore := max 0 (min 1 ((p.bleMetrics.rssiValue + 100) / 70))
  let stabilityScore := p.bleMetrics.stabilityScore
  weights.hopWeight * hopScore + weights.energyWeight * energyScore +
    weights.rssiWeight * rssiScore + weights.stabilityWeight * stabilityScore

/-- `UpdateStabilityScore(successfulTransmission)` at time `now`. -/
def updateStabilityScore (now : Time) (successfulTransmission : Bool) (p : PathInfo) :
    PathInfo :=
  let stabilityFactor : ℚ := 1 / 10
  let reward : ℚ := if successfulTransmission then 1 else 0
  { p with
    bleMetrics := { p.bleMetrics with
      stabilityScore := (1 - stabilityFactor) * p.bleMetrics.stabilityScore +
        stabilityFactor * reward }
    usageCount := p.usageCount + 1
    lastUsed := now }

end PathInfo

/-- `MultipathRouteEntry`: a destination and its candidate paths, in order. -/
structure MultipathRouteEntry where
  destination : Ipv4Address
  paths : List PathInfo
deriving DecidableEq, Repr

namespace MultipathRouteEntry

/-- `MultipathRouteEntry(destination)`. -/
def mk' (destination : Ipv4Address) : MultipathRouteEntry := ⟨destination, []⟩

/-- `m_paths.erase(remove_if(..., expiryTime <= now), end)`. -/
def removeExpired (now : Time) (paths : List PathInfo) : List PathInfo :=
  paths.filter fun p => !decide (p.expiryTime ≤ now)

/-- The loop of `AddPath` over the existing paths: the first path through
`nextHop` gets the new hop count and expiry and is marked valid; `none` when
no path goes through `nextHop`. -/
def updateExisting (nextHop : Ipv4Address) (hopCount : Nat) (expiry : Time) :
    List PathInfo → Option (List PathInfo)
  | [] => none
  | path :: rest =>
    if path.nextHop = nextHop then
      some ({ path with hopCount := hopCount, expiryTime := expiry, isValid := true } :: rest)
    else (updateExisting nextHop hopCount expiry rest).map (path :: ·)

/-- The path `AddPath` appends: a `PathInfo()` given the call's next hop, hop
count and expiry, quality 1 and marked valid. -/
def newPath (now : Time) (nextHop : Ipv4Address) (hopCount : Nat) (lifetime : Time) :
    PathInfo :=
  { PathInfo.default now with
    nextHop := nextHop, hopCount := hopCount, expiryTime := now + lifetime,
    pathQuality := 1, isValid := true }

/-- `AddPath(nextHop, hopCount, lifetime)` at time `now`. -/
def addPath (now : Time) (nextHop : Ipv4Address) (hopCount : Nat) (lifetime : Time)
    (e : MultipathRouteEntry) : MultipathRouteEntry :=
  let paths := removeExpired now e.paths
  match updateExisting nextHop hopCount (now + lifetime) paths with
  | some paths' => { e with paths := paths' }
  | none => { e with paths := paths ++ [newPath now nextHop hopCount lifetime] }

/-- `AddPath(const PathInfo&)`: appends the path as given. -/
def addPathInfo (pathInfo : PathInfo) (e : MultipathRouteEntry) : MultipathRouteEntry :=
  { e with paths := e.paths ++ [pathInfo] }

/-- `RemovePath(nextHop)`. -/
def removePath (nextHop : Ipv4Address) (e : MultipathRouteEntry) : MultipathRouteEntry :=
  { e with paths := e.paths.filter fun p => !decide (p.nextHop = nextHop) }

/-- `std::min_element` by hop count: the first path of least hop count. -/
def minElement : PathInfo → List PathInfo → PathInfo
  | best, [] => best
  | best, p :: rest => minElement (if p.hopCount < best.hopCount then p else best) rest

/-- The body of the scoring loop of `GetBestPath`:
`path.compositeScore = path.CalculateCompositeScore(weights)` with the default weights. -/
def scorePath (path : PathInfo) : PathInfo :=
  { path with compositeScore := path.calculateCompositeScore WeightFactors.default }

/-- `GetBestPath()` at time `now`: the returned path and the entry it leaves
(expired paths erased, every composite score cached).  Scoring an empty list
changes nothing, so matching on the scored list is the `m_paths.empty()` test. -/
def getBestPath (now : Time) (e : MultipathRouteEntry) : PathInfo × MultipathRouteEntry :=
  match (removeExpired now e.paths).map scorePath with
  | [] => (PathInfo.default now, { e with paths := [] })
  | p :: rest => (minElement p rest, { e with paths := p :: rest })

/-- `GetAllPaths()` at time `now`. -/
def getAllPaths (now : Time) (e : MultipathRouteEntry) : List PathInfo × MultipathRouteEntry :=
  (removeExpired now e.paths, { e with paths := removeExpired now e.paths })

/-- `HasValidPath()` at time `now`. -/
def hasValidPath (now : Time) (e : MultipathRouteEntry) : Bool × MultipathRouteEntry :=
  (!(removeExpired now e.paths).isEmpty, { e with paths := removeExpired now e.paths })

/-! ### The expiry filter and the update loop -/

/-- The next hops of a list of paths. -/
abbrev nextHops (paths : List PathInfo) : List Ipv4Address := paths.map (·.nextHop)

@[simp] theorem mem_removeExpired {now : Time} {ps : List PathInfo} {p : PathInfo} :
    p ∈ removeExpired now ps ↔ p ∈ ps ∧ now < p.expiryTime := by
  simp [removeExpired]

theorem removeExpired_sublist (now : Time) (ps : List PathInfo) :
    List.Sublist (removeExpired now ps) ps := List.filter_sublist _

/-- The path `AddPath` leaves in place of an existing path through `nextHop`. -/
def refreshPath (nextHop : Ipv4Address) (hopCount : Nat) (expiry : Time) (p : PathInfo) :
    PathInfo :=
  if p.nextHop = nextHop then { p with hopCount := hopCount, expiryTime := expiry, isValid := true }
  else p

@[simp] theorem refreshPath_nextHop (nh : Ipv4Address) (h : Nat) (x : Time) (p : PathInfo) :
    (refreshPath nh h x p).nextHop = p.nextHop := by
  unfold refreshPath; split <;> rfl

theorem refreshPath_of_eq {nh : Ipv4Address} {h : Nat} {x : Time} {p : PathInfo}
    (hp : p.nextHop = nh) :
    refreshPath nh h x p = { p with hopCount := h, expiryTime := x, isValid := true } := if_pos hp

theorem refreshPath_of_ne {nh : Ipv4Address} {h : Nat} {x : Time} {p : PathInfo}
    (hp : p.nextHop ≠ nh) : refreshPath nh h x p = p := if_neg hp

theorem updateExisting_eq_none {nh : Ipv4Address} {h : Nat} {x : Time} :
    ∀ {ps : List PathInfo}, updateExisting nh h x ps = none ↔ nh ∉ nextHops ps
  | [] => by simp [updateExisting]
  | p :: rest => by
    unfold updateExisting
    split
    · simp_all
    · rename_i hp
      simp only [Option.map_eq_none', updateExisting_eq_none, List.map_cons, List.mem_cons]
      exact ⟨fun h' h'' => h''.elim (fun e => hp e.symm) h', fun h' h'' => h' (Or.inr h'')⟩

/-- On a list with one path per next hop, the update loop refreshes the path
through `nh` and leaves the others. -/
theorem updateExisting_eq_some {nh : Ipv4Address} {h : Nat} {x : Time} :
    ∀ {ps : List PathInfo}, (nextHops ps).Nodup → nh ∈ nextHops ps →
      updateExisting nh h x ps = some (ps.map (refreshPath nh h x))
  | [], _, hm => by simp at hm
  | p :: rest, hnd, hm => by
    simp only [nextHops, List.map_cons, List.nodup_cons] at hnd
    unfold updateExisting
    split
    · rename_i hp
      have hrest : rest.map (refreshPath nh h x) = rest := by
        refine (List.map_congr_left fun q hq => ?_).trans (List.map_id rest)
        exact if_neg fun e => hnd.1 (List.mem_map.2 ⟨q, hq, e.trans hp.symm⟩)
      simp [refreshPath, hp, hrest]
    · rename_i hp
      have hm' : nh ∈ nextHops rest := by
        simp only [nextHops, List.map_cons, List.mem_cons] at hm
        exact hm.resolve_left fun e => hp e.symm
      simp [updateExisting_eq_some hnd.2 hm', refreshPath, hp]

/-- Everything `AddPath(nextHop, ...)` can do to a list with one path per next
hop: refresh the live path through `nextHop`, or append a new one. -/
theorem addPath_paths {now : Time} {nh : Ipv4Address} {h : Nat} {lt : Time}
    {e : MultipathRouteEntry} (hnd : (nextHops e.paths).Nodup) :
    (addPath now nh h lt e).paths =
      if nh ∈ nextHops (removeExpired now e.paths) then
        (removeExpired now e.paths).map (refreshPath nh h (now + lt))
      else removeExpired now e.paths ++ [newPath now nh h lt] := by
  have hnd' := hnd.sublist ((removeExpired_sublist now e.paths).map _)
  unfold addPath
  split
  · rename_i hm
    simp only [updateExisting_eq_some hnd' hm]
  · rename_i hm
    simp only [(updateExisting_eq_none).2 hm]

@[simp] theorem addPath_destination (now : Time) (nh : Ipv4Address) (h : Nat) (lt : Time)
    (e : MultipathRouteEntry) : (addPath now nh h lt e).destination = e.destination := by
  simp only [addPath]; split <;> rfl

/-- `AddPath(nextHop, ...)` keeps one path per next hop. -/
theorem addPath_nodup {now : Time} {nh : Ipv4Address} {h : Nat} {lt : Time}
    {e : MultipathRouteEntry} (hnd : (nextHops e.paths).Nodup) :
    (nextHops (addPath now nh h lt e).paths).Nodup := by
  have hnd' := hnd.sublist ((removeExpired_sublist now e.paths).map _)
  rw [addPath_paths hnd]
  split
  · simpa [Function.comp_def] using hnd'
  · rename_i hm
    simpa [List.nodup_append, newPath, hm] using hnd'

/-- The update loop leaves a path with the new expiry, and every path it
leaves is an old one or marked valid. -/
theorem updateExisting_some {nh : Ipv4Address} {h : Nat} {x : Time} :
    ∀ {ps ps' : List PathInfo}, updateExisting nh h x ps = some ps' →
      (∃ p ∈ ps', p.expiryTime = x) ∧ ∀ q ∈ ps', q ∈ ps ∨ q.isValid = true
  | [], _, hu => by cases hu
  | q :: rest, ps', hu => by
    unfold updateExisting at hu
    split at hu
    · cases hu
      refine ⟨⟨_, List.mem_cons_self _ _, rfl⟩, fun r hr => ?_⟩
      rcases List.mem_cons.1 hr with rfl | hr
      · exact Or.inr rfl
      · exact Or.inl (List.mem_cons_of_mem _ hr)
    · obtain ⟨rest', hu', rfl⟩ := Option.map_eq_some'.1 hu
      obtain ⟨⟨p, hp, hpx⟩, hq⟩ := updateExisting_some hu'
      refine ⟨⟨p, List.mem_cons_of_mem _ hp, hpx⟩, fun r hr => ?_⟩
      rcases List.mem_cons.1 hr with rfl | hr
      · exact Or.inl (List.mem_cons_self _ _)
      · exact (hq r hr).imp_left (List.mem_cons_of_mem _)

/-- `AddPath(nextHop, hopCount, lifetime)` leaves a path expiring at
`now + lifetime`, and every path it leaves is an old one or marked valid. -/
theorem addPath_live (now : Time) (nh : Ipv4Address) (h : Nat) (lt : Time)
    (e : MultipathRouteEntry) :
    (∃ p ∈ (addPath now nh h lt e).paths, p.expiryTime = now + lt) ∧
      ∀ q ∈ (addPath now nh h lt e).paths, q ∈ e.paths ∨ q.isValid = true := by
  cases hu : updateExisting nh h (now + lt) (removeExpired now e.paths) with
  | some paths' =>
    simp only [addPath, hu]
    obtain ⟨hp, hq⟩ := updateExisting_some hu
    exact ⟨hp, fun q hq' => (hq q hq').imp_left fun h => (mem_removeExpired.1 h).1⟩
  | none =>
    simp only [addPath, hu]
    refine ⟨⟨_, List.mem_append_right _ (List.mem_singleton_self _), rfl⟩, fun q hq => ?_⟩
    rcases List.mem_append.1 hq with hq | hq
    · exact Or.inl (mem_removeExpired.1 hq).1
    · rw [List.mem_singleton.1 hq]; exact Or.inr rfl

@[simp] theorem removePath_destination (nh : Ipv4Address) (e : MultipathRouteEntry) :
    (removePath nh e).destination = e.destination := rfl

theorem removePath_sublist (nh : Ipv4Address) (e : MultipathRouteEntry) :
    List.Sublist (removePath nh e).paths e.paths := List.filter_sublist _

@[simp] theorem mem_removePath {nh : Ipv4Address} {e : MultipathRouteEntry} {p : PathInfo} :
    p ∈ (removePath nh e).paths ↔ p ∈ e.paths ∧ p.nextHop ≠ nh := by
  simp [removePath]

theorem removeExpired_removeExpired (now : Time) (ps : List PathInfo) :
    removeExpired now (removeExpired now ps) = removeExpired now ps := by
  simp [removeExpired, List.filter_filter]

/-! ### `GetBestPath` -/

@[simp] theorem scorePath_nextHop (p : PathInfo) : (scorePath p).nextHop = p.nextHop := rfl
@[simp] theorem scorePath_hopCount (p : PathInfo) : (scorePath p).hopCount = p.hopCount := rfl
@[simp] theorem scorePath_expiryTime (p : PathInfo) :
    (scorePath p).expiryTime = p.expiryTime := rfl
@[simp] theorem scorePath_isValid (p : PathInfo) : (scorePath p).isValid = p.isValid := rfl
@[simp] theorem scorePath_scorePath (p : PathInfo) : scorePath (scorePath p) = scorePath p := rfl

theorem removeExpired_map_scorePath (now : Time) (ps : List PathInfo) :
    removeExpired now (ps.map scorePath) = (removeExpired now ps).map scorePath := by
  simp [removeExpired, List.filter_map, Function.comp_def]

theorem minElement_mem : ∀ (b : PathInfo) (l : List PathInfo), minElement b l ∈ b :: l
  | b, [] => List.mem_singleton_self b
  | b, p :: rest => by
    unfold minElement
    rcases List.mem_cons.1
      (minElement_mem (if p.hopCount < b.hopCount then p else b) rest) with h | h
    · rw [h]; split <;> simp
    · exact List.mem_cons_of_mem _ (List.mem_cons_of_mem _ h)

theorem minElement_le : ∀ (b : PathInfo) (l : List PathInfo),
    ∀ q ∈ b :: l, (minElement b l).hopCount ≤ q.hopCount
  | b, [], q, hq => by rw [List.mem_singleton.1 hq]; rfl
  | b, p :: rest, q, hq => by
    unfold minElement
    have ih := minElement_le (if p.hopCount < b.hopCount then p else b) rest
    have hb : (if p.hopCount < b.hopCount then p else b).hopCount ≤ b.hopCount ∧
        (if p.hopCount < b.hopCount then p else b).hopCount ≤ p.hopCount := by
      split <;> omega
    rcases List.mem_cons.1 hq with rfl | hq
    · exact le_trans (ih _ (List.mem_cons_self _ _)) hb.1
    · rcases List.mem_cons.1 hq with rfl | hq
      · exact le_trans (ih _ (List.mem_cons_self _ _)) hb.2
      · exact ih q (List.mem_cons_of_mem _ hq)

/-- The entry `GetBestPath` leaves: the live paths, each with its score cached. -/
theorem getBestPath_snd (now : Time) (e : MultipathRouteEntry) :
    (getBestPath now e).2 = { e with paths := (removeExpired now e.paths).map scorePath } := by
  unfold getBestPath; split <;> simp_all

/-- The path `GetBestPath` returns: `PathInfo()` when no path is live, else a
live path of least hop count, with its score cached. -/
theorem getBestPath_fst (now : Time) (e : MultipathRouteEntry) :
    (removeExpired now e.paths = [] ∧ (getBestPath now e).1 = PathInfo.default now) ∨
      ∃ p ∈ removeExpired now e.paths, (getBestPath now e).1 = scorePath p ∧
        ∀ q ∈ removeExpired now e.paths, p.hopCount ≤ q.hopCount := by
  unfold getBestPath
  split
  · rename_i h; exact Or.inl ⟨List.map_eq_nil_iff.1 h, rfl⟩
  · rename_i p rest h
    right
    obtain ⟨p₀, hp₀, hbest⟩ := List.mem_map.1 (h ▸ minElement_mem p rest)
    refine ⟨p₀, hp₀, hbest.symm, fun q hq => ?_⟩
    have := minElement_le p rest (scorePath q) (h ▸ List.mem_map_of_mem _ hq)
    rwa [← hbest, scorePath_hopCount, scorePath_hopCount] at this

/-- `GetBestPath` takes the least hop count over every unexpired path, valid
or not: a record added by `AddPath(const PathInfo&)` with the default
`isValid = false` and one hop beats a valid path of three hops, so the entry
answers "no valid path" although it holds one. -/
theorem getBestPath_prefers_invalid_path :
    let e : MultipathRouteEntry := ((mk' 3).addPathInfo { PathInfo.default default with
        nextHop := 1, hopCount := 1, expiryTime := Time.seconds 10 }).addPath
      default 2 3 (Time.seconds 10)
    (∃ p ∈ e.paths, p.isValid = true ∧ Time.seconds 1 < p.expiryTime) ∧
      (getBestPath (Time.seconds 1) e).1.isValid = false := by
  decide

/-- `AddPath(const PathInfo&)` does not look for the path's next hop: adding a
path twice to a fresh entry leaves two paths through one next hop, and
`GetAllPaths` lists both. -/
theorem addPathInfo_duplicates_nextHop :
    let p : PathInfo := { PathInfo.default default with
      nextHop := 2, expiryTime := Time.seconds 10, isValid := true }
    let e := (mk' 3).addPathInfo p |>.addPathInfo p
    ¬ (nextHops (getAllPaths default e).1).Nodup := by
  decide

end MultipathRouteEntry

end Aodv

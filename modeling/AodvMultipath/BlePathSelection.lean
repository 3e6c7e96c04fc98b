/-
The multi-metric path-selection engine of the BLE-MAODV program
(`MultipathRouteEntry` of `scratch/ble-maodv-comprehensive-test.cc`).

Paths are kept in insertion order.  `AddPath(path)` replaces the path with the
same next hop in place or appends; `GetBestPath(weights)` scores every valid,
unexpired path (caching the score in the stored path) and keeps the first of
strictly greatest score, starting from the sentinel `PathInfo()` at score −1;
`PerformMaintenance()` erases the paths with `IsExpired()`, which holds past
the expiry time or below quality 0.3.

* `getBestPathLoop_spec` — the selection loop returns its start value when no
  candidate beats the start score, and otherwise the first candidate of
  greatest score;
* `calculateCompositeScore_nonneg` — with non-negative weights, energy and
  stability every score is at least 0, above the start score −1.
-/
import AodvMultipath.BleMetrics
import Mathlib.Tactic.Linarith
import Mathlib.Tactic.NormNum
import Mathlib.Tactic.Positivity

namespace BleMaodv

open Ns3

/-- `MultipathRouteEntry::PathInfo`. -/
structure PathInfo where
  nextHop : Ipv4Address
  hopCount : Nat
  bleMetrics : BLEMetrics
  expiryTime : Time
  isValid : Bool
  compositeScore : ℚ
  lastUsed : Time
  usageCount : Nat
  pathQuality : ℚ
deriving DecidableEq, Repr

namespace PathInfo

/-- `PathInfo()`, constructed at time `now`: the "no path" value, `isValid = false`. -/
def default (now : Time) : PathInfo :=
  ⟨Ipv4Address.default, 0, BLEMetrics.default now, Inhabited.default, false, 0, now, 0, 1⟩

/-- The score `CalculateCompositeScore(weights)` returns. -/
def score (weights : WeightFactors) (p : PathInfo) : ℚ :=
  let hopScore := 1 / (1 + (p.hopCount : ℚ))
  let energyScore := p.bleMetrics.residualEnergy
  let rssiScore := p.bleMetrics.getNormalizedRSSI
  let stabilityScore := p.bleMetrics.stabilityScore
  hopScore * weights.hopWeight + energyScore * weights.energyWeight +
    rssiScore * weights.rssiWeight + stabilityScore * weights.stabilityWeight

/-- `CalculateCompositeScore(weights)`: the score, and the path with the score
stored in `compositeScore`. -/
def calculateCompositeScore (weights : WeightFactors) (p : PathInfo) : ℚ × PathInfo :=
  (p.score weights, { p with compositeScore := p.score weights })

/-- `UpdatePathQuality(successful)` at time `now`. -/
def updatePathQuality (now : Time) (successful : Bool) (p : PathInfo) : PathInfo :=
  let adjustment : ℚ := if successful then 2 / 100 else -5 / 100
  let p := { p with pathQuality := max (1 / 10) (min 1 (p.pathQuality + adjustment)) }
  let p := if successful then
      { p with usageCount := (p.usageCount + 1) % 2 ^ 32, lastUsed := now } else p
  { p with bleMetrics := p.bleMetrics.updateTransmission now successful }

@[simp] theorem updatePathQuality_nextHop (now : Time) (successful : Bool) (p : PathInfo) :
    (p.updatePathQuality now successful).nextHop = p.nextHop := by
  unfold updatePathQuality; split <;> rfl

/-- `IsExpired()` at time `now`. -/
def isExpired (now : Time) (p : PathInfo) : Bool :=
  decide (now > p.expiryTime) || decide (p.pathQuality < 3 / 10)

/-- `NeedsMaintenance()`. -/
def needsMaintenance (p : PathInfo) : Bool :=
  decide (p.pathQuality < 6 / 10) || decide (p.bleMetrics.stabilityScore < 1 / 2)

/-- The test `path.isValid && !path.IsExpired()` of `GetBestPath`. -/
def isCandidate (now : Time) (p : PathInfo) : Bool := p.isValid && !p.isExpired now

end PathInfo

/-- `MultipathRouteEntry` of the path-selection engine. -/
structure MultipathRouteEntry where
  destination : Ipv4Address
  paths : List PathInfo
  lastMaintenance : Time
deriving DecidableEq, Repr

namespace MultipathRouteEntry

/-- `MultipathRouteEntry(dst)`, constructed at time `now`. -/
def mk' (now : Time) (dst : Ipv4Address) : MultipathRouteEntry := ⟨dst, [], now⟩

/-- The loop of `AddPath`: the first path through `path.nextHop` becomes
`path`; `none` when there is none. -/
def replaceExisting (path : PathInfo) : List PathInfo → Option (List PathInfo)
  | [] => none
  | existingPath :: rest =>
    if existingPath.nextHop = path.nextHop then some (path :: rest)
    else (replaceExisting path rest).map (existingPath :: ·)

/-- `AddPath(path)`. -/
def addPath (path : PathInfo) (e : MultipathRouteEntry) : MultipathRouteEntry :=
  match replaceExisting path e.paths with
  | some paths => { e with paths := paths }
  | none => { e with paths := e.paths ++ [path] }

/-- The loop of `GetBestPath(weights)` from `bestPath` at `bestScore`: the
path it returns, and the paths with the candidates' scores cached. -/
def getBestPathLoop (now : Time) (weights : WeightFactors) :
    PathInfo → ℚ → List PathInfo → PathInfo × List PathInfo
  | bestPath, _, [] => (bestPath, [])
  | bestPath, bestScore, path :: rest =>
    if path.isValid && !path.isExpired now then
      let r := path.calculateCompositeScore weights
      if r.1 > bestScore then
        let l := getBestPathLoop now weights r.2 r.1 rest
        (l.1, r.2 :: l.2)
      else
        let l := getBestPathLoop now weights bestPath bestScore rest
        (l.1, r.2 :: l.2)
    else
      let l := getBestPathLoop now weights bestPath bestScore rest
      (l.1, path :: l.2)

/-- `GetBestPath(weights)` at time `now`. -/
def getBestPath (now : Time) (weights : WeightFactors) (e : MultipathRouteEntry) :
    PathInfo × MultipathRouteEntry :=
  let r := getBestPathLoop now weights (PathInfo.default now) (-1) e.paths
  (r.1, { e with paths := r.2 })

/-- `GetAllPaths()`. -/
def getAllPaths (e : MultipathRouteEntry) : List PathInfo := e.paths

/-- `PerformMaintenance()` at time `now`. -/
def performMaintenance (now : Time) (e : MultipathRouteEntry) : MultipathRouteEntry :=
  { e with paths := e.paths.filter (fun p => !p.isExpired now), lastMaintenance := now }

/-- `NeedsMaintenance()` at time `now`. -/
def needsMaintenance (now : Time) (e : MultipathRouteEntry) : Bool :=
  e.paths.any (·.needsMaintenance) || decide ((now - e.lastMaintenance) > Time.seconds 10)

/-- The loop of `UpdatePathPerformance`: the first path through `nextHop` is updated. -/
def updateFirst (now : Time) (nextHop : Ipv4Address) (success : Bool) :
    List PathInfo → List PathInfo
  | [] => []
  | path :: rest =>
    if path.nextHop = nextHop then path.updatePathQuality now success :: rest
    else path :: updateFirst now nextHop success rest

/-- `UpdatePathPerformance(nextHop, success)` at time `now`. -/
def updatePathPerformance (now : Time) (nextHop : Ipv4Address) (success : Bool)
    (e : MultipathRouteEntry) : MultipathRouteEntry :=
  { e with paths := updateFirst now nextHop success e.paths }

/-! ### The selection loop -/

@[simp] theorem score_calculateCompositeScore (w : WeightFactors) (p : PathInfo) :
    (p.calculateCompositeScore w).2.score w = p.score w := rfl

/-- What the selection loop returns, over the candidates among `ps`: its start
value, when no candidate scores above `bs`; otherwise the first candidate of
greatest score, with that score cached. -/
theorem getBestPathLoop_spec (now : Time) (w : WeightFactors) :
    ∀ (b : PathInfo) (bs : ℚ) (ps : List PathInfo),
      ((∀ q ∈ ps.filter (·.isCandidate now), q.score w ≤ bs) ∧
          (getBestPathLoop now w b bs ps).1 = b) ∨
        ∃ pre p post, ps.filter (·.isCandidate now) = pre ++ p :: post ∧ bs < p.score w ∧
          (getBestPathLoop now w b bs ps).1 = (p.calculateCompositeScore w).2 ∧
          (∀ q ∈ pre, q.score w < p.score w) ∧ (∀ q ∈ post, q.score w ≤ p.score w)
  | b, bs, [] => Or.inl ⟨by simp, rfl⟩
  | b, bs, path :: rest => by
    by_cases hc : path.isCandidate now = true
    · have hc' : (path.isValid && !path.isExpired now) = true := hc
      by_cases hs : path.score w > bs
      · simp only [getBestPathLoop, hc', if_true, PathInfo.calculateCompositeScore, hs,
          List.filter_cons_of_pos hc]
        rcases getBestPathLoop_spec now w (path.calculateCompositeScore w).2 (path.score w) rest with
          ⟨hle, hb⟩ | ⟨pre, p, post, hf, hlt, hb, hpre, hpost⟩
        · exact Or.inr ⟨[], path, _, rfl, hs, hb, by simp, hle⟩
        · exact Or.inr ⟨path :: pre, p, post, by rw [hf]; rfl, lt_trans hs hlt, hb,
            List.forall_mem_cons.2 ⟨hlt, hpre⟩, hpost⟩
      · simp only [getBestPathLoop, hc', if_true, PathInfo.calculateCompositeScore, hs,
          if_false, List.filter_cons_of_pos hc]
        have hs' : path.score w ≤ bs := not_lt.1 hs
        rcases getBestPathLoop_spec now w b bs rest with
          ⟨hle, hb⟩ | ⟨pre, p, post, hf, hlt, hb, hpre, hpost⟩
        · exact Or.inl ⟨List.forall_mem_cons.2 ⟨hs', hle⟩, hb⟩
        · exact Or.inr ⟨path :: pre, p, post, by rw [hf]; rfl, hlt, hb,
            List.forall_mem_cons.2 ⟨lt_of_le_of_lt hs' hlt, hpre⟩, hpost⟩
    · have hc' : (path.isValid && !path.isExpired now) = false := Bool.eq_false_iff.2 hc
      simp only [getBestPathLoop, hc', List.filter_cons_of_neg hc]
      exact getBestPathLoop_spec now w b bs rest

/-- `GetBestPath` returns its sentinel or a stored valid, unexpired path with
its score cached. -/
theorem getBestPath_fst_cases (now : Time) (w : WeightFactors) (e : MultipathRouteEntry) :
    (e.getBestPath now w).1 = PathInfo.default now ∨
      ∃ p ∈ e.paths, p.isCandidate now = true ∧
        (e.getBestPath now w).1 = (p.calculateCompositeScore w).2 := by
  rcases getBestPathLoop_spec now w (PathInfo.default now) (-1) e.paths with
    ⟨-, hb⟩ | ⟨pre, p, post, hf, -, hb, -⟩
  · exact Or.inl hb
  · have hp := List.mem_filter.1 (hf ▸ List.mem_append_right pre (List.mem_cons_self p post))
    exact Or.inr ⟨p, hp.1, hp.2, hb⟩

theorem score_nonneg {w : WeightFactors}
    (hw : 0 ≤ w.hopWeight ∧ 0 ≤ w.energyWeight ∧ 0 ≤ w.rssiWeight ∧ 0 ≤ w.stabilityWeight)
    {p : PathInfo} (he : 0 ≤ p.bleMetrics.residualEnergy)
    (hst : 0 ≤ p.bleMetrics.stabilityScore) : 0 ≤ p.score w := by
  obtain ⟨h₁, h₂, h₃, h₄⟩ := hw
  have hhop : (0 : ℚ) ≤ 1 / (1 + (p.hopCount : ℚ)) :=
    one_div_nonneg.2 (add_nonneg zero_le_one (Nat.cast_nonneg _))
  have hrssi : (0 : ℚ) ≤ p.bleMetrics.getNormalizedRSSI := le_max_left _ _
  unfold PathInfo.score
  exact add_nonneg (add_nonneg (add_nonneg (mul_nonneg hhop h₁) (mul_nonneg he h₂))
    (mul_nonneg hrssi h₃)) (mul_nonneg hst h₄)

/-- What `GetBestPath(weights)` returns at `now`: the sentinel `PathInfo()`,
with `isValid = false`, exactly when no path is valid and unexpired; otherwise
the first such path of greatest `CalculateCompositeScore(weights)`, with that
score in `compositeScore`. -/
def SelectsFirstGreatest (now : Time) (weights : WeightFactors) (e : MultipathRouteEntry) :
    Prop :=
  let best := (e.getBestPath now weights).1
  let cands := e.paths.filter (·.isCandidate now)
  (best.isValid = false ↔ cands = []) ∧ (cands = [] → best = PathInfo.default now) ∧
    (cands ≠ [] → ∃ pre p post, cands = pre ++ p :: post ∧
      best = { p with compositeScore := (p.calculateCompositeScore weights).1 } ∧
      (∀ q ∈ pre, (q.calculateCompositeScore weights).1 < (p.calculateCompositeScore weights).1) ∧
      (∀ q ∈ post, (q.calculateCompositeScore weights).1 ≤ (p.calculateCompositeScore weights).1))

/-- **Path selection.**  With non-negative weights, and non-negative energy and
stability on every path, `GetBestPath` picks the first valid unexpired path of
greatest composite score: every such path scores at least 0, above the start
score −1, so the sentinel survives only when there is none. -/
theorem getBestPath_selects (now : Time) (weights : WeightFactors) (e : MultipathRouteEntry)
    (hw : 0 ≤ weights.hopWeight ∧ 0 ≤ weights.energyWeight ∧ 0 ≤ weights.rssiWeight ∧
      0 ≤ weights.stabilityWeight)
    (hp : ∀ p ∈ e.paths, 0 ≤ p.bleMetrics.residualEnergy ∧ 0 ≤ p.bleMetrics.stabilityScore) :
    SelectsFirstGreatest now weights e := by
  have hcs : ∀ q ∈ e.paths.filter (·.isCandidate now), 0 ≤ q.score weights := fun q hq =>
    have hq' := (List.mem_filter.1 hq).1
    score_nonneg hw (hp q hq').1 (hp q hq').2
  rcases getBestPathLoop_spec now weights (PathInfo.default now) (-1) e.paths with
    ⟨hle, hb⟩ | ⟨pre, p, post, hf, -, hb, hpre, hpost⟩
  · have hnil : e.paths.filter (·.isCandidate now) = [] := by
      refine List.eq_nil_iff_forall_not_mem.2 fun q hq => ?_
      have := hle q hq; have := hcs q hq; linarith
    refine ⟨?_, fun _ => hb, fun h => absurd hnil h⟩
    simp only [getBestPath, hb, hnil]
    exact ⟨fun _ => trivial, fun _ => rfl⟩
  · have hpc : p.isCandidate now = true :=
      (List.mem_filter.1 (hf ▸ List.mem_append_right pre (List.mem_cons_self p post))).2
    have hvalid : p.isValid = true := by
      simp only [PathInfo.isCandidate, Bool.and_eq_true] at hpc; exact hpc.1
    have hne : e.paths.filter (·.isCandidate now) ≠ [] := by simp [hf]
    refine ⟨?_, fun h => absurd h hne, fun _ => ⟨pre, p, post, hf, hb, hpre, hpost⟩⟩
    simp only [getBestPath, hb, PathInfo.calculateCompositeScore, hvalid, Bool.true_eq_false,
      false_iff]
    exact hne

theorem getBestPath_selects_tied_paths :
    let w : WeightFactors := ⟨1 / 10, 2 / 10, 3 / 10, 4 / 10⟩
    let p (nextHop : Ipv4Address) (hops : Nat) : PathInfo := { PathInfo.default default with
      nextHop := nextHop, hopCount := hops,
      bleMetrics := BLEMetrics.mk' default (8 / 10) (-60) (8 / 10) hops,
      expiryTime := Time.seconds 120, isValid := true }
    let e := (((mk' default 100).addPath (p 1 3)).addPath (p 2 2)).addPath (p 3 2)
    (0 ≤ w.hopWeight ∧ 0 ≤ w.energyWeight ∧ 0 ≤ w.rssiWeight ∧ 0 ≤ w.stabilityWeight) ∧
      (∀ q ∈ e.paths, 0 ≤ q.bleMetrics.residualEnergy ∧ 0 ≤ q.bleMetrics.stabilityScore) ∧
      SelectsFirstGreatest (Time.seconds 1) w e := by
  intro w p e
  have he : e.paths = [p 1 3, p 2 2, p 3 2] := rfl
  have hp : ∀ q ∈ e.paths, 0 ≤ q.bleMetrics.residualEnergy ∧ 0 ≤ q.bleMetrics.stabilityScore := by
    intro q hq
    rw [he, List.mem_cons, List.mem_cons, List.mem_singleton] at hq
    rcases hq with rfl | rfl | rfl <;> norm_num [p, BLEMetrics.mk']
  exact ⟨by norm_num [w], hp, getBestPath_selects _ _ _ (by norm_num [w]) hp⟩

/-- Neither query exposes a dead path: `GetBestPath` returns the sentinel or a
valid path whose expiry is not before `now` and whose quality is at least 0.3,
and right after `PerformMaintenance()` no stored path has expired. -/
theorem no_dead_path_after_maintenance (now : Time) (weights : WeightFactors)
    (e : MultipathRouteEntry) :
    ((e.getBestPath now weights).1 = PathInfo.default now ∨
      ((e.getBestPath now weights).1.isValid = true ∧
        now ≤ (e.getBestPath now weights).1.expiryTime ∧
        3 / 10 ≤ (e.getBestPath now weights).1.pathQuality)) ∧
    ∀ p ∈ (e.performMaintenance now).getAllPaths, now ≤ p.expiryTime := by
  constructor
  · rcases getBestPathLoop_spec now weights (PathInfo.default now) (-1) e.paths with
      ⟨-, hb⟩ | ⟨pre, p, post, hf, -, hb, -⟩
    · exact Or.inl hb
    · have hpc : p.isCandidate now = true :=
        (List.mem_filter.1 (hf ▸ List.mem_append_right pre (List.mem_cons_self p post))).2
      simp only [PathInfo.isCandidate, PathInfo.isExpired, Bool.and_eq_true, Bool.not_eq_true',
        Bool.or_eq_false_iff, decide_eq_false_iff_not, not_lt] at hpc
      right
      simp only [getBestPath, hb, PathInfo.calculateCompositeScore]
      exact ⟨hpc.1, hpc.2.1, hpc.2.2⟩
  · intro p hp
    simp only [getAllPaths, performMaintenance, List.mem_filter, PathInfo.isExpired,
      Bool.not_eq_true', Bool.or_eq_false_iff, decide_eq_false_iff_not, not_lt] at hp
    exact hp.2.1

/-- `GetAllPaths()` returns the stored paths as they are: one `AddPath` of a
path expiring at 120 s, and at 121 s the list still holds it. -/
theorem getAllPaths_lists_expired :
    let p : PathInfo := { PathInfo.default default with
      nextHop := 1, expiryTime := Time.seconds 120, isValid := true }
    let e := (mk' default 100).addPath p
    ∃ q ∈ e.getAllPaths, q.expiryTime < Time.seconds 121 := by
  decide

/-! ### One path per next hop -/

/-- The next hops of a list of paths. -/
abbrev nextHops (paths : List PathInfo) : List Ipv4Address := paths.map (·.nextHop)

/-- `path` in place of the path through its next hop. -/
def replaceWith (path q : PathInfo) : PathInfo := if q.nextHop = path.nextHop then path else q

@[simp] theorem replaceWith_nextHop (path q : PathInfo) : (replaceWith path q).nextHop = q.nextHop := by
  unfold replaceWith
  split
  · rename_i h; exact h.symm
  · rfl

theorem replaceExisting_eq_none {path : PathInfo} :
    ∀ {ps : List PathInfo}, replaceExisting path ps = none ↔ path.nextHop ∉ nextHops ps
  | [] => by simp [replaceExisting]
  | q :: rest => by
    unfold replaceExisting
    split
    · simp_all
    · rename_i hq
      simp only [Option.map_eq_none', replaceExisting_eq_none, List.map_cons, List.mem_cons]
      exact ⟨fun h h' => h'.elim (fun e => hq e.symm) h, fun h h' => h (Or.inr h')⟩

theorem replaceExisting_eq_some {path : PathInfo} :
    ∀ {ps : List PathInfo}, (nextHops ps).Nodup → path.nextHop ∈ nextHops ps →
      replaceExisting path ps = some (ps.map (replaceWith path))
  | [], _, hm => by simp at hm
  | q :: rest, hnd, hm => by
    simp only [nextHops, List.map_cons, List.nodup_cons] at hnd
    unfold replaceExisting
    split
    · rename_i hq
      have hrest : rest.map (replaceWith path) = rest := by
        refine (List.map_congr_left fun r hr => ?_).trans (List.map_id rest)
        exact if_neg fun e => hnd.1 (List.mem_map.2 ⟨r, hr, e.trans hq.symm⟩)
      simp [replaceWith, hq, hrest]
    · rename_i hq
      have hm' : path.nextHop ∈ nextHops rest := by
        simp only [nextHops, List.map_cons, List.mem_cons] at hm
        exact hm.resolve_left fun e => hq e.symm
      simp [replaceExisting_eq_some hnd.2 hm', replaceWith, hq]

/-- `AddPath(path)` on a list with one path per next hop: `path` replaces the
path through its next hop in place, or is appended. -/
theorem addPath_paths {path : PathInfo} {e : MultipathRouteEntry}
    (hnd : (nextHops e.paths).Nodup) :
    (e.addPath path).paths =
      if path.nextHop ∈ nextHops e.paths then e.paths.map (replaceWith path)
      else e.paths ++ [path] := by
  by_cases hm : path.nextHop ∈ nextHops e.paths
  · simp only [addPath, replaceExisting_eq_some hnd hm, if_pos hm]
  · simp only [addPath, replaceExisting_eq_none.2 hm, if_neg hm]

theorem nextHops_map_replaceWith (path : PathInfo) (ps : List PathInfo) :
    nextHops (ps.map (replaceWith path)) = nextHops ps := by
  simp [nextHops, Function.comp_def]

theorem addPath_nodup {path : PathInfo} {e : MultipathRouteEntry}
    (hnd : (nextHops e.paths).Nodup) : (nextHops (e.addPath path).paths).Nodup := by
  rw [addPath_paths hnd]
  split
  · rwa [nextHops_map_replaceWith]
  · rename_i h
    simpa [List.nodup_append, h] using hnd

theorem nextHops_updateFirst (now : Time) (nh : Ipv4Address) (success : Bool) :
    ∀ ps : List PathInfo, nextHops (updateFirst now nh success ps) = nextHops ps
  | [] => rfl
  | p :: rest => by
    unfold updateFirst
    split
    · simp
    · simp only [nextHops, List.map_cons, List.cons.injEq, true_and]
      exact nextHops_updateFirst now nh success rest

theorem nextHops_getBestPathLoop (now : Time) (w : WeightFactors) :
    ∀ (b : PathInfo) (bs : ℚ) (ps : List PathInfo),
      nextHops (getBestPathLoop now w b bs ps).2 = nextHops ps
  | _, _, [] => rfl
  | b, bs, p :: rest => by
    simp only [getBestPathLoop]
    split
    · split <;> simp [nextHops_getBestPathLoop now w _ _ rest, PathInfo.calculateCompositeScore]
    · simp [nextHops_getBestPathLoop now w _ _ rest]

/-- With one path per next hop, the paths through `q₀`'s next hop are `q₀`. -/
theorem filter_nextHop_eq_singleton {q₀ : PathInfo} :
    ∀ {ps : List PathInfo}, (nextHops ps).Nodup → q₀ ∈ ps →
      ps.filter (fun q => q.nextHop = q₀.nextHop) = [q₀]
  | [], _, h => by simp at h
  | q :: rest, hnd, h => by
    simp only [nextHops, List.map_cons, List.nodup_cons] at hnd
    rcases List.mem_cons.1 h with rfl | h
    · rw [List.filter_cons_of_pos (by simp), List.filter_eq_nil_iff.2 fun r hr => by
        simp only [decide_eq_true_eq]
        exact fun e => hnd.1 (e ▸ List.mem_map_of_mem (·.nextHop) hr)]
    · have hne : q.nextHop ≠ q₀.nextHop := fun e => hnd.1 (e ▸ List.mem_map_of_mem _ h)
      rw [List.filter_cons_of_neg (by simpa using hne)]
      exact filter_nextHop_eq_singleton hnd.2 h

/-- A call of one of the entry's operations, with its arguments. -/
inductive Call
  | addPath (path : PathInfo)
  | updatePathPerformance (nextHop : Ipv4Address) (success : Bool)
  | performMaintenance
  | getBestPath (weights : WeightFactors)
  | getAllPaths

/-- The entry a call made at `now` leaves. -/
def step (now : Time) : Call → MultipathRouteEntry → MultipathRouteEntry
  | .addPath path, e => e.addPath path
  | .updatePathPerformance nextHop success, e => e.updatePathPerformance now nextHop success
  | .performMaintenance, e => e.performMaintenance now
  | .getBestPath weights, e => (e.getBestPath now weights).2
  | .getAllPaths, e => e

/-- The entry left by a sequence of calls, each made at its own time. -/
def run (calls : List (Time × Call)) (e : MultipathRouteEntry) : MultipathRouteEntry :=
  calls.foldl (fun e c => step c.1 c.2 e) e

theorem step_nodup (now : Time) (c : Call) {e : MultipathRouteEntry}
    (h : (nextHops e.paths).Nodup) : (nextHops (step now c e).paths).Nodup := by
  cases c with
  | addPath path => exact addPath_nodup h
  | updatePathPerformance nh success =>
    simpa [step, updatePathPerformance, nextHops_updateFirst] using h
  | performMaintenance => exact h.sublist ((List.filter_sublist _).map _)
  | getBestPath weights => simpa [step, getBestPath, nextHops_getBestPathLoop] using h
  | getAllPaths => exact h

theorem run_nodup {e : MultipathRouteEntry} (h : (nextHops e.paths).Nodup) :
    ∀ calls : List (Time × Call), (nextHops (run calls e).paths).Nodup
  | [] => h
  | c :: rest => run_nodup (step_nodup c.1 c.2 h) rest

/-- **Upsert by next hop.**  On every entry reached from an empty one, the
paths have distinct next hops, and `AddPath(p)` leaves exactly one path via
`p.nextHop` — `p` itself, in the old path's place or at the end — with every
other path unchanged and in order. -/
theorem addPath_upsert (calls : List (Time × Call)) (now : Time) (dst : Ipv4Address)
    (p : PathInfo) :
    let e := run calls (mk' now dst)
    (nextHops e.paths).Nodup ∧
    (e.addPath p).paths =
      (if p.nextHop ∈ nextHops e.paths then e.paths.map (replaceWith p) else e.paths ++ [p]) ∧
    (e.addPath p).paths.filter (fun q => q.nextHop = p.nextHop) = [p] ∧
    (e.addPath p).paths.filter (fun q => q.nextHop ≠ p.nextHop) =
      e.paths.filter (fun q => q.nextHop ≠ p.nextHop) := by
  intro e
  have hnd : (nextHops e.paths).Nodup := run_nodup (by simp [mk']) calls
  have hother : ∀ q, q.nextHop ≠ p.nextHop → replaceWith p q = q := fun q hq => if_neg hq
  refine ⟨hnd, addPath_paths hnd, ?_, ?_⟩ <;> rw [addPath_paths hnd] <;> split
  · rename_i hm
    obtain ⟨q₀, hq₀, hq₀n⟩ := List.mem_map.1 hm
    have hpred : ((fun q => decide (q.nextHop = p.nextHop)) ∘ replaceWith p) =
        fun q => decide (q.nextHop = q₀.nextHop) := by
      funext q; simp only [Function.comp, replaceWith_nextHop, hq₀n]
    rw [List.filter_map, hpred, filter_nextHop_eq_singleton hnd hq₀]
    simp [replaceWith, hq₀n]
  · rename_i hm
    rw [List.filter_append, List.filter_eq_nil_iff.2 fun q hq => by
      simp only [decide_eq_true_eq]
      exact fun e => hm (e ▸ List.mem_map_of_mem (·.nextHop) hq)]
    simp
  · have hpred : ((fun q => decide (q.nextHop ≠ p.nextHop)) ∘ replaceWith p) =
        fun q => decide (q.nextHop ≠ p.nextHop) := by
      funext q; simp only [Function.comp, replaceWith_nextHop]
    rw [List.filter_map, hpred]
    exact (List.map_congr_left fun q hq => hother q (by simpa using (List.mem_filter.1 hq).2)).trans
      (List.map_id _)
  · rw [List.filter_append]; simp

end MultipathRouteEntry

end BleMaodv

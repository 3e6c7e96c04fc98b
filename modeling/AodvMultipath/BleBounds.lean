/-
The numeric ranges of the BLE-MAODV path-selection engine
(`scratch/ble-maodv-comprehensive-test.cc`): the weights, the composite score,
the quality and stability of a path, and the transmission counters.

* **`normalize_weights_convex`** — `Normalize()` makes any four rationals
  non-negative weights summing to 1, so every `CalculateWeights` result is
  one, and under such weights the composite score of a path whose energy and
  stability lie in `[0, 1]` lies in `[0, 1]`;
* **`failed_updates_evict_path`** — `UpdatePathPerformance` runs
  `UpdatePathQuality` on the path through the given next hop; after one
  update quality and stability lie in `[0.1, 1]`, and fifteen failures in a
  row push the quality below 0.3, where the path counts as expired: it is
  never selected and maintenance erases it;
* **`paths_stay_clamped`** — along any sequence of the entry's calls whose
  added paths lie in the clamp, every path the entry holds stays in it;
* `updateTransmissions_counters` — the counters of `BLEMetrics` count the
  updates and the successes modulo `2^32`, so `successfulTx ≤ totalTx` holds
  for fewer than `2^32` updates (`successfulTx_le_totalTx`), and
  **`successfulTx_exceeds_totalTx`** — past `2^32` updates it fails.
-/
import AodvMultipath.BlePathSelection
import Mathlib.Algebra.Order.Field.Basic
import Mathlib.Tactic.Ring

namespace BleMaodv

open Ns3

/-! ### Weights and scores -/

namespace WeightFactors

/-- Four non-negative weights summing to 1. -/
structure Normalized (w : WeightFactors) : Prop where
  hop_nonneg : 0 ≤ w.hopWeight
  energy_nonneg : 0 ≤ w.energyWeight
  rssi_nonneg : 0 ≤ w.rssiWeight
  stability_nonneg : 0 ≤ w.stabilityWeight
  sum_eq_one : w.hopWeight + w.energyWeight + w.rssiWeight + w.stabilityWeight = 1

theorem normalize_normalized (w : WeightFactors) : w.normalize.Normalized := by
  unfold normalize
  dsimp only
  split
  · rename_i ht
    refine ⟨div_nonneg (le_max_left _ _) ht.le, div_nonneg (le_max_left _ _) ht.le,
      div_nonneg (le_max_left _ _) ht.le, div_nonneg (le_max_left _ _) ht.le, ?_⟩
    rw [div_add_div_same, div_add_div_same, div_add_div_same, div_self (ne_of_gt ht)]
  · exact ⟨by norm_num, by norm_num, by norm_num, by norm_num, by norm_num⟩

end WeightFactors

namespace PathInfo

theorem score_le_one {w : WeightFactors} (hw : w.Normalized) {p : PathInfo}
    (he : p.bleMetrics.residualEnergy ≤ 1) (hst : p.bleMetrics.stabilityScore ≤ 1) :
    p.score w ≤ 1 := by
  have hhop : 1 / (1 + (p.hopCount : ℚ)) ≤ 1 :=
    (div_le_one (by positivity)).2 (le_add_of_nonneg_right (Nat.cast_nonneg _))
  have hrssi : p.bleMetrics.getNormalizedRSSI ≤ 1 := max_le zero_le_one (min_le_left _ _)
  unfold score
  calc _ ≤ w.hopWeight + w.energyWeight + w.rssiWeight + w.stabilityWeight :=
        add_le_add (add_le_add (add_le_add (mul_le_of_le_one_left hw.hop_nonneg hhop)
          (mul_le_of_le_one_left hw.energy_nonneg he)) (mul_le_of_le_one_left hw.rssi_nonneg hrssi))
          (mul_le_of_le_one_left hw.stability_nonneg hst)
    _ = 1 := hw.sum_eq_one

end PathInfo

/-- **Normalized weights, convex scores.**  `Normalize()` turns any four
weights — negative or summing to 0 included — into non-negative weights
summing to 1; `CalculateWeights` ends with it; and under such weights the
composite score of a path with energy and stability in `[0, 1]`, whatever its
hop count and RSSI, lies in `[0, 1]`. -/
theorem normalize_weights_convex :
    (∀ w : WeightFactors, w.normalize.Normalized) ∧
    (∀ c : NetworkContext, (AdaptiveWeightCalculator.calculateWeights c).Normalized) ∧
    ∀ (w : WeightFactors) (p : PathInfo), w.Normalized →
      0 ≤ p.bleMetrics.residualEnergy → p.bleMetrics.residualEnergy ≤ 1 →
      0 ≤ p.bleMetrics.stabilityScore → p.bleMetrics.stabilityScore ≤ 1 →
      0 ≤ (p.calculateCompositeScore w).1 ∧ (p.calculateCompositeScore w).1 ≤ 1 :=
  ⟨WeightFactors.normalize_normalized, fun _ => WeightFactors.normalize_normalized _,
    fun _ _ hw he₀ he₁ hs₀ hs₁ =>
      ⟨MultipathRouteEntry.score_nonneg
          ⟨hw.hop_nonneg, hw.energy_nonneg, hw.rssi_nonneg, hw.stability_nonneg⟩ he₀ hs₀,
        PathInfo.score_le_one hw he₁ hs₁⟩⟩

/-! ### Quality and stability -/

namespace PathInfo

/-- `UpdatePathQuality` for each outcome in turn, each at its own time. -/
def updatePathQualities (outcomes : List (Time × Bool)) (p : PathInfo) : PathInfo :=
  outcomes.foldl (fun p o => p.updatePathQuality o.1 o.2) p

@[simp] theorem updatePathQualities_nil (p : PathInfo) : p.updatePathQualities [] = p := rfl

@[simp] theorem updatePathQualities_cons (o : Time × Bool) (rest : List (Time × Bool))
    (p : PathInfo) :
    p.updatePathQualities (o :: rest) = (p.updatePathQuality o.1 o.2).updatePathQualities rest :=
  rfl

/-- Quality and stability inside the clamp `[0.1, 1]`. -/
structure Clamped (p : PathInfo) : Prop where
  quality_ge : 1 / 10 ≤ p.pathQuality
  quality_le : p.pathQuality ≤ 1
  stability_ge : 1 / 10 ≤ p.bleMetrics.stabilityScore
  stability_le : p.bleMetrics.stabilityScore ≤ 1

theorem updatePathQuality_pathQuality (now : Time) (s : Bool) (p : PathInfo) :
    (p.updatePathQuality now s).pathQuality =
      max (1 / 10) (min 1 (p.pathQuality + if s then 2 / 100 else -5 / 100)) := by
  unfold updatePathQuality; split <;> rfl

theorem updatePathQuality_bleMetrics (now : Time) (s : Bool) (p : PathInfo) :
    (p.updatePathQuality now s).bleMetrics = p.bleMetrics.updateTransmission now s := by
  unfold updatePathQuality; split <;> rfl

theorem clamp_mem (x : ℚ) : 1 / 10 ≤ max (1 / 10) (min 1 x) ∧ max (1 / 10) (min 1 x) ≤ 1 :=
  ⟨le_max_left _ _, max_le (by norm_num) (min_le_left _ _)⟩

theorem updatePathQuality_clamped (now : Time) (s : Bool) (p : PathInfo) :
    (p.updatePathQuality now s).Clamped := by
  have hq := clamp_mem (p.pathQuality + if s then 2 / 100 else -5 / 100)
  rw [← updatePathQuality_pathQuality now s p] at hq
  have hs : 1 / 10 ≤ (p.bleMetrics.updateTransmission now s).stabilityScore ∧
      (p.bleMetrics.updateTransmission now s).stabilityScore ≤ 1 := clamp_mem _
  rw [← updatePathQuality_bleMetrics] at hs
  exact ⟨hq.1, hq.2, hs.1, hs.2⟩

theorem updatePathQualities_clamped {outcomes : List (Time × Bool)} (h : outcomes ≠ [])
    (p : PathInfo) : (p.updatePathQualities outcomes).Clamped := by
  obtain ⟨pre, o, rfl⟩ := (List.eq_nil_or_concat outcomes).resolve_left h
  rw [List.concat_eq_append, updatePathQualities, List.foldl_append]
  exact updatePathQuality_clamped o.1 o.2 _

theorem updatePathQualities_quality_le_one :
    ∀ (outcomes : List (Time × Bool)) {p : PathInfo}, p.pathQuality ≤ 1 →
      (p.updatePathQualities outcomes).pathQuality ≤ 1
  | [], _, h => h
  | _ :: _, p, _ => (updatePathQualities_clamped (List.cons_ne_nil _ _) p).quality_le

/-- One failure takes 0.05 off any bound `max 0.1 b` on the quality. -/
theorem updatePathQuality_false_le (now : Time) {p : PathInfo} {b : ℚ}
    (h : p.pathQuality ≤ max (1 / 10) b) :
    (p.updatePathQuality now false).pathQuality ≤ max (1 / 10) (b - 1 / 20) := by
  rw [updatePathQuality_pathQuality, if_neg Bool.false_ne_true]
  refine max_le (le_max_left _ _) ((min_le_right _ _).trans ?_)
  rcases le_max_iff.1 h with h | h
  · exact le_max_of_le_left ((add_le_add_right h _).trans (by norm_num))
  · exact le_max_of_le_right ((add_le_add_right h _).trans_eq (by ring))

theorem updatePathQualities_failures_le :
    ∀ (times : List Time) {p : PathInfo} {b : ℚ}, p.pathQuality ≤ max (1 / 10) b →
      (p.updatePathQualities (times.map (·, false))).pathQuality ≤
        max (1 / 10) (b - times.length / 20)
  | [], _, b, h => by rw [List.length_nil, Nat.cast_zero, zero_div, sub_zero]; exact h
  | t :: ts, p, b, h => by
    have ih := updatePathQualities_failures_le ts (updatePathQuality_false_le t h)
    have hb : b - 1 / 20 - (ts.length : ℚ) / 20 = b - ((t :: ts).length : ℚ) / 20 := by
      rw [List.length_cons, Nat.cast_succ]; ring
    rw [hb] at ih
    exact ih

/-- A path below quality 0.3 is expired at every time: `GetBestPath` never
returns it and `PerformMaintenance` erases it. -/
theorem dead_of_pathQuality_lt {q : PathInfo} (hq : q.pathQuality < 3 / 10) (now : Time)
    (w : WeightFactors) (e : MultipathRouteEntry) :
    q.isExpired now = true ∧ (∀ c, (e.getBestPath now w).1 ≠ { q with compositeScore := c }) ∧
      q ∉ (e.performMaintenance now).paths := by
  have hexp : ∀ now, q.isExpired now = true := fun _ => by simp [isExpired, hq]
  refine ⟨hexp now, fun c hc => ?_, fun hm => ?_⟩
  · rcases MultipathRouteEntry.getBestPath_fst_cases now w e with hb | ⟨p, -, hp, hb⟩
    · have := congrArg PathInfo.pathQuality (hb.symm.trans hc)
      simp only [default] at this
      linarith
    · have hpq := congrArg PathInfo.pathQuality (hb.symm.trans hc)
      simp only [calculateCompositeScore] at hpq
      simp [isCandidate, isExpired, hpq, hq] at hp
  · simp [MultipathRouteEntry.performMaintenance, hexp now] at hm

end PathInfo

namespace MultipathRouteEntry

theorem find?_updateFirst (now : Time) (nh : Ipv4Address) (s : Bool) :
    ∀ ps : List PathInfo, (updateFirst now nh s ps).find? (·.nextHop = nh) =
      (ps.find? (·.nextHop = nh)).map (·.updatePathQuality now s)
  | [] => rfl
  | p :: rest => by
    unfold updateFirst
    by_cases h : p.nextHop = nh
    · simp [h]
    · simp [h, find?_updateFirst now nh s rest]

/-- A run of `UpdatePathPerformance(nh, ·)` calls runs `UpdatePathQuality` on
the first path through `nh`, once per outcome. -/
theorem find?_run_updatePathPerformance (nh : Ipv4Address) :
    ∀ (outcomes : List (Time × Bool)) (e : MultipathRouteEntry),
      (run (outcomes.map fun o => (o.1, .updatePathPerformance nh o.2)) e).paths.find?
          (·.nextHop = nh) =
        (e.paths.find? (·.nextHop = nh)).map (PathInfo.updatePathQualities outcomes)
  | [], e => Option.map_id'.symm
  | o :: rest, e => by
    show (run _ (step o.1 (.updatePathPerformance nh o.2) e)).paths.find? _ = _
    rw [find?_run_updatePathPerformance nh rest]
    simp only [step, updatePathPerformance, find?_updateFirst, Option.map_map]
    rfl

end MultipathRouteEntry

/-- **Failures evict a path.**  `UpdatePathPerformance(nh, success)` runs
`UpdatePathQuality(success)` on the path through `nh`.  After at least one
update the quality and the stability lie in `[0.1, 1]`, whatever they were;
from quality at most 1, fifteen failures in a row, after any history, leave
the quality below 0.3; and a path below 0.3 is expired at every time, so
`GetBestPath` never returns it and `PerformMaintenance` erases it. -/
theorem failed_updates_evict_path :
    (∀ (e : MultipathRouteEntry) (nh : Ipv4Address) (outcomes : List (Time × Bool)),
      (MultipathRouteEntry.run (outcomes.map fun o => (o.1, .updatePathPerformance nh o.2))
          e).paths.find? (·.nextHop = nh) =
        (e.paths.find? (·.nextHop = nh)).map (PathInfo.updatePathQualities outcomes)) ∧
    (∀ (p : PathInfo) (outcomes : List (Time × Bool)), outcomes ≠ [] →
      (p.updatePathQualities outcomes).Clamped) ∧
    (∀ (p : PathInfo) (pre : List (Time × Bool)) (times : List Time), p.pathQuality ≤ 1 →
      times.length = 15 →
      (p.updatePathQualities (pre ++ times.map (·, false))).pathQuality < 3 / 10) ∧
    ∀ q : PathInfo, q.pathQuality < 3 / 10 →
      ∀ (now : Time) (w : WeightFactors) (e : MultipathRouteEntry),
        q.isExpired now = true ∧ (∀ c, (e.getBestPath now w).1 ≠ { q with compositeScore := c }) ∧
          q ∉ (e.performMaintenance now).paths := by
  refine ⟨fun e nh outcomes => MultipathRouteEntry.find?_run_updatePathPerformance nh outcomes e,
    fun p _ h => PathInfo.updatePathQualities_clamped h p, fun p pre times hq hlen => ?_,
    fun _ hq => PathInfo.dead_of_pathQuality_lt hq⟩
  have hpre : (p.updatePathQualities pre).pathQuality ≤ max (1 / 10) 1 :=
    (PathInfo.updatePathQualities_quality_le_one pre hq).trans (le_max_right _ _)
  have h := PathInfo.updatePathQualities_failures_le times hpre
  rw [hlen] at h
  rw [PathInfo.updatePathQualities, List.foldl_append]
  exact lt_of_le_of_lt h (by norm_num)

/-! ### Every path a run leaves stays in the clamp -/

namespace MultipathRouteEntry

/-- `Clamped` reads only the quality and the metrics. -/
theorem clamped_of_eq {p q : PathInfo} (hq : q.pathQuality = p.pathQuality)
    (hm : q.bleMetrics = p.bleMetrics) (h : p.Clamped) : q.Clamped :=
  ⟨hq ▸ h.quality_ge, hq ▸ h.quality_le, hm ▸ h.stability_ge, hm ▸ h.stability_le⟩

theorem mem_replaceExisting {path : PathInfo} :
    ∀ {ps ps' : List PathInfo}, replaceExisting path ps = some ps' →
      ∀ q ∈ ps', q ∈ ps ∨ q = path
  | [], _, h => by simp [replaceExisting] at h
  | p :: rest, ps', h => by
    unfold replaceExisting at h
    split at h
    · cases h
      intro q hq
      rcases List.mem_cons.1 hq with rfl | hq
      · exact .inr rfl
      · exact .inl (List.mem_cons_of_mem _ hq)
    · obtain ⟨l, hl, rfl⟩ := Option.map_eq_some'.1 h
      intro q hq
      rcases List.mem_cons.1 hq with rfl | hq
      · exact .inl (List.mem_cons_self _ _)
      · exact (mem_replaceExisting hl q hq).imp_left (List.mem_cons_of_mem _)

theorem mem_updateFirst (now : Time) (nh : Ipv4Address) (s : Bool) :
    ∀ {ps : List PathInfo} {q : PathInfo}, q ∈ updateFirst now nh s ps →
      q ∈ ps ∨ ∃ p : PathInfo, q = p.updatePathQuality now s
  | [], _, hq => absurd hq (List.not_mem_nil _)
  | p :: rest, q, hq => by
    unfold updateFirst at hq
    split at hq
    · rcases List.mem_cons.1 hq with rfl | hq
      · exact .inr ⟨p, rfl⟩
      · exact .inl (List.mem_cons_of_mem _ hq)
    · rcases List.mem_cons.1 hq with rfl | hq
      · exact .inl (List.mem_cons_self _ _)
      · exact (mem_updateFirst now nh s hq).imp_left (List.mem_cons_of_mem _)

/-- The selection loop caches scores and changes no quality or metrics. -/
theorem getBestPathLoop_quality (now : Time) (w : WeightFactors) :
    ∀ (b : PathInfo) (bs : ℚ) (ps : List PathInfo),
      (getBestPathLoop now w b bs ps).2.map (fun q => (q.pathQuality, q.bleMetrics)) =
        ps.map fun q => (q.pathQuality, q.bleMetrics)
  | _, _, [] => rfl
  | b, bs, p :: rest => by
    simp only [getBestPathLoop]
    split
    · split <;> simp [getBestPathLoop_quality now w _ _ rest, PathInfo.calculateCompositeScore]
    · simp [getBestPathLoop_quality now w _ _ rest]

/-- **Step.**  Every call keeps every path clamped, when the path it adds is. -/
theorem step_clamped (now : Time) {e : MultipathRouteEntry} (h : ∀ q ∈ e.paths, q.Clamped) :
    ∀ c : Call, (∀ p, c = .addPath p → p.Clamped) → ∀ q ∈ (step now c e).paths, q.Clamped
  | .addPath path, hp => by
    intro q hq
    simp only [step, addPath] at hq
    split at hq
    · rename_i hr
      rcases mem_replaceExisting hr q hq with hq | rfl
      exacts [h q hq, hp _ rfl]
    · rcases List.mem_append.1 hq with hq | hq
      exacts [h q hq, List.mem_singleton.1 hq ▸ hp _ rfl]
  | .updatePathPerformance nh s, _ => fun q hq =>
    (mem_updateFirst now nh s hq).elim (h q) fun ⟨p, hp⟩ => hp ▸ p.updatePathQuality_clamped now s
  | .performMaintenance, _ => fun q hq => h q (List.mem_of_mem_filter hq)
  | .getBestPath w, _ => fun q hq => by
    have hm := List.mem_map_of_mem (fun q : PathInfo => (q.pathQuality, q.bleMetrics)) hq
    rw [step, getBestPath, getBestPathLoop_quality] at hm
    obtain ⟨p, hp, he⟩ := List.mem_map.1 hm
    exact clamped_of_eq (congrArg Prod.fst he).symm (congrArg Prod.snd he).symm (h p hp)
  | .getAllPaths, _ => h

/-- **Run.**  A run whose added paths are clamped keeps every path clamped. -/
theorem run_clamped : ∀ (calls : List (Time × Call)) {e : MultipathRouteEntry},
    (∀ q ∈ e.paths, q.Clamped) → (∀ tc ∈ calls, ∀ p, tc.2 = .addPath p → p.Clamped) →
      ∀ q ∈ (run calls e).paths, q.Clamped
  | [], _, h, _ => h
  | tc :: rest, _, h, hadd =>
    run_clamped rest (step_clamped tc.1 h tc.2 (hadd tc (List.mem_cons_self _ _)))
      fun tc' htc => hadd tc' (List.mem_cons_of_mem _ htc)

/-- **Paths stay in the clamp.**  Along any sequence of `AddPath`,
`UpdatePathPerformance`, `PerformMaintenance`, `GetBestPath` and `GetAllPaths`
calls on a new entry, if every path added has quality and stability in
`[0.1, 1]`, every path the entry holds has them in `[0.1, 1]`: updates clamp
both, maintenance only drops paths, selection only caches scores. -/
theorem paths_stay_clamped (calls : List (Time × Call)) (now : Time) (dst : Ipv4Address)
    (hadd : ∀ tc ∈ calls, ∀ p, tc.2 = .addPath p → p.Clamped) :
    ∀ q ∈ (run calls (mk' now dst)).paths, q.Clamped :=
  run_clamped calls (fun _ hq => absurd hq (List.not_mem_nil _)) hadd

theorem paths_stay_clamped_add_fail :
    let calls : List (Time × Call) :=
      [(Time.seconds 1, .addPath { PathInfo.default (Time.seconds 1) with nextHop := 2 }),
        (Time.seconds 2, .updatePathPerformance 2 false)]
    (∀ tc ∈ calls, ∀ p, tc.2 = .addPath p → p.Clamped) ∧
      ∀ q ∈ (run calls (mk' (Time.seconds 0) 1)).paths, q.Clamped := by
  intro calls
  have hadd : ∀ tc ∈ calls, ∀ p, tc.2 = .addPath p → p.Clamped := by
    simp only [calls, List.mem_cons, List.mem_singleton, List.not_mem_nil, or_false]
    rintro tc (rfl | rfl) p hp <;> cases hp
    exact ⟨by norm_num [PathInfo.default], by norm_num [PathInfo.default],
      by norm_num [PathInfo.default, BLEMetrics.default],
      by norm_num [PathInfo.default, BLEMetrics.default]⟩
  exact ⟨hadd, paths_stay_clamped calls (Time.seconds 0) 1 hadd⟩

end MultipathRouteEntry

/-! ### The transmission counters -/

namespace BLEMetrics

/-- `UpdateTransmission` for each outcome in turn, each at its own time. -/
def updateTransmissions (outcomes : List (Time × Bool)) (m : BLEMetrics) : BLEMetrics :=
  outcomes.foldl (fun m o => m.updateTransmission o.1 o.2) m

/-- The counters hold the number of updates and of successes modulo `2^32`. -/
theorem updateTransmissions_counters :
    ∀ (outcomes : List (Time × Bool)) {m : BLEMetrics}, m.successfulTx < 2 ^ 32 →
      m.totalTx < 2 ^ 32 →
      (m.updateTransmissions outcomes).totalTx = (m.totalTx + outcomes.length) % 2 ^ 32 ∧
        (m.updateTransmissions outcomes).successfulTx =
          (m.successfulTx + outcomes.countP (·.2)) % 2 ^ 32
  | [], _, hs, ht => ⟨(Nat.mod_eq_of_lt ht).symm, (Nat.mod_eq_of_lt hs).symm⟩
  | o :: rest, m, hs, ht => by
    have hs' : (m.updateTransmission o.1 o.2).successfulTx < 2 ^ 32 := by
      simp only [updateTransmission]; split
      · exact Nat.mod_lt _ (by norm_num)
      · exact hs
    obtain ⟨ih₁, ih₂⟩ := updateTransmissions_counters rest hs' (Nat.mod_lt _ (by norm_num))
    refine ⟨ih₁.trans ?_, ih₂.trans ?_⟩
    · simp only [updateTransmission, Nat.mod_add_mod, List.length_cons]
      congr 1; omega
    · simp only [updateTransmission, List.countP_cons]
      split
      · rename_i h; simp only [h, if_true, Nat.mod_add_mod]; congr 1; omega
      · rename_i h; simp [h]

/-- From a fresh `BLEMetrics`, `totalTx` and `successfulTx` count the updates
and the successful ones modulo `2^32`; with fewer than `2^32` updates no
counter wraps: `successfulTx ≤ totalTx` and the success rate lies in `[0, 1]`. -/
theorem successfulTx_le_totalTx (now : Time) (outcomes : List (Time × Bool)) :
    let m : BLEMetrics := (default now).updateTransmissions outcomes
    m.totalTx = outcomes.length % 2 ^ 32 ∧ m.successfulTx = outcomes.countP (·.2) % 2 ^ 32 ∧
      (outcomes.length < 2 ^ 32 →
        m.successfulTx ≤ m.totalTx ∧ 0 ≤ m.getSuccessRate ∧ m.getSuccessRate ≤ 1) := by
  obtain ⟨ht, hs⟩ := updateTransmissions_counters outcomes (m := default now)
    (by norm_num [default]) (by norm_num [default])
  rw [show (default now).totalTx = 0 from rfl, Nat.zero_add] at ht
  rw [show (default now).successfulTx = 0 from rfl, Nat.zero_add] at hs
  refine ⟨ht, hs, fun h => ?_⟩
  have hc := List.countP_le_length (fun o : Time × Bool => o.2) (l := outcomes)
  rw [Nat.mod_eq_of_lt h] at ht
  rw [Nat.mod_eq_of_lt (hc.trans_lt h)] at hs
  refine ⟨hs ▸ ht ▸ hc, ?_⟩
  unfold getSuccessRate successRate
  split
  · rename_i hpos
    rw [hs, ht]
    exact ⟨by positivity, (div_le_one (by exact_mod_cast hpos.trans_eq ht)).2 (by exact_mod_cast hc)⟩
  · norm_num

/-- A failure, `k` successes and a failure from a fresh `BLEMetrics`. -/
theorem updateTransmissions_failure_successes_failure (t : Time) (k : Nat) :
    ((default t).updateTransmissions
        ((t, false) :: List.replicate k (t, true) ++ [(t, false)])).totalTx = (k + 2) % 2 ^ 32 ∧
      ((default t).updateTransmissions
        ((t, false) :: List.replicate k (t, true) ++ [(t, false)])).successfulTx = k % 2 ^ 32 := by
  obtain ⟨ht, hs⟩ := updateTransmissions_counters
    ((t, false) :: List.replicate k (t, true) ++ [(t, false)]) (m := default t)
    (by norm_num [default]) (by norm_num [default])
  refine ⟨ht.trans ?_, hs.trans ?_⟩ <;> simp [default, List.countP_replicate]

/-- **The counters wrap.**  From a fresh `BLEMetrics`, one failure, `2^32 − 1`
successes and one more failure leave `totalTx = 1` below
`successfulTx = 2^32 − 1`, and a success rate of `2^32 − 1`. -/
theorem successfulTx_exceeds_totalTx :
    let m : BLEMetrics := (default (Time.seconds 0)).updateTransmissions
      ((Time.seconds 0, false) :: List.replicate (2 ^ 32 - 1) (Time.seconds 0, true) ++
        [(Time.seconds 0, false)])
    m.totalTx < m.successfulTx ∧ 1 < m.getSuccessRate := by
  obtain ⟨h₁, h₂⟩ := updateTransmissions_failure_successes_failure (Time.seconds 0) (2 ^ 32 - 1)
  rw [show (2 ^ 32 - 1 + 2) % 2 ^ 32 = 1 by norm_num] at h₁
  rw [show (2 ^ 32 - 1) % 2 ^ 32 = 2 ^ 32 - 1 by norm_num] at h₂
  refine ⟨?_, ?_⟩
  · show ((default _).updateTransmissions _).totalTx < ((default _).updateTransmissions _).successfulTx
    rw [h₁, h₂]; norm_num
  · show 1 < successRate ((default _).updateTransmissions _).successfulTx
      ((default _).updateTransmissions _).totalTx
    rw [h₁, h₂]; norm_num [successRate]

end BLEMetrics

end BleMaodv

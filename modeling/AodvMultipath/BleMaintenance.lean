/-
The proactive maintenance engine of the BLE-MAODV program
(`ProactiveMaintenanceEngine`) and the ns-3 `Timer` it runs on.

The engine's life is a sequence of events: `Start()`, `Stop()`, and the expiry
of its timer, when the simulator runs `CheckAllRoutes()` at the time the event
was scheduled for.  `CheckAllRoutes` maintains every monitored route that
needs it, records a proactive switch when more than half of the remaining
paths are below quality 0.4, and reschedules the timer only when the engine is
not stopped and the timer is not expired.

* `checkAllRoutes_pending` — `CheckAllRoutes` never leaves an event pending
  that was not pending when it started;
* `expire_pending` — so after a tick no tick is pending: the timer is expired
  inside its own expiry event, and the guard `!maintenanceTimer.IsExpired()`
  is false there;
* `run_pending_not_stopped` — a pending tick always belongs to a started,
  unstopped engine, and a stopped engine ticks no more;
* **`proactive_switches_per_start`** — hence each `Start()` buys at most one
  maintenance round: along any events, the collector receives at most one
  `RecordProactiveSwitch()` per monitored route and `Start()`.

Design notes: a monitored route is kept by value (the source keeps pointers
to distinct entries).  The metrics collector is the count of
`RecordProactiveSwitch()` calls it has received.
-/
import AodvMultipath.BlePathSelection
import Mathlib.Algebra.Order.Field.Basic

namespace BleMaodv

open Ns3

/-- ns-3 `Timer`, as the engine uses it: the time its expiry event is
scheduled for, while one is pending.  `IsExpired()` holds when no event is
pending; the event being executed is no longer pending (ns-3 counts the
running event as expired). -/
structure Timer where
  pending : Option Time
deriving DecidableEq, Repr

namespace Timer

/-- A timer with no event. -/
def idle : Timer := ⟨none⟩

/-- `Schedule(delay)` at `now`; `none` when an event is pending, where ns-3
stops the simulation with a fatal error. -/
def schedule (now delay : Time) (t : Timer) : Option Timer :=
  if t.pending.isSome then none else some ⟨some (now + delay)⟩

/-- `Cancel()`. -/
def cancel (_ : Timer) : Timer := idle

/-- `IsExpired()`. -/
def isExpired (t : Timer) : Bool := t.pending.isNone

end Timer

/-- `ResearchMetricsCollector`, as the engine uses it: how many times
`RecordProactiveSwitch()` has been called (`routeStats.proactiveSwitches`). -/
structure ResearchMetricsCollector where
  proactiveSwitches : Nat
deriving DecidableEq, Repr

/-- `RecordProactiveSwitch()`. -/
def ResearchMetricsCollector.recordProactiveSwitch (c : ResearchMetricsCollector) :
    ResearchMetricsCollector := ⟨c.proactiveSwitches + 1⟩

/-- `ProactiveMaintenanceEngine`. -/
structure ProactiveMaintenanceEngine where
  stopped : Bool
  metricsCollector : Option ResearchMetricsCollector
  monitoredRoutes : List MultipathRouteEntry
  maintenanceTimer : Timer
deriving DecidableEq, Repr

namespace ProactiveMaintenanceEngine

/-- `MAINTENANCE_INTERVAL`, 5 s. -/
def MAINTENANCE_INTERVAL : Time := Time.seconds 5

/-- `PREDICTION_THRESHOLD`. -/
def PREDICTION_THRESHOLD : ℚ := 4 / 10

/-- `ProactiveMaintenanceEngine(metrics)`. -/
def mk' (metrics : Option ResearchMetricsCollector) : ProactiveMaintenanceEngine :=
  ⟨false, metrics, [], Timer.idle⟩

/-- `Start()` at `now`. -/
def start (now : Time) (e : ProactiveMaintenanceEngine) : Option ProactiveMaintenanceEngine :=
  (e.maintenanceTimer.schedule now MAINTENANCE_INTERVAL).map fun t =>
    { e with stopped := false, maintenanceTimer := t }

/-- `Stop()`. -/
def stop (e : ProactiveMaintenanceEngine) : ProactiveMaintenanceEngine :=
  { e with stopped := true, maintenanceTimer := e.maintenanceTimer.cancel }

/-- `AddRoute(route)`. -/
def addRoute (route : MultipathRouteEntry) (e : ProactiveMaintenanceEngine) :
    ProactiveMaintenanceEngine :=
  { e with monitoredRoutes := e.monitoredRoutes ++ [route] }

/-- `ShouldTriggerProactiveSwitch(route)`: more than half of the listed paths
are below the prediction threshold. -/
def shouldTriggerProactiveSwitch (route : MultipathRouteEntry) : Bool :=
  let paths := route.getAllPaths
  let lowQualityPaths := (paths.filter fun p => decide (p.pathQuality < PREDICTION_THRESHOLD)).length
  decide (paths.length > 0) && decide ((lowQualityPaths : ℚ) / paths.length > 1 / 2)

/-- The body of the loop of `CheckAllRoutes` for one route at `now`. -/
def checkRoute (now : Time) (collector : Option ResearchMetricsCollector)
    (route : MultipathRouteEntry) : MultipathRouteEntry × Option ResearchMetricsCollector :=
  if route.needsMaintenance now then
    let route := route.performMaintenance now
    if shouldTriggerProactiveSwitch route then
      (route, collector.map (·.recordProactiveSwitch))
    else (route, collector)
  else (route, collector)

/-- The loop of `CheckAllRoutes` over the monitored routes. -/
def checkRoutes (now : Time) :
    Option ResearchMetricsCollector → List MultipathRouteEntry →
      List MultipathRouteEntry × Option ResearchMetricsCollector
  | collector, [] => ([], collector)
  | collector, route :: rest =>
    let r := checkRoute now collector route
    let l := checkRoutes now r.2 rest
    (r.1 :: l.1, l.2)

/-- `CheckAllRoutes()` at `now`; `none` when it reschedules a pending timer. -/
def checkAllRoutes (now : Time) (e : ProactiveMaintenanceEngine) :
    Option ProactiveMaintenanceEngine :=
  if e.stopped then some e
  else
    let r := checkRoutes now e.metricsCollector e.monitoredRoutes
    let e := { e with monitoredRoutes := r.1, metricsCollector := r.2 }
    if !e.stopped && !e.maintenanceTimer.isExpired then
      (e.maintenanceTimer.schedule now MAINTENANCE_INTERVAL).map fun t =>
        { e with maintenanceTimer := t }
    else some e

/-- The expiry of the maintenance timer: at the time the event was scheduled
for, the event is no longer pending and `CheckAllRoutes()` runs; with no event
pending nothing happens. -/
def expire (e : ProactiveMaintenanceEngine) : Option ProactiveMaintenanceEngine :=
  match e.maintenanceTimer.pending with
  | none => some e
  | some t => checkAllRoutes t { e with maintenanceTimer := Timer.idle }

/-- What can happen to the engine. -/
inductive Event
  | start (now : Time)
  | stop
  | expire
deriving DecidableEq, Repr

/-- One event; `none` when the simulation stops on a fatal error. -/
def Event.apply : Event → ProactiveMaintenanceEngine → Option ProactiveMaintenanceEngine
  | .start now, e => e.start now
  | .stop, e => some e.stop
  | .expire, e => e.expire

/-- A sequence of events. -/
def runEvents : List Event → ProactiveMaintenanceEngine → Option ProactiveMaintenanceEngine
  | [], e => some e
  | ev :: rest, e => (ev.apply e).bind (runEvents rest)

/-! ### One tick -/

/-- `ShouldTriggerProactiveSwitch(route)`: the route has paths, and more than
half of them are below the prediction threshold (the division is exact). -/
theorem shouldTriggerProactiveSwitch_eq (route : MultipathRouteEntry) :
    shouldTriggerProactiveSwitch route = decide (route.paths.length <
      2 * (route.paths.filter fun p => decide (p.pathQuality < PREDICTION_THRESHOLD)).length) := by
  have hk := List.length_filter_le
    (fun p : PathInfo => decide (p.pathQuality < PREDICTION_THRESHOLD)) route.paths
  unfold shouldTriggerProactiveSwitch MultipathRouteEntry.getAllPaths
  dsimp only
  revert hk
  generalize (route.paths.filter fun p => decide (p.pathQuality < PREDICTION_THRESHOLD)).length = k
  generalize route.paths.length = n
  intro hk
  by_cases hn : 0 < n
  · have hiff : (k : ℚ) / n > 1 / 2 ↔ n < 2 * k := by
      rw [gt_iff_lt, div_lt_div_iff₀ two_pos (by exact_mod_cast hn), one_mul, mul_comm]
      exact_mod_cast Iff.rfl
    simp only [hn, decide_True, Bool.true_and, hiff]
  · simp only [hn, decide_False, Bool.false_and]
    exact (decide_eq_false (by omega)).symm

/-- One iteration of the loop of `CheckAllRoutes`. -/
theorem checkRoute_eq (now : Time) (c : Option ResearchMetricsCollector)
    (route : MultipathRouteEntry) :
    checkRoute now c route =
      (if route.needsMaintenance now then route.performMaintenance now else route,
        if route.needsMaintenance now && shouldTriggerProactiveSwitch (route.performMaintenance now)
        then c.map (·.recordProactiveSwitch) else c) := by
  unfold checkRoute
  by_cases hm : route.needsMaintenance now = true
  · by_cases hs : shouldTriggerProactiveSwitch (route.performMaintenance now) = true <;>
      simp [hm, hs]
  · simp [hm]

/-- The loop of `CheckAllRoutes`: every route needing maintenance is
maintained, and the collector records one switch per maintained route that
should trigger one. -/
theorem checkRoutes_eq (now : Time) :
    ∀ (c : Option ResearchMetricsCollector) (routes : List MultipathRouteEntry),
      checkRoutes now c routes =
        (routes.map fun r => if r.needsMaintenance now then r.performMaintenance now else r,
          c.map fun col => ⟨col.proactiveSwitches + (routes.filter fun r =>
            r.needsMaintenance now && shouldTriggerProactiveSwitch (r.performMaintenance now)).length⟩)
  | c, [] => by cases c <;> rfl
  | c, r :: rest => by
    rw [checkRoutes, checkRoute_eq, checkRoutes_eq now _ rest]
    refine Prod.ext rfl ?_
    dsimp only
    by_cases h : (r.needsMaintenance now &&
        shouldTriggerProactiveSwitch (r.performMaintenance now)) = true
    · rw [if_pos h, List.filter_cons_of_pos (p := fun r : MultipathRouteEntry => r.needsMaintenance now &&
        shouldTriggerProactiveSwitch (r.performMaintenance now)) h]
      cases c with
      | none => rfl
      | some col =>
        simp only [Option.map_some', ResearchMetricsCollector.recordProactiveSwitch,
          List.length_cons, Option.some.injEq, ResearchMetricsCollector.mk.injEq]
        omega
    · rw [if_neg h, List.filter_cons_of_neg (p := fun r : MultipathRouteEntry => r.needsMaintenance now &&
        shouldTriggerProactiveSwitch (r.performMaintenance now)) h]

/-- **One maintenance tick.**  A stopped engine's tick changes nothing.  A
running engine's tick, run inside the timer's expiry, replaces each monitored
route needing maintenance by its maintained copy — the paths with
`IsExpired()` erased in order, `lastMaintenance = now` — leaves the others as
they are, and records one proactive switch per maintained route of which
strictly more than half of the remaining paths are below quality 0.4 (so none
for a route left without paths). -/
theorem checkAllRoutes_tick (now : Time) (e : ProactiveMaintenanceEngine) :
    (e.stopped = true → e.checkAllRoutes now = some e) ∧
    (e.stopped = false → e.maintenanceTimer.isExpired = true →
      e.checkAllRoutes now = some { e with
        monitoredRoutes := e.monitoredRoutes.map fun r =>
          if r.needsMaintenance now then
            { r with paths := r.paths.filter (fun p => !p.isExpired now), lastMaintenance := now }
          else r,
        metricsCollector := e.metricsCollector.map fun c =>
          { proactiveSwitches := c.proactiveSwitches +
              (e.monitoredRoutes.filter fun r => r.needsMaintenance now &&
                decide ((r.paths.filter fun p => !p.isExpired now).length <
                  2 * ((r.paths.filter fun p => !p.isExpired now).filter
                    fun p => decide (p.pathQuality < 4 / 10)).length)).length } }) := by
  refine ⟨fun h => if_pos h, fun hs hx => ?_⟩
  simp only [checkAllRoutes, hs, hx, checkRoutes_eq, shouldTriggerProactiveSwitch_eq,
    Bool.false_eq_true, if_false, Bool.not_false, Bool.not_true, Bool.and_false]
  rfl

/-! ### The timer after a tick -/

/-- `CheckAllRoutes` started with no event pending leaves none pending, and it
does not change whether the engine is stopped. -/
theorem checkAllRoutes_pending {now : Time} {e e' : ProactiveMaintenanceEngine}
    (hp : e.maintenanceTimer.pending = none) (h : e.checkAllRoutes now = some e') :
    e'.maintenanceTimer.pending = none ∧ e'.stopped = e.stopped := by
  unfold checkAllRoutes at h
  split at h
  · cases h; exact ⟨hp, rfl⟩
  · simp only [Timer.isExpired, hp, Option.isNone_none, Bool.not_true, Bool.and_false,
      Bool.false_eq_true, if_false, Option.some.injEq] at h
    subst h; exact ⟨hp, rfl⟩

/-- After the timer's expiry no tick is pending. -/
theorem expire_pending {e e' : ProactiveMaintenanceEngine} (h : e.expire = some e') :
    e'.maintenanceTimer.pending = none := by
  unfold expire at h
  split at h
  · rename_i hp; cases h; exact hp
  · exact (checkAllRoutes_pending rfl h).1

/-- **The maintenance tick is not rescheduled.**  Started at time 0 and never
stopped, the engine ticks once at 5 s and then has no tick pending. -/
theorem tick_not_rescheduled :
    (runEvents [.start default, .expire] (mk' (some ⟨0⟩))).map (·.maintenanceTimer.pending) =
        some none ∧
      (runEvents [.start default, .expire] (mk' (some ⟨0⟩))).map (·.stopped) = some false := by
  decide

/-! ### Stopped engines -/

/-- A pending tick belongs to an unstopped engine. -/
def PendingOnlyWhenRunning (e : ProactiveMaintenanceEngine) : Prop :=
  e.maintenanceTimer.pending.isSome → e.stopped = false

/-- Every event leaves a pending tick only to an unstopped engine. -/
theorem apply_pendingOnlyWhenRunning {ev : Event} {e e' : ProactiveMaintenanceEngine}
    (h : ev.apply e = some e') : PendingOnlyWhenRunning e' := by
  cases ev with
  | start now =>
    simp only [Event.apply, start, Option.map_eq_some'] at h
    obtain ⟨t, -, rfl⟩ := h
    exact fun _ => rfl
  | stop => cases h; intro hs; simp [stop, Timer.cancel, Timer.idle] at hs
  | expire => intro hs; rw [expire_pending h] at hs; cases hs

theorem run_pending_not_stopped :
    ∀ (evs : List Event) {e e' : ProactiveMaintenanceEngine}, PendingOnlyWhenRunning e →
      runEvents evs e = some e' → PendingOnlyWhenRunning e'
  | [], _, _, hi, h => by cases h; exact hi
  | ev :: rest, e, e', hi, h => by
    simp only [runEvents, Option.bind_eq_some] at h
    obtain ⟨e₁, h₁, h₂⟩ := h
    exact run_pending_not_stopped rest (apply_pendingOnlyWhenRunning h₁) h₂

/-- After `Stop()` the timer's expiry runs no tick body: nothing changes. -/
theorem expire_after_stop (e : ProactiveMaintenanceEngine) : e.stop.expire = some e.stop := rfl

/-! ### At most one maintenance round per `Start()`

`CheckAllRoutes` does not reschedule itself (`expire_pending`), so a tick
pending is the only round the engine still owes, and only `Start()` makes one
pending.  With `owed` the switches such a round can still record, one per
monitored route, `switches + owed` grows only at a `Start()`, and by the number
of monitored routes. -/

/-- A `Start()` event. -/
def Event.isStart : Event → Bool
  | .start _ => true
  | _ => false

/-- The `RecordProactiveSwitch()` calls the engine's collector has received
(none without a collector). -/
def switches (e : ProactiveMaintenanceEngine) : Nat :=
  (e.metricsCollector.map (·.proactiveSwitches)).getD 0

/-- The switches a pending tick can still record: one per monitored route. -/
def owed (e : ProactiveMaintenanceEngine) : Nat :=
  if e.maintenanceTimer.pending.isSome then e.monitoredRoutes.length else 0

/-- A tick keeps the monitored routes and records at most one switch per route. -/
theorem checkAllRoutes_switches {now : Time} {e e' : ProactiveMaintenanceEngine}
    (hp : e.maintenanceTimer.pending = none) (h : e.checkAllRoutes now = some e') :
    e'.monitoredRoutes.length = e.monitoredRoutes.length ∧
      e'.switches ≤ e.switches + e.monitoredRoutes.length := by
  unfold checkAllRoutes at h
  split at h
  · cases h; exact ⟨rfl, Nat.le_add_right _ _⟩
  · simp only [Timer.isExpired, hp, Option.isNone_none, Bool.not_true, Bool.and_false,
      Bool.false_eq_true, if_false, Option.some.injEq] at h
    subst h
    refine ⟨by rw [checkRoutes_eq, List.length_map], ?_⟩
    cases hc : e.metricsCollector <;> simp [switches, checkRoutes_eq, hc, List.length_filter_le]

/-- **Step.**  An event keeps the monitored routes, and raises
`switches + owed` only when it is a `Start()`, and then by the number of
monitored routes. -/
theorem apply_switches {ev : Event} {e e' : ProactiveMaintenanceEngine}
    (h : ev.apply e = some e') :
    e'.monitoredRoutes.length = e.monitoredRoutes.length ∧
      e'.switches + e'.owed ≤
        e.switches + e.owed + if ev.isStart then e.monitoredRoutes.length else 0 := by
  cases ev with
  | start now =>
    simp only [Event.apply, start, Timer.schedule, Option.map_eq_some'] at h
    obtain ⟨t, ht, rfl⟩ := h
    split at ht
    · cases ht
    · cases ht; simp_all [switches, owed, Event.isStart]
  | stop =>
    cases h
    refine ⟨rfl, ?_⟩
    simp only [switches, owed, stop, Timer.cancel, Timer.idle, Option.isSome_none,
      Bool.false_eq_true, if_false]
    omega
  | expire =>
    simp only [Event.apply, expire] at h
    split at h
    · cases h; simp
    · rename_i t hp
      obtain ⟨hl, hs⟩ := checkAllRoutes_switches rfl h
      refine ⟨hl, ?_⟩
      simp only [owed, hp, (checkAllRoutes_pending rfl h).1, Option.isSome_some,
        Option.isSome_none, if_true, Bool.false_eq_true, if_false, Event.isStart, Nat.add_zero]
      exact hs

/-- **Run.**  Along a run, `switches + owed` grows by at most the number of
monitored routes per `Start()`. -/
theorem run_switches : ∀ (evs : List Event) {e e' : ProactiveMaintenanceEngine},
    runEvents evs e = some e' →
      e'.monitoredRoutes.length = e.monitoredRoutes.length ∧
        e'.switches + e'.owed ≤
          e.switches + e.owed + e.monitoredRoutes.length * (evs.filter Event.isStart).length
  | [], _, _, h => by cases h; exact ⟨rfl, Nat.le_add_right _ _⟩
  | ev :: rest, e, e', h => by
    simp only [runEvents, Option.bind_eq_some] at h
    obtain ⟨e₁, h₁, h₂⟩ := h
    obtain ⟨hl₁, hs₁⟩ := apply_switches h₁
    obtain ⟨hl, hs⟩ := run_switches rest h₂
    refine ⟨hl.trans hl₁, ?_⟩
    rw [hl₁] at hs
    cases hev : ev.isStart
    · simp only [hev, List.filter_cons, Bool.false_eq_true, if_false] at hs₁ ⊢
      omega
    · simp only [hev, List.filter_cons, if_true, List.length_cons, Nat.mul_succ] at hs₁ ⊢
      omega

/-- **At most one maintenance round per `Start()`.**  From any engine state
with no tick pending, along any sequence of `Start()`, `Stop()` and timer
expiries that does not stop the simulation, the collector receives at most one
`RecordProactiveSwitch()` per monitored route and `Start()`. -/
theorem proactive_switches_per_start (evs : List Event) (e e' : ProactiveMaintenanceEngine)
    (hp : e.maintenanceTimer.pending = none) (h : runEvents evs e = some e') :
    e'.switches ≤ e.switches + e.monitoredRoutes.length * (evs.filter Event.isStart).length := by
  have hr := (run_switches evs h).2
  simp only [owed, hp, Option.isSome_none, Bool.false_eq_true, if_false] at hr
  omega

theorem proactive_switches_per_start_two_starts :
    let e : ProactiveMaintenanceEngine :=
      (mk' (some ⟨0⟩)).addRoute (MultipathRouteEntry.mk' default 7)
    let evs : List Event := [.start default, .expire, .start (Time.seconds 5), .expire]
    ∃ e', e.maintenanceTimer.pending = none ∧ runEvents evs e = some e' ∧
      e'.switches ≤ e.switches + e.monitoredRoutes.length * (evs.filter Event.isStart).length :=
  ⟨_, rfl, rfl, proactive_switches_per_start _ _ _ rfl rfl⟩

end ProactiveMaintenanceEngine

end BleMaodv

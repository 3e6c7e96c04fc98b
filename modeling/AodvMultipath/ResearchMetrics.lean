/-
`ResearchMetricsCollector` of the BLE-MAODV program, and what
`CalculateAllMetrics` reports after any sequence of its `Record*` calls.

The collector is a state machine: `CollectorCall` is one of its recording
calls, `run` applies a sequence of them, each at its own `Simulator::Now()`.
Its counters are `uint32_t` and wrap; delays, energy and the reported ratios
are doubles, here ℚ.

* **`run_tallies`** — every collector a run reaches keeps its totals
  consistent with the calls made: the packet totals and the route counters
  count their calls modulo `2^32`, the per-flow delays add up to the delays
  recorded, and, while fewer than `2^32` packets were received, a flow that
  received nothing has no delay;
* **`calculateAllMetrics_run`** — so, after any run, `CalculateAllMetrics`
  reports as PDR the received calls over the sent calls, as delay the mean of
  the delays recorded, as throughput `8 ×` the bytes recorded over the elapsed
  seconds (while that fits in 32 bits), and as route stability the proactive
  switches over the route changes;
* **`runBLEMAODVSimulation_metrics`** — in `RunBLEMAODVSimulation`, which
  records one sent and at most one received call per flow, passes packet
  counts as sizes and never records a proactive switch, the PDR is the share of
  flows that delivered anything, the delay the mean of the per-flow mean
  delays, the throughput `8 ×` the packets over the seconds, and the route
  stability `0` once a demonstration ran.
-/
import AodvMultipath.BleMaintenance
import AodvMultipath.StdMap
import Mathlib.Algebra.BigOperators.Ring.List
import Mathlib.Data.Rat.Floor

namespace Ns3.Time

/-- `Time::GetSeconds()`. -/
def getSeconds (t : Time) : ℚ := (t.val : ℚ) / 1000000000

/-- `t / n` for an unsigned `n`: `Time(m_data / n)`, truncating toward zero. -/
def div (t : Time) (n : Nat) : Time := ofInt (t.val.tdiv n)

end Ns3.Time

namespace BleMaodv

open Ns3

namespace Research

/-- `ResearchMetricsCollector::FlowStats`.  Its `totalJitter` is never written
after the constructor and never read. -/
structure FlowStats where
  packetsSent : Nat
  packetsReceived : Nat
  totalDelay : ℚ
  firstPacketTime : Time
  lastPacketTime : Time
  bytesTransferred : Nat
  deriving DecidableEq, Repr

/-- `FlowStats()`: the counters and the delay at zero, the times `Time()`. -/
def FlowStats.default : FlowStats := ⟨0, 0, 0, Inhabited.default, Inhabited.default, 0⟩

namespace FlowStats

/-- What `RecordPacketSent(flowId, size)` does to the flow's entry. -/
def recordSent (size : Nat) (s : FlowStats) : FlowStats :=
  { s with
    packetsSent := (s.packetsSent + 1) % 2 ^ 32
    bytesTransferred := (s.bytesTransferred + size) % 2 ^ 32 }

/-- What `RecordPacketReceived(flowId, size, delay)` at time `now` does to the
flow's entry. -/
def recordReceived (now : Time) (size : Nat) (delay : Time) (s : FlowStats) : FlowStats :=
  { s with
    packetsReceived := (s.packetsReceived + 1) % 2 ^ 32
    totalDelay := s.totalDelay + delay.getSeconds
    bytesTransferred := (s.bytesTransferred + size) % 2 ^ 32
    firstPacketTime := if s.firstPacketTime = Inhabited.default then now else s.firstPacketTime
    lastPacketTime := now }

@[simp] theorem recordSent_packetsReceived (size : Nat) (s : FlowStats) :
    (s.recordSent size).packetsReceived = s.packetsReceived := rfl
@[simp] theorem recordSent_totalDelay (size : Nat) (s : FlowStats) :
    (s.recordSent size).totalDelay = s.totalDelay := rfl
@[simp] theorem recordSent_bytesTransferred (size : Nat) (s : FlowStats) :
    (s.recordSent size).bytesTransferred = (s.bytesTransferred + size) % 2 ^ 32 := rfl
@[simp] theorem recordReceived_packetsReceived (now : Time) (size : Nat) (d : Time) (s : FlowStats) :
    (s.recordReceived now size d).packetsReceived = (s.packetsReceived + 1) % 2 ^ 32 := rfl
@[simp] theorem recordReceived_totalDelay (now : Time) (size : Nat) (d : Time) (s : FlowStats) :
    (s.recordReceived now size d).totalDelay = s.totalDelay + d.getSeconds := rfl
@[simp] theorem recordReceived_bytesTransferred (now : Time) (size : Nat) (d : Time)
    (s : FlowStats) :
    (s.recordReceived now size d).bytesTransferred = (s.bytesTransferred + size) % 2 ^ 32 := rfl

end FlowStats

/-- `ResearchMetricsCollector::RouteStats`.  Its `totalConvergenceTime` is
never written or read. -/
structure RouteStats where
  routeDiscoveries : Nat
  routeChanges : Nat
  proactiveSwitches : Nat
  routeErrors : Nat
  deriving DecidableEq, Repr

/-- The four `uint32_t` counters of `RouteStats`, by name. -/
inductive RouteCounter
  | routeDiscoveries
  | routeChanges
  | proactiveSwitches
  | routeErrors
  deriving DecidableEq, Repr

namespace RouteStats

/-- The value of one counter. -/
def get : RouteCounter → RouteStats → Nat
  | .routeDiscoveries, s => s.routeDiscoveries
  | .routeChanges, s => s.routeChanges
  | .proactiveSwitches, s => s.proactiveSwitches
  | .routeErrors, s => s.routeErrors

/-- `routeStats.<counter>++`. -/
def increment : RouteCounter → RouteStats → RouteStats
  | .routeDiscoveries, s => { s with routeDiscoveries := (s.routeDiscoveries + 1) % 2 ^ 32 }
  | .routeChanges, s => { s with routeChanges := (s.routeChanges + 1) % 2 ^ 32 }
  | .proactiveSwitches, s => { s with proactiveSwitches := (s.proactiveSwitches + 1) % 2 ^ 32 }
  | .routeErrors, s => { s with routeErrors := (s.routeErrors + 1) % 2 ^ 32 }

theorem get_increment (k k' : RouteCounter) (s : RouteStats) :
    (s.increment k).get k' = if k = k' then (s.get k + 1) % 2 ^ 32 else s.get k' := by
  cases k <;> cases k' <;> rfl

end RouteStats

/-- `ResearchMetricsCollector`: what its `Record*` calls write.  The fields
`CalculateAllMetrics` computes are its result, `Metrics`. -/
structure ResearchMetricsCollector where
  flowStats : StdMap Nat FlowStats
  routeStats : RouteStats
  startTime : Time
  totalEnergyConsumed : ℚ
  controlOverhead : Nat
  totalPacketsSent : Nat
  totalPacketsReceived : Nat

/-- What `CalculateAllMetrics()` writes. -/
structure Metrics where
  simulationTime : Time
  overallPDR : ℚ
  overallDelay : ℚ
  throughput : ℚ
  routeStability : ℚ
  deriving DecidableEq, Repr

namespace ResearchMetricsCollector

/-- `ResearchMetricsCollector()` at `Simulator::Now() = now`. -/
def mk' (now : Time) : ResearchMetricsCollector := ⟨StdMap.empty, ⟨0, 0, 0, 0⟩, now, 0, 0, 0, 0⟩

/-- `flowStats[flowId]` rewritten in place by `g`; `operator[]` first inserts
`FlowStats()` for a flow it has not seen. -/
def updateFlow (flowId : Nat) (g : FlowStats → FlowStats) (c : ResearchMetricsCollector) :
    StdMap Nat FlowStats :=
  c.flowStats.assign flowId (g ((c.flowStats.find flowId).getD FlowStats.default))

/-- `RecordPacketSent(flowId, size)`. -/
def recordPacketSent (flowId size : Nat) (c : ResearchMetricsCollector) : ResearchMetricsCollector :=
  { c with
    flowStats := c.updateFlow flowId (FlowStats.recordSent size)
    totalPacketsSent := (c.totalPacketsSent + 1) % 2 ^ 32 }

/-- `RecordPacketReceived(flowId, size, delay)` at time `now`. -/
def recordPacketReceived (now : Time) (flowId size : Nat) (delay : Time)
    (c : ResearchMetricsCollector) : ResearchMetricsCollector :=
  { c with
    flowStats := c.updateFlow flowId (FlowStats.recordReceived now size delay)
    totalPacketsReceived := (c.totalPacketsReceived + 1) % 2 ^ 32 }

/-- `routeStats.<counter>++`, the body of the four route `Record*` calls. -/
def recordRouteStat (k : RouteCounter) (c : ResearchMetricsCollector) : ResearchMetricsCollector :=
  { c with routeStats := c.routeStats.increment k }

/-- `RecordRouteDiscovery()`. -/
def recordRouteDiscovery : ResearchMetricsCollector → ResearchMetricsCollector :=
  recordRouteStat .routeDiscoveries

/-- `RecordRouteChange()`. -/
def recordRouteChange : ResearchMetricsCollector → ResearchMetricsCollector :=
  recordRouteStat .routeChanges

/-- `RecordProactiveSwitch()`. -/
def recordProactiveSwitch : ResearchMetricsCollector → ResearchMetricsCollector :=
  recordRouteStat .proactiveSwitches

/-- `RecordRouteError()`. -/
def recordRouteError : ResearchMetricsCollector → ResearchMetricsCollector :=
  recordRouteStat .routeErrors

/-- `RecordEnergyConsumption(energy)`. -/
def recordEnergyConsumption (energy : ℚ) (c : ResearchMetricsCollector) :
    ResearchMetricsCollector :=
  { c with totalEnergyConsumed := c.totalEnergyConsumed + energy }

/-- `RecordControlPacket()`. -/
def recordControlPacket (c : ResearchMetricsCollector) : ResearchMetricsCollector :=
  { c with controlOverhead := (c.controlOverhead + 1) % 2 ^ 32 }

/-- One iteration of the first loop of `CalculateAllMetrics`: a flow that
received adds its delay sum and its `uint32_t` count of packets received. -/
def delayStep (acc : ℚ × Nat) (flow : Nat × FlowStats) : ℚ × Nat :=
  if flow.2.packetsReceived > 0 then
    (acc.1 + flow.2.totalDelay, (acc.2 + flow.2.packetsReceived) % 2 ^ 32)
  else acc

/-- The first loop of `CalculateAllMetrics`, from `overallDelay = 0.0` and
`totalReceived = 0`. -/
def delayLoop (flows : List (Nat × FlowStats)) : ℚ × Nat := flows.foldl delayStep (0, 0)

/-- One iteration of the second loop: `totalBits += bytesTransferred * 8`, the
product taken in `uint32_t`, the sum in `uint64_t`. -/
def bitsStep (acc : Nat) (flow : Nat × FlowStats) : Nat :=
  (acc + flow.2.bytesTransferred * 8 % 2 ^ 32) % 2 ^ 64

/-- The second loop of `CalculateAllMetrics`, from `totalBits = 0`. -/
def bitsLoop (flows : List (Nat × FlowStats)) : Nat := flows.foldl bitsStep 0

/-- `CalculateAllMetrics()` at time `now`. -/
def calculateAllMetrics (now : Time) (c : ResearchMetricsCollector) : Metrics :=
  let simulationTime := now - c.startTime
  let overallPDR : ℚ :=
    if c.totalPacketsSent > 0 then (c.totalPacketsReceived : ℚ) / c.totalPacketsSent else 0
  let delays := delayLoop c.flowStats.toList
  let overallDelay := if delays.2 > 0 then delays.1 / delays.2 else delays.1
  let totalBits := bitsLoop c.flowStats.toList
  let throughput : ℚ :=
    if simulationTime.getSeconds > 0 then totalBits / simulationTime.getSeconds else 0
  let routeStability : ℚ :=
    if c.routeStats.routeChanges > 0 then
      (c.routeStats.proactiveSwitches : ℚ) / c.routeStats.routeChanges
    else 1
  ⟨simulationTime, overallPDR, overallDelay, throughput, routeStability⟩

end ResearchMetricsCollector

open ResearchMetricsCollector

/-- One recording call on the collector. -/
inductive CollectorCall
  | recordPacketSent (flowId size : Nat)
  | recordPacketReceived (flowId size : Nat) (delay : Time)
  | recordRouteDiscovery
  | recordRouteChange
  | recordProactiveSwitch
  | recordRouteError
  | recordEnergyConsumption (energy : ℚ)
  | recordControlPacket
  deriving DecidableEq, Repr

namespace CollectorCall

/-- The call made at time `now`. -/
def apply (now : Time) : CollectorCall → ResearchMetricsCollector → ResearchMetricsCollector
  | recordPacketSent flowId size => ResearchMetricsCollector.recordPacketSent flowId size
  | recordPacketReceived flowId size delay =>
    ResearchMetricsCollector.recordPacketReceived now flowId size delay
  | recordRouteDiscovery => ResearchMetricsCollector.recordRouteDiscovery
  | recordRouteChange => ResearchMetricsCollector.recordRouteChange
  | recordProactiveSwitch => ResearchMetricsCollector.recordProactiveSwitch
  | recordRouteError => ResearchMetricsCollector.recordRouteError
  | recordEnergyConsumption energy => ResearchMetricsCollector.recordEnergyConsumption energy
  | recordControlPacket => ResearchMetricsCollector.recordControlPacket

end CollectorCall

/-- A sequence of recording calls, each with its `Simulator::Now()`. -/
def run (calls : List (Time × CollectorCall)) (c : ResearchMetricsCollector) :
    ResearchMetricsCollector :=
  calls.foldl (fun c tc => tc.2.apply tc.1 c) c

/-! ### What a run has recorded -/

namespace CollectorCall

/-- Packets the call records as sent. -/
def sent : CollectorCall → Nat
  | recordPacketSent .. => 1
  | _ => 0

/-- Packets the call records as received. -/
def received : CollectorCall → Nat
  | recordPacketReceived .. => 1
  | _ => 0

/-- Bytes the call adds to its flow. -/
def bytes : CollectorCall → Nat
  | recordPacketSent _ size => size
  | recordPacketReceived _ size _ => size
  | _ => 0

/-- Seconds of delay the call records. -/
def delay : CollectorCall → ℚ
  | recordPacketReceived _ _ d => d.getSeconds
  | _ => 0

/-- Energy the call records. -/
def energy : CollectorCall → ℚ
  | recordEnergyConsumption e => e
  | _ => 0

/-- Control packets the call records. -/
def controlPackets : CollectorCall → Nat
  | recordControlPacket => 1
  | _ => 0

/-- The route counter the call increments, if any. -/
def routeCounter? : CollectorCall → Option RouteCounter
  | recordRouteDiscovery => some .routeDiscoveries
  | recordRouteChange => some .routeChanges
  | recordProactiveSwitch => some .proactiveSwitches
  | recordRouteError => some .routeErrors
  | _ => none

/-- Increments of route counter `k`. -/
def bumps (k : RouteCounter) (call : CollectorCall) : Nat :=
  if call.routeCounter? = some k then 1 else 0

end CollectorCall

/-- `Σ f` over a sequence of calls. -/
def tally {β : Type} [AddMonoid β] (f : CollectorCall → β) (calls : List (Time × CollectorCall)) :
    β :=
  (calls.map fun tc => f tc.2).sum

@[simp] theorem tally_nil {β : Type} [AddMonoid β] (f : CollectorCall → β) : tally f [] = 0 := rfl

@[simp] theorem tally_append_singleton {β : Type} [AddMonoid β] (f : CollectorCall → β)
    (calls : List (Time × CollectorCall)) (tc : Time × CollectorCall) :
    tally f (calls ++ [tc]) = tally f calls + f tc.2 := by
  simp [tally]

/-- `s` sums `uint32_t` counters that were raised by `n` in all: it is at most
`n` and agrees with `n` modulo `2^32`. -/
structure Tracks (s n : Nat) : Prop where
  le : s ≤ n
  mod_eq : s % 2 ^ 32 = n % 2 ^ 32

namespace Tracks

/-- One counter of the sum goes from `old` to `(old + d) mod 2^32`. -/
theorem step {s s' n old d : Nat} (h : Tracks s n) (hs : s' + old = s + (old + d) % 2 ^ 32) :
    Tracks s' (n + d) :=
  ⟨by have := h.le; omega, by have := h.mod_eq; omega⟩

/-- Below `2^32` in all, no counter wrapped. -/
theorem eq {s n : Nat} (h : Tracks s n) (hn : n < 2 ^ 32) : s = n := by
  have := h.le; have := h.mod_eq; omega

end Tracks

/-- What a collector keeps of the calls that built it. -/
structure Tallies (c : ResearchMetricsCollector) (calls : List (Time × CollectorCall)) : Prop where
  totalPacketsSent : c.totalPacketsSent = tally CollectorCall.sent calls % 2 ^ 32
  totalPacketsReceived : c.totalPacketsReceived = tally CollectorCall.received calls % 2 ^ 32
  received : Tracks (c.flowStats.sumBy FlowStats.packetsReceived) (tally CollectorCall.received calls)
  bytes : Tracks (c.flowStats.sumBy FlowStats.bytesTransferred) (tally CollectorCall.bytes calls)
  delay : c.flowStats.sumBy FlowStats.totalDelay = tally CollectorCall.delay calls
  silent : tally CollectorCall.received calls < 2 ^ 32 →
    ∀ e ∈ c.flowStats.toList, e.2.packetsReceived = 0 → e.2.totalDelay = 0
  routeStats : ∀ k, c.routeStats.get k = tally (CollectorCall.bumps k) calls % 2 ^ 32
  totalEnergyConsumed : c.totalEnergyConsumed = tally CollectorCall.energy calls
  controlOverhead : c.controlOverhead = tally CollectorCall.controlPackets calls % 2 ^ 32

namespace ResearchMetricsCollector

section UpdateFlow

variable (flowId : Nat) (g : FlowStats → FlowStats) (c : ResearchMetricsCollector)

/-- `updateFlow` changes a sum over the flows by the rewritten entry minus the
entry it started from (`FlowStats()` for a new flow). -/
theorem sumBy_updateFlow {β : Type} [AddCommMonoid β] (f : FlowStats → β)
    (hf : f FlowStats.default = 0) :
    (c.updateFlow flowId g).sumBy f + f ((c.flowStats.find flowId).getD FlowStats.default) =
      c.flowStats.sumBy f + f (g ((c.flowStats.find flowId).getD FlowStats.default)) := by
  have h : ((c.flowStats.find flowId).map f).getD 0 =
      f ((c.flowStats.find flowId).getD FlowStats.default) := by
    cases c.flowStats.find flowId <;> simp [hf]
  rw [← h]
  exact StdMap.sumBy_assign f c.flowStats flowId _

/-- The entry `updateFlow` starts from counts for at most the sum. -/
theorem le_sumBy_find (f : FlowStats → Nat) (hf : f FlowStats.default = 0) :
    f ((c.flowStats.find flowId).getD FlowStats.default) ≤ c.flowStats.sumBy f := by
  cases h : c.flowStats.find flowId with
  | none => simp [hf]
  | some v => exact StdMap.le_sumBy f (StdMap.find_eq_some.1 h)

/-- A property of every entry survives `updateFlow` when the rewritten entry
keeps it. -/
theorem forall_updateFlow {P : FlowStats → Prop} (hm : ∀ e ∈ c.flowStats.toList, P e.2)
    (hd : P FlowStats.default)
    (hg : P ((c.flowStats.find flowId).getD FlowStats.default) →
      P (g ((c.flowStats.find flowId).getD FlowStats.default))) :
    ∀ e ∈ (c.updateFlow flowId g).toList, P e.2 := by
  refine StdMap.forall_mem_assign hm (hg ?_)
  cases h : c.flowStats.find flowId with
  | none => exact hd
  | some v => exact hm _ (StdMap.find_eq_some.1 h)

end UpdateFlow

end ResearchMetricsCollector

namespace Tallies

variable {c : ResearchMetricsCollector} {calls : List (Time × CollectorCall)}

/-- A new collector has recorded nothing. -/
theorem mk' (start : Time) : Tallies (ResearchMetricsCollector.mk' start) [] :=
  ⟨rfl, rfl, ⟨le_rfl, rfl⟩, ⟨le_rfl, rfl⟩, rfl, fun _ _ he => absurd he (List.not_mem_nil _),
    fun k => by cases k <;> rfl, rfl, rfl⟩

/-- A call that leaves the flows and the packet totals alone. -/
theorem of_flowStats {c' : ResearchMetricsCollector} (h : Tallies c calls) (t : Time)
    {call : CollectorCall} (hf : c'.flowStats = c.flowStats)
    (hs : c'.totalPacketsSent = c.totalPacketsSent)
    (hr : c'.totalPacketsReceived = c.totalPacketsReceived)
    (hz : call.sent = 0 ∧ call.received = 0 ∧ call.bytes = 0 ∧ call.delay = 0)
    (hroute : ∀ k, c'.routeStats.get k = tally (CollectorCall.bumps k) (calls ++ [(t, call)]) % 2 ^ 32)
    (he : c'.totalEnergyConsumed = tally CollectorCall.energy (calls ++ [(t, call)]))
    (hc : c'.controlOverhead = tally CollectorCall.controlPackets (calls ++ [(t, call)]) % 2 ^ 32) :
    Tallies c' (calls ++ [(t, call)]) := by
  obtain ⟨h0, h1, h2, h3⟩ := hz
  refine ⟨?_, ?_, ?_, ?_, ?_, ?_, hroute, he, hc⟩ <;>
    simp only [hf, hs, hr, tally_append_singleton, h0, h1, h2, h3, add_zero]
  exacts [h.totalPacketsSent, h.totalPacketsReceived, h.received, h.bytes, h.delay, h.silent]

/-- `RecordPacketSent` keeps the tallies. -/
theorem recordPacketSent (h : Tallies c calls) (t : Time) (flowId size : Nat) :
    Tallies (c.recordPacketSent flowId size) (calls ++ [(t, .recordPacketSent flowId size)]) := by
  have hr := sumBy_updateFlow flowId (FlowStats.recordSent size) c FlowStats.packetsReceived rfl
  have hb := sumBy_updateFlow flowId (FlowStats.recordSent size) c FlowStats.bytesTransferred rfl
  have hd := sumBy_updateFlow flowId (FlowStats.recordSent size) c FlowStats.totalDelay rfl
  simp only [FlowStats.recordSent_packetsReceived, FlowStats.recordSent_bytesTransferred,
    FlowStats.recordSent_totalDelay, add_left_inj] at hr hb hd
  have hs := h.totalPacketsSent
  refine ⟨?_, ?_, ?_, ?_, ?_, ?_, fun k => ?_, ?_, ?_⟩ <;>
    simp only [ResearchMetricsCollector.recordPacketSent, tally_append_singleton, CollectorCall.sent,
      CollectorCall.received, CollectorCall.bytes, CollectorCall.delay, CollectorCall.bumps,
      CollectorCall.routeCounter?, CollectorCall.energy, CollectorCall.controlPackets, add_zero]
  · omega
  · exact h.totalPacketsReceived
  · rw [hr]; exact h.received
  · exact h.bytes.step hb
  · rw [hd]; exact h.delay
  · exact fun hn => forall_updateFlow flowId (FlowStats.recordSent size) c
      (P := fun s => s.packetsReceived = 0 → s.totalDelay = 0) (h.silent hn) (fun _ => rfl) id
  · simp only [reduceCtorEq, if_false, add_zero]; exact h.routeStats k
  · exact h.totalEnergyConsumed
  · exact h.controlOverhead

/-- `RecordPacketReceived` keeps the tallies. -/
theorem recordPacketReceived (h : Tallies c calls) (t : Time) (flowId size : Nat) (d : Time) :
    Tallies (c.recordPacketReceived t flowId size d)
      (calls ++ [(t, .recordPacketReceived flowId size d)]) := by
  have hr := sumBy_updateFlow flowId (FlowStats.recordReceived t size d) c
    FlowStats.packetsReceived rfl
  have hb := sumBy_updateFlow flowId (FlowStats.recordReceived t size d) c
    FlowStats.bytesTransferred rfl
  have hd := sumBy_updateFlow flowId (FlowStats.recordReceived t size d) c FlowStats.totalDelay rfl
  have hold := (le_sumBy_find flowId c FlowStats.packetsReceived rfl).trans h.received.le
  simp only [FlowStats.recordReceived_packetsReceived, FlowStats.recordReceived_bytesTransferred,
    FlowStats.recordReceived_totalDelay] at hr hb hd
  have hs := h.totalPacketsReceived
  refine ⟨?_, ?_, ?_, ?_, ?_, ?_, fun k => ?_, ?_, ?_⟩ <;>
    simp only [ResearchMetricsCollector.recordPacketReceived, tally_append_singleton,
      CollectorCall.sent, CollectorCall.received, CollectorCall.bytes, CollectorCall.delay,
      CollectorCall.bumps, CollectorCall.routeCounter?, CollectorCall.energy,
      CollectorCall.controlPackets, add_zero]
  · exact h.totalPacketsSent
  · omega
  · exact h.received.step hr
  · exact h.bytes.step hb
  · rw [← h.delay]
    exact add_right_cancel (hd.trans ((add_left_comm _ _ _).trans (add_comm _ _)))
  · exact fun hn => forall_updateFlow flowId (FlowStats.recordReceived t size d) c
      (P := fun s => s.packetsReceived = 0 → s.totalDelay = 0) (h.silent (by omega))
      (fun _ => rfl) fun _ h0 => absurd h0 (by simp only [FlowStats.recordReceived_packetsReceived]; omega)
  · simp only [reduceCtorEq, if_false, add_zero]; exact h.routeStats k
  · exact h.totalEnergyConsumed
  · exact h.controlOverhead

/-- A route counter call keeps the tallies. -/
theorem recordRouteStat (h : Tallies c calls) (t : Time) {call : CollectorCall}
    {k : RouteCounter} (hk : call.routeCounter? = some k)
    (hz : call.sent = 0 ∧ call.received = 0 ∧ call.bytes = 0 ∧ call.delay = 0)
    (he : call.energy = 0) (hc : call.controlPackets = 0) :
    Tallies (c.recordRouteStat k) (calls ++ [(t, call)]) :=
  h.of_flowStats t rfl rfl rfl hz
    (fun k' => by
      simp only [ResearchMetricsCollector.recordRouteStat, RouteStats.get_increment,
        tally_append_singleton, CollectorCall.bumps, hk, Option.some.injEq, h.routeStats k,
        h.routeStats k']
      split
      · subst_vars; omega
      · omega)
    (by simp only [ResearchMetricsCollector.recordRouteStat, tally_append_singleton, he, add_zero,
      h.totalEnergyConsumed])
    (by simp only [ResearchMetricsCollector.recordRouteStat, tally_append_singleton, hc, add_zero,
      h.controlOverhead])

/-- **Step.**  Every call keeps the tallies. -/
theorem apply (h : Tallies c calls) (t : Time) :
    ∀ call : CollectorCall, Tallies (call.apply t c) (calls ++ [(t, call)])
  | .recordPacketSent flowId size => h.recordPacketSent t flowId size
  | .recordPacketReceived flowId size d => h.recordPacketReceived t flowId size d
  | .recordRouteDiscovery => h.recordRouteStat t rfl ⟨rfl, rfl, rfl, rfl⟩ rfl rfl
  | .recordRouteChange => h.recordRouteStat t rfl ⟨rfl, rfl, rfl, rfl⟩ rfl rfl
  | .recordProactiveSwitch => h.recordRouteStat t rfl ⟨rfl, rfl, rfl, rfl⟩ rfl rfl
  | .recordRouteError => h.recordRouteStat t rfl ⟨rfl, rfl, rfl, rfl⟩ rfl rfl
  | .recordEnergyConsumption e =>
    h.of_flowStats t rfl rfl rfl ⟨rfl, rfl, rfl, rfl⟩
      (fun k => by simp only [tally_append_singleton, CollectorCall.bumps,
        CollectorCall.routeCounter?, reduceCtorEq, if_false, add_zero]; exact h.routeStats k)
      (by show c.totalEnergyConsumed + e = _
          rw [tally_append_singleton, h.totalEnergyConsumed]; rfl)
      (by simp only [tally_append_singleton, CollectorCall.controlPackets, add_zero];
          exact h.controlOverhead)
  | .recordControlPacket =>
    h.of_flowStats t rfl rfl rfl ⟨rfl, rfl, rfl, rfl⟩
      (fun k => by simp only [tally_append_singleton, CollectorCall.bumps,
        CollectorCall.routeCounter?, reduceCtorEq, if_false, add_zero]; exact h.routeStats k)
      (by simp only [tally_append_singleton, CollectorCall.energy, add_zero];
          exact h.totalEnergyConsumed)
      (by simp only [tally_append_singleton, CollectorCall.controlPackets]
          have := h.controlOverhead
          show (c.controlOverhead + 1) % 2 ^ 32 = _
          omega)

end Tallies

/-- **Run.**  Every collector a run reaches from `ResearchMetricsCollector()`
keeps the tallies of the calls made. -/
theorem run_tallies (start : Time) (calls : List (Time × CollectorCall)) :
    Tallies (run calls (ResearchMetricsCollector.mk' start)) calls := by
  suffices ∀ (rest pre : List (Time × CollectorCall)) (c : ResearchMetricsCollector),
      Tallies c pre → Tallies (run rest c) (pre ++ rest) from
    this calls [] _ (Tallies.mk' start)
  intro rest
  induction rest with
  | nil => intro pre c h; simpa [run] using h
  | cons tc rest ih =>
    intro pre c h
    have := ih (pre ++ [tc]) _ (h.apply tc.1 tc.2)
    rwa [List.append_assoc, List.singleton_append] at this

/-! ### `CalculateAllMetrics` -/

namespace ResearchMetricsCollector

/-- The first loop sums the delays of the flows that received and counts
their packets modulo `2^32`. -/
theorem delayLoop_eq (flows : List (Nat × FlowStats)) :
    delayLoop flows =
      (((flows.filter fun f => f.2.packetsReceived > 0).map fun f => f.2.totalDelay).sum,
        (flows.map fun f => f.2.packetsReceived).sum % 2 ^ 32) := by
  suffices ∀ (a : ℚ) (n : Nat), n < 2 ^ 32 → flows.foldl delayStep (a, n) =
      (a + ((flows.filter fun f => f.2.packetsReceived > 0).map fun f => f.2.totalDelay).sum,
        (n + (flows.map fun f => f.2.packetsReceived).sum) % 2 ^ 32) by
    simpa using this 0 0 (by norm_num)
  induction flows with
  | nil => intro a n hn; simp only [List.foldl_nil, List.filter_nil, List.map_nil, List.sum_nil,
      add_zero, Nat.mod_eq_of_lt hn]
  | cons f rest ih =>
    intro a n hn
    rw [List.foldl_cons, delayStep]
    split
    · rename_i hf
      rw [ih _ _ (Nat.mod_lt _ (by norm_num)), List.filter_cons_of_pos (by simpa using hf)]
      simp only [List.map_cons, List.sum_cons, add_assoc, Prod.mk.injEq, true_and]
      omega
    · rename_i hf
      rw [ih _ _ hn, List.filter_cons_of_neg (by simpa using hf)]
      simp only [List.map_cons, List.sum_cons, Prod.mk.injEq, true_and]
      omega

/-- The second loop sums each flow's `8 × bytes` taken modulo `2^32`, modulo
`2^64`. -/
theorem bitsLoop_eq (flows : List (Nat × FlowStats)) :
    bitsLoop flows = (flows.map fun f => f.2.bytesTransferred * 8 % 2 ^ 32).sum % 2 ^ 64 := by
  suffices ∀ a : Nat, a < 2 ^ 64 → flows.foldl bitsStep a =
      (a + (flows.map fun f => f.2.bytesTransferred * 8 % 2 ^ 32).sum) % 2 ^ 64 by
    simpa using this 0 (by norm_num)
  induction flows with
  | nil => intro a ha; simp only [List.foldl_nil, List.map_nil, List.sum_nil, add_zero,
      Nat.mod_eq_of_lt ha]
  | cons f rest ih =>
    intro a _
    rw [List.foldl_cons, bitsStep, ih _ (Nat.mod_lt _ (by norm_num))]
    simp only [List.map_cons, List.sum_cons]
    omega

/-- No call moves `startTime`. -/
theorem startTime_run (calls : List (Time × CollectorCall)) (c : ResearchMetricsCollector) :
    (run calls c).startTime = c.startTime := by
  induction calls generalizing c with
  | nil => rfl
  | cons tc rest ih => rw [run, List.foldl_cons, ← run, ih]; cases tc.2 <;> rfl

end ResearchMetricsCollector

/-- While no flow wrapped its count, the flows that received carry all the
delay. -/
private theorem sum_filter_received (flows : List (Nat × FlowStats))
    (h : ∀ e ∈ flows, e.2.packetsReceived = 0 → e.2.totalDelay = 0) :
    ((flows.filter fun f => f.2.packetsReceived > 0).map fun f => f.2.totalDelay).sum =
      (flows.map fun f => f.2.totalDelay).sum := by
  induction flows with
  | nil => rfl
  | cons f rest ih =>
    have ih := ih fun e he => h e (List.mem_cons_of_mem _ he)
    by_cases hf : f.2.packetsReceived > 0
    · rw [List.filter_cons_of_pos (by simpa using hf)]
      simp only [List.map_cons, List.sum_cons, ih]
    · rw [List.filter_cons_of_neg (by simpa using hf)]
      simp only [List.map_cons, List.sum_cons, ih, h f (List.mem_cons_self _ _) (by omega),
        zero_add]

/-- What `CalculateAllMetrics()` at `now` reports on a collector that keeps the
tallies of `calls`. -/
theorem Tallies.metrics {c : ResearchMetricsCollector} {calls : List (Time × CollectorCall)}
    (h : Tallies c calls) (now : Time) :
    let m := c.calculateAllMetrics now
    let sent : Nat := tally CollectorCall.sent calls % 2 ^ 32
    let received : Nat := tally CollectorCall.received calls % 2 ^ 32
    let changes : Nat := tally (CollectorCall.bumps .routeChanges) calls % 2 ^ 32
    m.simulationTime = now - c.startTime ∧
    m.overallPDR = (if sent > 0 then (received : ℚ) / sent else 0) ∧
    (tally CollectorCall.received calls < 2 ^ 32 →
      m.overallDelay = if received > 0 then tally CollectorCall.delay calls / received else 0) ∧
    (8 * tally CollectorCall.bytes calls < 2 ^ 32 →
      m.throughput = if (now - c.startTime).getSeconds > 0 then
        ((8 * tally CollectorCall.bytes calls : Nat) : ℚ) / (now - c.startTime).getSeconds else 0) ∧
    m.routeStability = (if changes > 0 then
        ((tally (CollectorCall.bumps .proactiveSwitches) calls % 2 ^ 32 : Nat) : ℚ) / changes
      else 1) := by
  intro m sent received changes
  refine ⟨rfl, ?_, fun hn => ?_, fun hb => ?_, ?_⟩
  · simp only [m, calculateAllMetrics, h.totalPacketsSent, h.totalPacketsReceived]
  · have hrx : (c.flowStats.toList.map fun f => f.2.packetsReceived).sum =
        tally CollectorCall.received calls := h.received.eq hn
    have hrec : received = tally CollectorCall.received calls := Nat.mod_eq_of_lt hn
    rw [hrec]
    simp only [m, calculateAllMetrics, delayLoop_eq, hrx, Nat.mod_eq_of_lt hn]
    by_cases hpos : tally CollectorCall.received calls > 0
    · have hd : (c.flowStats.toList.map fun f => f.2.totalDelay).sum =
          tally CollectorCall.delay calls := h.delay
      rw [if_pos hpos, if_pos hpos, sum_filter_received _ (h.silent hn), hd]
    · rw [if_neg hpos, if_neg hpos, List.filter_eq_nil_iff.2, List.map_nil, List.sum_nil]
      intro f hf
      have := StdMap.le_sumBy FlowStats.packetsReceived hf
      simp only [StdMap.sumBy, hrx] at this
      simpa using by omega
  · have hbytes : c.flowStats.sumBy FlowStats.bytesTransferred = tally CollectorCall.bytes calls :=
      h.bytes.eq (by omega)
    have hmap : (c.flowStats.toList.map fun f => f.2.bytesTransferred * 8 % 2 ^ 32) =
        c.flowStats.toList.map fun f => f.2.bytesTransferred * 8 :=
      List.map_congr_left fun f hf => Nat.mod_eq_of_lt
        (by have := StdMap.le_sumBy FlowStats.bytesTransferred hf; omega)
    have hsum : (c.flowStats.toList.map fun f => f.2.bytesTransferred * 8).sum =
        8 * tally CollectorCall.bytes calls := by
      rw [← hbytes, StdMap.sumBy, List.sum_map_mul_right, mul_comm]
    simp only [m, calculateAllMetrics, bitsLoop_eq, hmap, hsum,
      Nat.mod_eq_of_lt (by omega : 8 * tally CollectorCall.bytes calls < 2 ^ 64)]
  · have h1 : c.routeStats.routeChanges = changes := h.routeStats .routeChanges
    have h2 : c.routeStats.proactiveSwitches =
        tally (CollectorCall.bumps .proactiveSwitches) calls % 2 ^ 32 :=
      h.routeStats .proactiveSwitches
    simp only [m, calculateAllMetrics, h1, h2]

/-- **What `CalculateAllMetrics` reports after any run.**  From
`ResearchMetricsCollector()` at `start`, after any sequence of recording calls,
`CalculateAllMetrics()` at `now` reports: the time since `start`; as PDR the
`RecordPacketReceived` calls over the `RecordPacketSent` calls (both counted
modulo `2^32`); as delay, while fewer than `2^32` packets were received, the
mean of the delays recorded; as throughput, while `8 ×` the bytes recorded fits
in 32 bits, those bits over the elapsed seconds; and as route stability the
proactive switches over the route changes.  The energy and the control overhead
the getters read are the recorded sums. -/
theorem calculateAllMetrics_run (start now : Time) (calls : List (Time × CollectorCall)) :
    let c : ResearchMetricsCollector := run calls (ResearchMetricsCollector.mk' start)
    let m := c.calculateAllMetrics now
    let sent : Nat := tally CollectorCall.sent calls % 2 ^ 32
    let received : Nat := tally CollectorCall.received calls % 2 ^ 32
    let changes : Nat := tally (CollectorCall.bumps .routeChanges) calls % 2 ^ 32
    m.simulationTime = now - start ∧
    m.overallPDR = (if sent > 0 then (received : ℚ) / sent else 0) ∧
    (tally CollectorCall.received calls < 2 ^ 32 →
      m.overallDelay = if received > 0 then tally CollectorCall.delay calls / received else 0) ∧
    (8 * tally CollectorCall.bytes calls < 2 ^ 32 →
      m.throughput = if (now - start).getSeconds > 0 then
        ((8 * tally CollectorCall.bytes calls : Nat) : ℚ) / (now - start).getSeconds else 0) ∧
    m.routeStability = (if changes > 0 then
        ((tally (CollectorCall.bumps .proactiveSwitches) calls % 2 ^ 32 : Nat) : ℚ) / changes
      else 1) ∧
    c.totalEnergyConsumed = tally CollectorCall.energy calls ∧
    c.controlOverhead = tally CollectorCall.controlPackets calls % 2 ^ 32 := by
  intro c
  have h : Tallies c calls := run_tallies start calls
  have hm := h.metrics now
  rw [show c.startTime = start from startTime_run calls _] at hm
  exact ⟨hm.1, hm.2.1, hm.2.2.1, hm.2.2.2.1, hm.2.2.2.2, h.totalEnergyConsumed, h.controlOverhead⟩

/-! ### The collector of `RunBLEMAODVSimulation` -/

/-- `FlowMonitor::FlowStats`: the fields `RunBLEMAODVSimulation` reads. -/
structure FlowMonitorStats where
  txPackets : Nat
  rxPackets : Nat
  delaySum : Time
  deriving DecidableEq, Repr

/-- The calls the loop over `monitor->GetFlowStats()` makes for one flow: the
packet counts go in as the sizes, `delaySum / rxPackets` as the delay. -/
def flowCalls (flow : Nat × FlowMonitorStats) : List CollectorCall :=
  CollectorCall.recordPacketSent flow.1 flow.2.txPackets ::
    ((if flow.2.rxPackets > 0 then
        [CollectorCall.recordPacketReceived flow.1 flow.2.rxPackets
          (flow.2.delaySum.div flow.2.rxPackets)]
      else []) ++
      [CollectorCall.recordEnergyConsumption
        (flow.2.txPackets * (1 / 1000) + flow.2.rxPackets * (1 / 2000))])

/-- The loop `for (double t = 5.0; t <= lastDemoTime; t += 15.0)` of
`ScheduleBLEMAODVDemonstrations`, for at most `fuel` iterations: the times it
schedules, in whole seconds (which the double `t` holds exactly). -/
def demonstrationLoop (lastDemoTime : ℚ) : Nat → Int → List Int
  | 0, _ => []
  | fuel + 1, t =>
    if (t : ℚ) ≤ lastDemoTime then t :: demonstrationLoop lastDemoTime fuel (t + 15) else []

/-- The times `ScheduleBLEMAODVDemonstrations(…, simulationTime)` schedules a
demonstration at, `lastDemoTime = simulationTime - 5`; the loop stops by its
own test within `⌈simulationTime⌉` iterations (`demonstrationTimes_exits`). -/
def demonstrationTimes (simulationTime : ℚ) : List Int :=
  demonstrationLoop (simulationTime - 5) ⌈simulationTime⌉₊ 5

/-- The calls `RunBLEMAODVSimulation` makes on its collector: during the run,
each demonstration's `RecordRouteChange()`; after it, at `now`, the loop over
the flow statistics.  Nothing in the program records a proactive switch. -/
def simulationCalls (simulationTime : ℚ) (now : Time) (stats : StdMap Nat FlowMonitorStats) :
    List (Time × CollectorCall) :=
  (demonstrationTimes simulationTime).map (fun t => (Time.seconds t, .recordRouteChange)) ++
    (stats.toList.flatMap flowCalls).map fun call => (now, call)

/-- One more iteration changes nothing once the loop's own test has failed. -/
theorem demonstrationLoop_succ (lastDemoTime : ℚ) :
    ∀ (fuel : Nat) (t : Int), lastDemoTime < t + 15 * fuel →
      demonstrationLoop lastDemoTime (fuel + 1) t = demonstrationLoop lastDemoTime fuel t
  | 0, t, h => by simp only [demonstrationLoop, Nat.cast_zero, mul_zero, add_zero] at h ⊢; simp [h]
  | fuel + 1, t, h => by
    show (if (t : ℚ) ≤ lastDemoTime then t :: demonstrationLoop lastDemoTime (fuel + 1) (t + 15)
        else []) = if (t : ℚ) ≤ lastDemoTime then t :: demonstrationLoop lastDemoTime fuel (t + 15)
        else []
    rw [demonstrationLoop_succ lastDemoTime fuel (t + 15) (by push_cast at h ⊢; linarith)]

theorem demonstrationTimes_exits (simulationTime : ℚ) :
    demonstrationLoop (simulationTime - 5) (⌈simulationTime⌉₊ + 1) 5 =
      demonstrationTimes simulationTime :=
  demonstrationLoop_succ _ _ _ (by
    have := Nat.le_ceil simulationTime
    have : (0 : ℚ) ≤ ⌈simulationTime⌉₊ := Nat.cast_nonneg _
    push_cast; linarith)

/-- The loop schedules one demonstration per 15 s of its range. -/
theorem demonstrationLoop_length (lastDemoTime : ℚ) :
    ∀ (fuel : Nat) (t : Int),
      ((demonstrationLoop lastDemoTime fuel t).length : ℚ) * 15 ≤ max 0 (lastDemoTime - t + 15)
  | 0, t => by simp [demonstrationLoop]
  | fuel + 1, t => by
    rw [demonstrationLoop]
    split
    · rename_i ht
      have ih := demonstrationLoop_length lastDemoTime fuel (t + 15)
      rw [List.length_cons, Nat.cast_succ]
      push_cast at ih ⊢
      rw [max_eq_right (by linarith)] at ih
      exact le_max_of_le_right (by linarith)
    · simp

theorem demonstrationTimes_ne_nil_iff (simulationTime : ℚ) :
    demonstrationTimes simulationTime ≠ [] ↔ 10 ≤ simulationTime := by
  unfold demonstrationTimes
  cases h : ⌈simulationTime⌉₊ with
  | zero =>
    have : simulationTime ≤ 0 := Nat.ceil_eq_zero.1 h
    simp only [demonstrationLoop, ne_eq, not_true_eq_false, false_iff, not_le]
    linarith
  | succ n =>
    rw [demonstrationLoop]
    split
    · rename_i ht
      push_cast at ht
      exact ⟨fun _ => by linarith, fun _ => List.cons_ne_nil _ _⟩
    · rename_i ht
      push_cast at ht
      exact ⟨fun hne => absurd rfl hne, fun h10 => absurd (by linarith) ht⟩

theorem tally_append {β : Type} [AddMonoid β] (f : CollectorCall → β)
    (l₁ l₂ : List (Time × CollectorCall)) : tally f (l₁ ++ l₂) = tally f l₁ + tally f l₂ := by
  simp [tally, List.sum_append]

private theorem sum_map_flatMap {α γ β : Type} [AddMonoid β] (g : α → List γ) (f : γ → β) :
    ∀ l : List α, ((l.flatMap g).map f).sum = (l.map fun x => ((g x).map f).sum).sum
  | [] => rfl
  | x :: l => by
    rw [List.flatMap_cons, List.map_append, List.sum_append, sum_map_flatMap g f l, List.map_cons,
      List.sum_cons]

/-- The simulation's calls, tallied: the demonstrations' share, then each
flow's. -/
theorem tally_simulationCalls {β : Type} [AddCommMonoid β] (f : CollectorCall → β)
    (simulationTime : ℚ) (now : Time) (stats : StdMap Nat FlowMonitorStats) :
    tally f (simulationCalls simulationTime now stats) =
      (demonstrationTimes simulationTime).length • f .recordRouteChange +
        (stats.toList.map fun flow => ((flowCalls flow).map f).sum).sum := by
  rw [simulationCalls, tally_append]
  simp only [tally, List.map_map, Function.comp_def, List.map_const', List.sum_replicate]
  rw [sum_map_flatMap]

/-- What one flow's calls record. -/
theorem flowCalls_tallies (flow : Nat × FlowMonitorStats) :
    ((flowCalls flow).map CollectorCall.sent).sum = 1 ∧
    ((flowCalls flow).map CollectorCall.received).sum =
      (if flow.2.rxPackets > 0 then 1 else 0) ∧
    ((flowCalls flow).map CollectorCall.delay).sum =
      (if flow.2.rxPackets > 0 then (flow.2.delaySum.div flow.2.rxPackets).getSeconds else 0) ∧
    ((flowCalls flow).map CollectorCall.bytes).sum = flow.2.txPackets + flow.2.rxPackets ∧
    ∀ k, ((flowCalls flow).map (CollectorCall.bumps k)).sum = 0 := by
  unfold flowCalls
  split
  · simp [CollectorCall.sent, CollectorCall.received, CollectorCall.delay, CollectorCall.bytes,
      CollectorCall.bumps, CollectorCall.routeCounter?]
  · rename_i h
    simp [CollectorCall.sent, CollectorCall.received, CollectorCall.delay, CollectorCall.bytes,
      CollectorCall.bumps, CollectorCall.routeCounter?, show flow.2.rxPackets = 0 by omega]

private theorem sum_map_ite_filter {α β : Type} [AddCommMonoid β] (p : α → Prop) [DecidablePred p]
    (g : α → β) : ∀ l : List α,
      (l.map fun x => if p x then g x else 0).sum = ((l.filter fun x => p x).map g).sum
  | [] => rfl
  | x :: l => by
    by_cases hx : p x <;> simp [List.filter_cons, hx, sum_map_ite_filter p g l]

/-- **The metrics `RunBLEMAODVSimulation` reports.**  Whatever the flow
statistics, with fewer than `2^32` flows: the PDR is the share of flows that
delivered at least one packet, not the share of packets; the delay is the
unweighted mean, over those flows, of each flow's `delaySum / rxPackets`; the
throughput is `8 ×` the packets sent and received over the elapsed seconds, since
the packet counts are recorded as sizes; and the route stability is `0` as soon
as one demonstration ran (`simulationTime ≥ 10`), `1` otherwise, since nothing
records a proactive switch. -/
theorem runBLEMAODVSimulation_metrics (simulationTime : ℚ) (start now : Time)
    (stats : StdMap Nat FlowMonitorStats) (hflows : stats.toList.length < 2 ^ 32)
    (htime : simulationTime < 2 ^ 32) :
    let m : Metrics := (run (simulationCalls simulationTime now stats)
      (ResearchMetricsCollector.mk' start)).calculateAllMetrics now
    let delivering := stats.toList.filter fun flow => flow.2.rxPackets > 0
    let packets := (stats.toList.map fun flow => flow.2.txPackets + flow.2.rxPackets).sum
    m.overallPDR =
      (if stats.toList.length > 0 then (delivering.length : ℚ) / stats.toList.length else 0) ∧
    m.overallDelay = (if delivering.length > 0 then
        (delivering.map fun flow => (flow.2.delaySum.div flow.2.rxPackets).getSeconds).sum /
          delivering.length
      else 0) ∧
    (8 * packets < 2 ^ 32 →
      m.throughput = if (now - start).getSeconds > 0 then
        ((8 * packets : Nat) : ℚ) / (now - start).getSeconds else 0) ∧
    m.routeStability = if 10 ≤ simulationTime then 0 else 1 := by
  intro m delivering packets
  have hm := (run_tallies start (simulationCalls simulationTime now stats)).metrics now
  rw [show (run (simulationCalls simulationTime now stats)
    (ResearchMetricsCollector.mk' start)).startTime = start from startTime_run _ _] at hm
  obtain ⟨-, hpdr, hdelay, hthroughput, hstability⟩ := hm
  have hdel : delivering.length < 2 ^ 32 := (List.length_filter_le _ _).trans_lt hflows
  have hsent : tally CollectorCall.sent (simulationCalls simulationTime now stats) =
      stats.toList.length := by
    simp [tally_simulationCalls, flowCalls_tallies, CollectorCall.sent]
  have hrec : tally CollectorCall.received (simulationCalls simulationTime now stats) =
      delivering.length := by
    simp [tally_simulationCalls, flowCalls_tallies, CollectorCall.received, sum_map_ite_filter,
      delivering]
  have hdelays : tally CollectorCall.delay (simulationCalls simulationTime now stats) =
      (delivering.map fun flow => (flow.2.delaySum.div flow.2.rxPackets).getSeconds).sum := by
    simp [tally_simulationCalls, flowCalls_tallies, CollectorCall.delay, sum_map_ite_filter,
      delivering]
  have hbytes : tally CollectorCall.bytes (simulationCalls simulationTime now stats) = packets := by
    simp [tally_simulationCalls, flowCalls_tallies, CollectorCall.bytes, packets]
  have hchanges : tally (CollectorCall.bumps .routeChanges)
      (simulationCalls simulationTime now stats) = (demonstrationTimes simulationTime).length := by
    simp [tally_simulationCalls, flowCalls_tallies, CollectorCall.bumps,
      CollectorCall.routeCounter?]
  have hswitches : tally (CollectorCall.bumps .proactiveSwitches)
      (simulationCalls simulationTime now stats) = 0 := by
    simp [tally_simulationCalls, flowCalls_tallies, CollectorCall.bumps,
      CollectorCall.routeCounter?]
  have hdemo : (demonstrationTimes simulationTime).length < 2 ^ 32 := by
    have hl := demonstrationLoop_length (simulationTime - 5) ⌈simulationTime⌉₊ 5
    rw [← demonstrationTimes] at hl
    have hmax : max 0 (simulationTime - 5 - ((5 : Int) : ℚ) + 15) < 2 ^ 32 * 15 :=
      max_lt (by norm_num) (by push_cast; linarith only [htime])
    exact_mod_cast lt_of_mul_lt_mul_right (hl.trans_lt hmax) (by norm_num : (0 : ℚ) ≤ 15)
  refine ⟨?_, ?_, fun hp => ?_, ?_⟩
  · rw [hpdr, hsent, hrec, Nat.mod_eq_of_lt hflows, Nat.mod_eq_of_lt hdel]
  · rw [hdelay (by rw [hrec]; exact hdel), hrec, hdelays, Nat.mod_eq_of_lt hdel]
  · rw [hthroughput (by rw [hbytes]; exact hp), hbytes]
  · rw [hstability, hchanges, hswitches, Nat.mod_eq_of_lt hdemo, Nat.zero_mod, Nat.cast_zero,
      zero_div]
    by_cases h10 : 10 ≤ simulationTime
    · rw [if_pos (List.length_pos.2 ((demonstrationTimes_ne_nil_iff _).2 h10)), if_pos h10]
    · rw [if_neg h10, not_not.1 (mt (demonstrationTimes_ne_nil_iff _).1 h10), List.length_nil,
        if_neg (lt_irrefl 0)]

theorem runBLEMAODVSimulation_metrics_two_flows :
    let stats : StdMap Nat FlowMonitorStats :=
      (StdMap.empty.assign 1 ⟨100, 90, Time.seconds 9⟩).assign 2 ⟨50, 0, default⟩
    stats.toList.length < 2 ^ 32 ∧ (60 : ℚ) < 2 ^ 32 ∧
    (let m : Metrics := (run (simulationCalls 60 (Time.seconds 60) stats)
      (ResearchMetricsCollector.mk' default)).calculateAllMetrics (Time.seconds 60)
    let delivering := stats.toList.filter fun flow => flow.2.rxPackets > 0
    let packets := (stats.toList.map fun flow => flow.2.txPackets + flow.2.rxPackets).sum
    m.overallPDR =
      (if stats.toList.length > 0 then (delivering.length : ℚ) / stats.toList.length else 0) ∧
    m.overallDelay = (if delivering.length > 0 then
        (delivering.map fun flow => (flow.2.delaySum.div flow.2.rxPackets).getSeconds).sum /
          delivering.length
      else 0) ∧
    (8 * packets < 2 ^ 32 →
      m.throughput = if (Time.seconds 60 - default).getSeconds > 0 then
        ((8 * packets : Nat) : ℚ) / (Time.seconds 60 - default).getSeconds else 0) ∧
    m.routeStability = if 10 ≤ (60 : ℚ) then 0 else 1) :=
  ⟨by decide, by norm_num,
    runBLEMAODVSimulation_metrics 60 default (Time.seconds 60) _ (by decide) (by norm_num)⟩

end Research

end BleMaodv

/-
The metric types of the BLE-MAODV path-selection engine
(`scratch/ble-maodv-comprehensive-test.cc`).

`BLEMetrics` is the link-quality sample of one path, with its transmission
counters; `NetworkContext` is the network state that picks the weights;
`WeightFactors` are the four weights of the composite score, and
`AdaptiveWeightCalculator::CalculateWeights` adjusts the base weights by four
cumulative rules and normalizes them.

Design notes: `double` fields are exact rationals.  The transmission counters
are `uint32_t`, so their increments are taken modulo `2^32`.
-/
import AodvMultipath.Time
import Mathlib.Algebra.Order.Field.Rat

namespace BleMaodv

open Ns3

/-- `BLEMetrics`. -/
structure BLEMetrics where
  residualEnergy : ℚ
  rssiValue : ℚ
  stabilityScore : ℚ
  hopCount : Nat
  lastUpdated : Time
  successfulTx : Nat
  totalTx : Nat
deriving DecidableEq, Repr

namespace BLEMetrics

/-- `BLEMetrics()`, constructed at time `now`. -/
def default (now : Time) : BLEMetrics := ⟨1, -70, 1 / 2, 0, now, 0, 0⟩

/-- `BLEMetrics(energy, rssi, stability, hops)`, constructed at time `now`. -/
def mk' (now : Time) (energy rssi stability : ℚ) (hops : Nat) : BLEMetrics :=
  ⟨energy, rssi, stability, hops, now, 0, 0⟩

/-- `(totalTx > 0) ? (double)successfulTx / totalTx : 1.0`. -/
def successRate (successfulTx totalTx : Nat) : ℚ :=
  if totalTx > 0 then (successfulTx : ℚ) / totalTx else 1

/-- `UpdateTransmission(success)` at time `now`. -/
def updateTransmission (now : Time) (success : Bool) (m : BLEMetrics) : BLEMetrics :=
  let totalTx := (m.totalTx + 1) % 2 ^ 32
  let successfulTx := if success then (m.successfulTx + 1) % 2 ^ 32 else m.successfulTx
  let recentSuccessRate := successRate successfulTx totalTx
  let stabilityScore := 4 / 5 * recentSuccessRate + 1 / 5 * m.stabilityScore
  { m with
    totalTx := totalTx, successfulTx := successfulTx,
    stabilityScore := max (1 / 10) (min 1 stabilityScore), lastUpdated := now }

/-- `GetNormalizedRSSI()`: RSSI from −100 dBm to −30 dBm onto `[0, 1]`. -/
def getNormalizedRSSI (m : BLEMetrics) : ℚ := max 0 (min 1 ((m.rssiValue + 100) / 70))

/-- `GetNormalizedHopScore()`. -/
def getNormalizedHopScore (m : BLEMetrics) : ℚ := 1 / (1 + (m.hopCount : ℚ))

/-- `GetSuccessRate()`. -/
def getSuccessRate (m : BLEMetrics) : ℚ := successRate m.successfulTx m.totalTx

end BLEMetrics

/-- `NetworkContext`. -/
structure NetworkContext where
  nodeDensity : ℚ
  mobilityLevel : ℚ
  energyCriticality : ℚ
  trafficIntensity : ℚ
  neighborCount : Nat
  averageEnergy : ℚ
deriving DecidableEq, Repr

namespace NetworkContext

/-- `NetworkContext()`. -/
def default : NetworkContext := ⟨1 / 2, 1 / 2, 1 / 2, 1 / 2, 0, 1⟩

/-- `GetContextType()`. -/
def getContextType (c : NetworkContext) : String :=
  if c.energyCriticality > 7 / 10 then "Energy-Critical"
  else if c.mobilityLevel > 7 / 10 then "High-Mobility"
  else if c.nodeDensity > 7 / 10 then "High-Density"
  else if c.trafficIntensity > 7 / 10 then "Traffic-Critical"
  else "Balanced"

/-- `UpdateFromNetwork(neighbors, avgEnergy, mobility, totalPackets)`. -/
def updateFromNetwork (neighbors : Nat) (avgEnergy mobility : ℚ) (totalPackets : Nat)
    (c : NetworkContext) : NetworkContext :=
  { c with
    neighborCount := neighbors, averageEnergy := avgEnergy, mobilityLevel := mobility,
    nodeDensity := min 1 ((neighbors : ℚ) / 10), energyCriticality := 1 - avgEnergy,
    trafficIntensity := min 1 ((totalPackets : ℚ) / 500) }

end NetworkContext

/-- `WeightFactors`. -/
structure WeightFactors where
  hopWeight : ℚ
  energyWeight : ℚ
  rssiWeight : ℚ
  stabilityWeight : ℚ
deriving DecidableEq, Repr

namespace WeightFactors

/-- `WeightFactors()`: equal weights. -/
def default : WeightFactors := ⟨1 / 4, 1 / 4, 1 / 4, 1 / 4⟩

/-- `Normalize()`: negative weights become 0, then the weights are divided by
their sum, or all set to 0.25 when the sum is 0. -/
def normalize (w : WeightFactors) : WeightFactors :=
  let hopWeight := max 0 w.hopWeight
  let energyWeight := max 0 w.energyWeight
  let rssiWeight := max 0 w.rssiWeight
  let stabilityWeight := max 0 w.stabilityWeight
  let total := hopWeight + energyWeight + rssiWeight + stabilityWeight
  if total > 0 then
    ⟨hopWeight / total, energyWeight / total, rssiWeight / total, stabilityWeight / total⟩
  else ⟨1 / 4, 1 / 4, 1 / 4, 1 / 4⟩

end WeightFactors

namespace AdaptiveWeightCalculator

/-- `HIGH_DENSITY_THRESHOLD`. -/
def HIGH_DENSITY_THRESHOLD : ℚ := 7 / 10
/-- `HIGH_MOBILITY_THRESHOLD`. -/
def HIGH_MOBILITY_THRESHOLD : ℚ := 6 / 10
/-- `HIGH_ENERGY_THRESHOLD`. -/
def HIGH_ENERGY_THRESHOLD : ℚ := 3 / 10
/-- `HIGH_TRAFFIC_THRESHOLD`. -/
def HIGH_TRAFFIC_THRESHOLD : ℚ := 7 / 10

/-- `CalculateWeights(context)`: the base weights, the four adjustment rules in
their fixed order, then `Normalize()`. -/
def calculateWeights (context : NetworkContext) : WeightFactors :=
  let w : WeightFactors := ⟨3 / 10, 1 / 4, 1 / 4, 1 / 5⟩
  let w := if context.nodeDensity > HIGH_DENSITY_THRESHOLD then
      let adjustment := min (15 / 100) w.hopWeight
      { w with energyWeight := w.energyWeight + 15 / 100,
               stabilityWeight := w.stabilityWeight + 1 / 10,
               hopWeight := w.hopWeight - adjustment,
               rssiWeight := max 0 (w.rssiWeight - 1 / 10) }
    else w
  let w := if context.mobilityLevel > HIGH_MOBILITY_THRESHOLD then
      let adjustment := min (2 / 10) w.hopWeight
      { w with stabilityWeight := w.stabilityWeight + 2 / 10,
               rssiWeight := w.rssiWeight + 15 / 100,
               hopWeight := w.hopWeight - adjustment,
               energyWeight := max 0 (w.energyWeight - 15 / 100) }
    else w
  let w := if context.energyCriticality > HIGH_ENERGY_THRESHOLD then
      { w with energyWeight := w.energyWeight + 3 / 10,
               hopWeight := max 0 (w.hopWeight - 15 / 100),
               rssiWeight := max 0 (w.rssiWeight - 1 / 10),
               stabilityWeight := max 0 (w.stabilityWeight - 5 / 100) }
    else w
  let w := if context.trafficIntensity > HIGH_TRAFFIC_THRESHOLD then
      { w with stabilityWeight := w.stabilityWeight + 1 / 4,
               rssiWeight := w.rssiWeight + 1 / 10,
               hopWeight := w.hopWeight + 5 / 100,
               energyWeight := max 0 (w.energyWeight - 2 / 10) }
    else w
  w.normalize

end AdaptiveWeightCalculator

end BleMaodv

/-
The AODV routing table of `aodv-rtable.cc` (`RoutingTable`).

The table holds the unicast map from destination to `RoutingTableEntry`, the
lifetime given to a route that breaks (`m_badLinkLifetime`) and the multipath
map from destination to `MultipathRouteEntry`.  Every operation runs at a time
`now` (`Simulator::Now()`) and returns its result with the table it leaves.

`Purge()` sweeps the unicast map — an entry whose lifetime has run out is
erased when INVALID and invalidated when VALID — and then the multipath map;
it returns at once when the unicast map is empty, multipath map included.
The lookups, `AddRoute`, `DeleteRoute`, `GetListOfDestinationWithNextHop` and
`InvalidateRoutesWithDst` purge first.  `Update`, `SetEntryState` and
`MarkLinkAsUnidirectional` are one operation, `modifyEntry`, on different
fields.

Design notes: an operation with a reference parameter returns that
parameter's final value beside its result (`LookupRoute`'s `rt`,
`AddRoute`'s `rt`, `GetBestMultipathRoute`'s `pathInfo`).  `Print` is not
modelled.
-/
import AodvMultipath.StdMap
import AodvMultipath.RoutingTableEntry
import AodvMultipath.MultipathRouteEntry

namespace Aodv

open Ns3

/-- `RoutingTable`. -/
structure RoutingTable where
  ipv4AddressEntry : StdMap Ipv4Address RoutingTableEntry
  badLinkLifetime : Time
  multipathTable : StdMap Ipv4Address MultipathRouteEntry

namespace RoutingTable

/-- `RoutingTable(t)`: both maps empty. -/
def mk' (t : Time) : RoutingTable := ⟨StdMap.empty, t, StdMap.empty⟩

/-! ### Purging -/

/-- The body of the `Purge` loops for one entry at `now`: `none` erases it. -/
def purgeEntry (now badLinkLifetime : Time) (e : RoutingTableEntry) :
    Option RoutingTableEntry :=
  if (e.getLifeTime now).IsStrictlyNegative then
    match e.flag with
    | .invalid => none
    | .valid => some (e.invalidate now badLinkLifetime)
    | .inSearch => some e
  else some e

/-- `Purge(table)`: the const overload, on a copy of the unicast map. -/
def purgeTable (now badLinkLifetime : Time) (table : StdMap Ipv4Address RoutingTableEntry) :
    StdMap Ipv4Address RoutingTableEntry :=
  if table.isEmpty then table else table.sweep fun _ e => purgeEntry now badLinkLifetime e

/-- The body of the `PurgeMultipathRoutes` loop: `GetBestPath()` erases the
expired paths, and the entry goes when `HasValidPath()` is false. -/
def purgeMultipathEntry (now : Time) (e : MultipathRouteEntry) : Option MultipathRouteEntry :=
  let r := ((e.getBestPath now).2).hasValidPath now
  if r.1 then some r.2 else none

/-- `PurgeMultipathRoutes()`. -/
def purgeMultipathRoutes (now : Time) (t : RoutingTable) : RoutingTable :=
  { t with multipathTable := t.multipathTable.sweep fun _ e => purgeMultipathEntry now e }

/-- `Purge()`. -/
def purge (now : Time) (t : RoutingTable) : RoutingTable :=
  if t.ipv4AddressEntry.isEmpty then t
  else purgeMultipathRoutes now
    { t with ipv4AddressEntry :=
        t.ipv4AddressEntry.sweep fun _ e => purgeEntry now t.badLinkLifetime e }

/-! ### Unicast operations -/

/-- The search `LookupRoute` makes in the purged map: whether `id` has an
entry, and the value `rt` is left with. -/
def findRoute (m : StdMap Ipv4Address RoutingTableEntry) (id : Ipv4Address)
    (rt : RoutingTableEntry) : Bool × RoutingTableEntry :=
  if m.isEmpty then (false, rt)
  else
    match m.find id with
    | none => (false, rt)
    | some e => (true, e)

/-- `LookupRoute(id, rt)`: whether a route was found, and `rt` after the call. -/
def lookupRoute (now : Time) (id : Ipv4Address) (rt : RoutingTableEntry) (t : RoutingTable) :
    (Bool × RoutingTableEntry) × RoutingTable :=
  let t := t.purge now
  (findRoute t.ipv4AddressEntry id rt, t)

/-- `LookupValidRoute(id, rt)`. -/
def lookupValidRoute (now : Time) (id : Ipv4Address) (rt : RoutingTableEntry)
    (t : RoutingTable) : (Bool × RoutingTableEntry) × RoutingTable :=
  let r := t.lookupRoute now id rt
  if !r.1.1 then ((false, r.1.2), r.2) else ((decide (r.1.2.flag = .valid), r.1.2), r.2)

/-- `DeleteRoute(dst)`. -/
def deleteRoute (now : Time) (dst : Ipv4Address) (t : RoutingTable) : Bool × RoutingTable :=
  let t := t.purge now
  let r := t.ipv4AddressEntry.erase dst
  (decide (r.2 ≠ 0), { t with ipv4AddressEntry := r.1 })

/-- An entry as `AddRoute` and `Update` store it: the RREQ counter is reset
unless the route is IN_SEARCH. -/
def resetRreqCnt (rt : RoutingTableEntry) : RoutingTableEntry :=
  if rt.flag ≠ .inSearch then { rt with reqCount := 0 } else rt

/-- `AddRoute(rt)`: whether `rt` was inserted, and the caller's `rt` after the call. -/
def addRoute (now : Time) (rt : RoutingTableEntry) (t : RoutingTable) :
    (Bool × RoutingTableEntry) × RoutingTable :=
  let t := t.purge now
  let rt := resetRreqCnt rt
  let r := t.ipv4AddressEntry.insert rt.destination rt
  ((r.2, rt), { t with ipv4AddressEntry := r.1 })

/-- `i = find(id); if (i == end) return false; <rewrite i->second>; return true`,
the shape of `Update`, `SetEntryState` and `MarkLinkAsUnidirectional`. -/
def modifyEntry (id : Ipv4Address) (f : RoutingTableEntry → RoutingTableEntry)
    (t : RoutingTable) : Bool × RoutingTable :=
  match t.ipv4AddressEntry.find id with
  | none => (false, t)
  | some _ => (true, { t with ipv4AddressEntry := t.ipv4AddressEntry.modify id f })

/-- `Update(rt)`. -/
def update (rt : RoutingTableEntry) (t : RoutingTable) : Bool × RoutingTable :=
  t.modifyEntry rt.destination fun _ => resetRreqCnt rt

/-- `SetEntryState(id, state)`. -/
def setEntryState (id : Ipv4Address) (state : RouteFlags) (t : RoutingTable) :
    Bool × RoutingTable :=
  t.modifyEntry id fun e => { e with flag := state, reqCount := 0 }

/-- `MarkLinkAsUnidirectional(neighbor, blacklistTimeout)`. -/
def markLinkAsUnidirectional (neighbor : Ipv4Address) (blacklistTimeout : Time)
    (t : RoutingTable) : Bool × RoutingTable :=
  t.modifyEntry neighbor fun e =>
    { e with blackListState := true, blackListTimeout := blacklistTimeout, reqCount := 0 }

/-- `GetListOfDestinationWithNextHop(nextHop, unreachable)`: the map
`unreachable` it fills, from destination to sequence number. -/
def getListOfDestinationWithNextHop (now : Time) (nextHop : Ipv4Address) (t : RoutingTable) :
    StdMap Ipv4Address Nat × RoutingTable :=
  let t := t.purge now
  (t.ipv4AddressEntry.toList.foldl (fun unreachable i =>
      if i.2.nextHop = nextHop then (unreachable.insert i.1 i.2.seqNo).1 else unreachable)
    StdMap.empty, t)

/-- The inner loop of `InvalidateRoutesWithDst` for the entry at key `k`. -/
def invalidateIfListed (now badLinkLifetime : Time) (unreachable : StdMap Ipv4Address Nat)
    (k : Ipv4Address) (e : RoutingTableEntry) : RoutingTableEntry :=
  unreachable.toList.foldl (fun e j =>
    if k = j.1 ∧ e.flag = .valid then e.invalidate now badLinkLifetime else e) e

/-- `InvalidateRoutesWithDst(unreachable)`. -/
def invalidateRoutesWithDst (now : Time) (unreachable : StdMap Ipv4Address Nat)
    (t : RoutingTable) : RoutingTable :=
  let t := t.purge now
  let m := t.ipv4AddressEntry.sweep fun k e =>
    some (invalidateIfListed now t.badLinkLifetime unreachable k e)
  { t with ipv4AddressEntry := m }

/-- `DeleteAllRoutesFromInterface(iface)`. -/
def deleteAllRoutesFromInterface (iface : Ipv4InterfaceAddress) (t : RoutingTable) :
    RoutingTable :=
  if t.ipv4AddressEntry.isEmpty then t
  else { t with ipv4AddressEntry :=
    t.ipv4AddressEntry.sweep fun _ e => if e.iface = iface then none else some e }

/-! ### Multipath operations -/

/-- `AddMultipathRoute(dst, nextHop, hopCount, lifetime)`. -/
def addMultipathRoute (now : Time) (dst nextHop : Ipv4Address) (hopCount : Nat)
    (lifetime : Time) (t : RoutingTable) : Bool × RoutingTable :=
  match t.multipathTable.find dst with
  | none =>
    let newEntry := (MultipathRouteEntry.mk' dst).addPath now nextHop hopCount lifetime
    (true, { t with multipathTable := t.multipathTable.assign dst newEntry })
  | some _ =>
    (true, { t with multipathTable :=
      t.multipathTable.modify dst fun e => e.addPath now nextHop hopCount lifetime })

/-- `GetBestMultipathRoute(dst, pathInfo)`: whether a route was found, and
`pathInfo` after the call. -/
def getBestMultipathRoute (now : Time) (dst : Ipv4Address) (pathInfo : PathInfo)
    (t : RoutingTable) : (Bool × PathInfo) × RoutingTable :=
  match t.multipathTable.find dst with
  | none => ((false, pathInfo), t)
  | some e =>
    let r := e.getBestPath now
    ((r.1.isValid, r.1), { t with multipathTable := t.multipathTable.modify dst fun _ => r.2 })

/-- `GetAllMultipathRoutes(dst)`. -/
def getAllMultipathRoutes (now : Time) (dst : Ipv4Address) (t : RoutingTable) :
    List PathInfo × RoutingTable :=
  match t.multipathTable.find dst with
  | none => ([], t)
  | some e =>
    let r := e.getAllPaths now
    (r.1, { t with multipathTable := t.multipathTable.modify dst fun _ => r.2 })

/-- `HasMultipathRoute(dst)`. -/
def hasMultipathRoute (now : Time) (dst : Ipv4Address) (t : RoutingTable) :
    Bool × RoutingTable :=
  match t.multipathTable.find dst with
  | none => (false, t)
  | some e =>
    let r := e.hasValidPath now
    (r.1, { t with multipathTable := t.multipathTable.modify dst fun _ => r.2 })

/-- `RemoveMultipathRoute(dst, nextHop)`. -/
def removeMultipathRoute (now : Time) (dst nextHop : Ipv4Address) (t : RoutingTable) :
    Bool × RoutingTable :=
  match t.multipathTable.find dst with
  | none => (false, t)
  | some e =>
    let r := (e.removePath nextHop).hasValidPath now
    if !r.1 then (true, { t with multipathTable := (t.multipathTable.erase dst).1 })
    else (true, { t with multipathTable := t.multipathTable.modify dst fun _ => r.2 })

/-! ### Runs -/

/-- A call of one of the table's public operations, with its arguments. -/
inductive Call
  | addRoute (rt : RoutingTableEntry)
  | update (rt : RoutingTableEntry)
  | deleteRoute (dst : Ipv4Address)
  | setEntryState (id : Ipv4Address) (state : RouteFlags)
  | markLinkAsUnidirectional (neighbor : Ipv4Address) (blacklistTimeout : Time)
  | lookupRoute (id : Ipv4Address) (rt : RoutingTableEntry)
  | lookupValidRoute (id : Ipv4Address) (rt : RoutingTableEntry)
  | getListOfDestinationWithNextHop (nextHop : Ipv4Address)
  | invalidateRoutesWithDst (unreachable : StdMap Ipv4Address Nat)
  | deleteAllRoutesFromInterface (iface : Ipv4InterfaceAddress)
  | purge
  | addMultipathRoute (dst nextHop : Ipv4Address) (hopCount : Nat) (lifetime : Time)
  | removeMultipathRoute (dst nextHop : Ipv4Address)
  | getBestMultipathRoute (dst : Ipv4Address) (pathInfo : PathInfo)
  | getAllMultipathRoutes (dst : Ipv4Address)
  | hasMultipathRoute (dst : Ipv4Address)
  | purgeMultipathRoutes

/-- The table a call made at `now` leaves. -/
def step (now : Time) : Call → RoutingTable → RoutingTable
  | .addRoute rt, t => (t.addRoute now rt).2
  | .update rt, t => (t.update rt).2
  | .deleteRoute dst, t => (t.deleteRoute now dst).2
  | .setEntryState id state, t => (t.setEntryState id state).2
  | .markLinkAsUnidirectional neighbor timeout, t => (t.markLinkAsUnidirectional neighbor timeout).2
  | .lookupRoute id rt, t => (t.lookupRoute now id rt).2
  | .lookupValidRoute id rt, t => (t.lookupValidRoute now id rt).2
  | .getListOfDestinationWithNextHop nextHop, t => (t.getListOfDestinationWithNextHop now nextHop).2
  | .invalidateRoutesWithDst unreachable, t => t.invalidateRoutesWithDst now unreachable
  | .deleteAllRoutesFromInterface iface, t => t.deleteAllRoutesFromInterface iface
  | .purge, t => t.purge now
  | .addMultipathRoute dst nextHop hopCount lifetime, t =>
    (t.addMultipathRoute now dst nextHop hopCount lifetime).2
  | .removeMultipathRoute dst nextHop, t => (t.removeMultipathRoute now dst nextHop).2
  | .getBestMultipathRoute dst pathInfo, t => (t.getBestMultipathRoute now dst pathInfo).2
  | .getAllMultipathRoutes dst, t => (t.getAllMultipathRoutes now dst).2
  | .hasMultipathRoute dst, t => (t.hasMultipathRoute now dst).2
  | .purgeMultipathRoutes, t => t.purgeMultipathRoutes now

/-- The table left by a sequence of calls, each made at its own time. -/
def run (calls : List (Time × Call)) (t : RoutingTable) : RoutingTable :=
  calls.foldl (fun t c => step c.1 c.2 t) t

end RoutingTable

end Aodv

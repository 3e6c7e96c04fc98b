/-
One entry of the AODV unicast routing table (`RoutingTableEntry`).

An entry stores the absolute time its lifetime ends (`m_lifeTime`) and reads
the remaining lifetime against the clock (`getLifeTime`).  `invalidate` is
`Invalidate(badLinkLifetime)`: a VALID or IN_SEARCH entry becomes INVALID with
a zero request count and `badLinkLifetime` left to live; an INVALID one is left
alone.  The precursor list is the list of neighbours that use this route.

* `getLifeTime_invalidate` — an entry just invalidated has exactly
  `badLinkLifetime` left;
* `invalidate_idem` — invalidating twice is invalidating once.

Design notes: the route's destination and gateway live in a shared
`Ptr<Ipv4Route>` in the source; here they are fields of the entry, so copies
of an entry do not alias (every operation of the table copies entries in and
out by value).
-/
import AodvMultipath.Time

namespace Aodv

open Ns3

/-- `RouteFlags`. -/
inductive RouteFlags
  | valid
  | invalid
  | inSearch
deriving DecidableEq, Repr

/-- `RoutingTableEntry`, with the fields the table's operations read and write. -/
structure RoutingTableEntry where
  validSeqNo : Bool
  seqNo : Nat
  hops : Nat
  /-- `m_lifeTime`: the absolute time at which the lifetime ends. -/
  lifeTime : Time
  /-- `m_ipv4Route->GetDestination()`. -/
  destination : Ipv4Address
  /-- `m_ipv4Route->GetGateway()`. -/
  nextHop : Ipv4Address
  iface : Ipv4InterfaceAddress
  flag : RouteFlags
  precursorList : List Ipv4Address
  /-- `m_reqCount`, the RREQ retry counter. -/
  reqCount : Nat
  blackListState : Bool
  blackListTimeout : Time
deriving DecidableEq, Repr

namespace RoutingTableEntry

/-- The constructor `RoutingTableEntry(dev, dst, vSeqNo, seqNo, iface, hops,
nextHop, lifetime)`, run at time `now`. -/
def mk' (now : Time) (dst : Ipv4Address) (vSeqNo : Bool) (seqNo : Nat)
    (iface : Ipv4InterfaceAddress) (hops : Nat) (nextHop : Ipv4Address)
    (lifetime : Time) : RoutingTableEntry :=
  { validSeqNo := vSeqNo, seqNo := seqNo, hops := hops, lifeTime := lifetime + now,
    destination := dst, nextHop := nextHop, iface := iface, flag := .valid,
    precursorList := [], reqCount := 0, blackListState := false, blackListTimeout := now }

/-- `GetLifeTime()`: the lifetime left at `now`. -/
def getLifeTime (now : Time) (e : RoutingTableEntry) : Time := e.lifeTime - now

/-- `Invalidate(badLinkLifetime)` at time `now`. -/
def invalidate (now badLinkLifetime : Time) (e : RoutingTableEntry) : RoutingTableEntry :=
  if e.flag = .invalid then e
  else { e with flag := .invalid, reqCount := 0, lifeTime := badLinkLifetime + now }

theorem invalidate_flag (now bl : Time) (e : RoutingTableEntry) :
    (e.invalidate now bl).flag = .invalid := by
  unfold invalidate; split <;> simp_all

theorem invalidate_of_invalid {now bl : Time} {e : RoutingTableEntry} (h : e.flag = .invalid) :
    e.invalidate now bl = e := if_pos h

theorem invalidate_of_ne {now bl : Time} {e : RoutingTableEntry} (h : e.flag ≠ .invalid) :
    e.invalidate now bl = { e with flag := .invalid, reqCount := 0, lifeTime := bl + now } :=
  if_neg h

theorem invalidate_idem (now bl : Time) (e : RoutingTableEntry) :
    (e.invalidate now bl).invalidate now bl = e.invalidate now bl :=
  invalidate_of_invalid (invalidate_flag now bl e)

theorem getLifeTime_invalidate {now bl : Time} {e : RoutingTableEntry} (h : e.flag ≠ .invalid) :
    (e.invalidate now bl).getLifeTime now = bl := by
  rw [invalidate_of_ne h]; exact Time.add_sub_cancel bl now

/-! ### Precursors -/

/-- `LookupPrecursor(id)`: the linear search of the precursor list. -/
def lookupPrecursor (id : Ipv4Address) (e : RoutingTableEntry) : Bool :=
  e.precursorList.elem id

/-- `InsertPrecursor(id)`: appends `id` unless it is already there. -/
def insertPrecursor (id : Ipv4Address) (e : RoutingTableEntry) : Bool × RoutingTableEntry :=
  if !e.lookupPrecursor id then (true, { e with precursorList := e.precursorList ++ [id] })
  else (false, e)

/-- `DeletePrecursor(id)`: `std::remove` packs the other precursors to the
front in order; when it moved the end, `erase` drops the tail. -/
def deletePrecursor (id : Ipv4Address) (e : RoutingTableEntry) : Bool × RoutingTableEntry :=
  let kept := e.precursorList.filter (· != id)
  if kept.length = e.precursorList.length then (false, e)
  else (true, { e with precursorList := kept })

/-- `DeleteAllPrecursors()`. -/
def deleteAllPrecursors (e : RoutingTableEntry) : RoutingTableEntry :=
  { e with precursorList := [] }

/-- `IsPrecursorListEmpty()`. -/
def isPrecursorListEmpty (e : RoutingTableEntry) : Bool := e.precursorList.isEmpty

/-- `GetPrecursors(prec)`: appends each precursor that the growing `prec` does
not hold yet. -/
def getPrecursors (e : RoutingTableEntry) (prec : List Ipv4Address) : List Ipv4Address :=
  if e.isPrecursorListEmpty then prec
  else e.precursorList.foldl (fun prec i => if prec.elem i then prec else prec ++ [i]) prec

end RoutingTableEntry

end Aodv

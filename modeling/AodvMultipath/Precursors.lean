/-
The precursor list of a routing-table entry: the neighbours that forward
packets through the route, kept in insertion order.

* `insertPrecursor_eq`, `deletePrecursor_eq` — what `InsertPrecursor` and
  `DeletePrecursor` return and leave, in terms of membership; on a list
  without repeats the `std::remove`/`erase` pair removes the one occurrence;
* **`precursor_list_duplicate_free`** — along every sequence of
  `InsertPrecursor`, `DeletePrecursor` and `DeleteAllPrecursors` calls from an
  empty list no address is listed twice;
* `getPrecursors_eq` — `GetPrecursors(prec)` appends to `prec`, in the entry's
  order, the first occurrence of every precursor `prec` does not hold: its
  nested loop is `List.eraseDups` run on the growing vector;
* **`getPrecursors_appends_missing`** — so `prec` stays without repeats, and
  folding `GetPrecursors` over entries gathers the union of their precursors.
-/
import AodvMultipath.RoutingTableEntry
import Mathlib.Data.List.Nodup

namespace Aodv

open Ns3

namespace RoutingTableEntry

/-! ### The mutators -/

@[simp] theorem lookupPrecursor_iff {id : Ipv4Address} {e : RoutingTableEntry} :
    e.lookupPrecursor id = true ↔ id ∈ e.precursorList := List.elem_iff

theorem insertPrecursor_eq (id : Ipv4Address) (e : RoutingTableEntry) :
    e.insertPrecursor id =
      if id ∈ e.precursorList then (false, e)
      else (true, { e with precursorList := e.precursorList ++ [id] }) := by
  by_cases h : id ∈ e.precursorList <;> simp [insertPrecursor, lookupPrecursor, h]

theorem deletePrecursor_eq {id : Ipv4Address} {e : RoutingTableEntry}
    (hnd : e.precursorList.Nodup) :
    e.deletePrecursor id =
      if id ∈ e.precursorList then (true, { e with precursorList := e.precursorList.erase id })
      else (false, e) := by
  have hlen : (e.precursorList.filter (· != id)).length = e.precursorList.length ↔
      id ∉ e.precursorList := by
    rw [List.filter_length_eq_length]
    exact ⟨fun h hm => by simpa using h id hm, fun h a ha => bne_iff_ne.2 fun e => h (e ▸ ha)⟩
  by_cases h : id ∈ e.precursorList
  · simp only [deletePrecursor, hlen, h, not_true, if_false, if_true, hnd.erase_eq_filter]
  · simp only [deletePrecursor, hlen, h, not_false_iff, if_true, if_false]

/-! ### Runs of the mutators -/

/-- A call of one of the entry's precursor mutators. -/
inductive PrecursorCall
  | insertPrecursor (id : Ipv4Address)
  | deletePrecursor (id : Ipv4Address)
  | deleteAllPrecursors
deriving DecidableEq, Repr

/-- The entry a mutator call leaves. -/
def PrecursorCall.apply : PrecursorCall → RoutingTableEntry → RoutingTableEntry
  | .insertPrecursor id, e => (e.insertPrecursor id).2
  | .deletePrecursor id, e => (e.deletePrecursor id).2
  | .deleteAllPrecursors, e => e.deleteAllPrecursors

/-- The entry left by a sequence of mutator calls. -/
def runPrecursors (calls : List PrecursorCall) (e : RoutingTableEntry) : RoutingTableEntry :=
  calls.foldl (fun e c => c.apply e) e

theorem apply_nodup (c : PrecursorCall) {e : RoutingTableEntry} (h : e.precursorList.Nodup) :
    (c.apply e).precursorList.Nodup := by
  cases c with
  | insertPrecursor id =>
    rw [PrecursorCall.apply, insertPrecursor_eq]
    split
    · exact h
    · rename_i hm
      have := h.concat hm
      rwa [List.concat_eq_append] at this
  | deletePrecursor id =>
    rw [PrecursorCall.apply, deletePrecursor_eq h]
    split
    · exact h.erase id
    · exact h
  | deleteAllPrecursors => exact List.nodup_nil

theorem runPrecursors_nodup :
    ∀ (calls : List PrecursorCall) {e : RoutingTableEntry}, e.precursorList.Nodup →
      (runPrecursors calls e).precursorList.Nodup
  | [], _, h => h
  | c :: rest, _, h => runPrecursors_nodup rest (apply_nodup c h)

/-- What the precursor operations do on an entry whose list has no repeats. -/
structure PrecursorListSound (e : RoutingTableEntry) : Prop where
  nodup : e.precursorList.Nodup
  lookup : ∀ id, e.lookupPrecursor id = true ↔ id ∈ e.precursorList
  insert : ∀ id, e.insertPrecursor id =
    if id ∈ e.precursorList then (false, e)
    else (true, { e with precursorList := e.precursorList ++ [id] })
  delete : ∀ id, e.deletePrecursor id =
    if id ∈ e.precursorList then (true, { e with precursorList := e.precursorList.erase id })
    else (false, e)

/-- **No precursor twice.**  From an empty precursor list, every sequence of
`InsertPrecursor`, `DeletePrecursor` and `DeleteAllPrecursors` calls leaves a
list without repeats, on which `LookupPrecursor` is membership,
`InsertPrecursor` appends exactly the absent addresses and `DeletePrecursor`
removes exactly the present ones, keeping the others in order. -/
theorem precursor_list_duplicate_free (calls : List PrecursorCall) (e : RoutingTableEntry)
    (h : e.precursorList = []) : PrecursorListSound (runPrecursors calls e) :=
  have hnd := runPrecursors_nodup calls (h ▸ List.nodup_nil)
  ⟨hnd, fun _ => lookupPrecursor_iff, fun id => insertPrecursor_eq id _,
    fun _ => deletePrecursor_eq hnd⟩

theorem precursor_list_duplicate_free_new_entry :
    let e := mk' default 1 true 0 ⟨1, 0, 0, 0, false⟩ 1 2 (Time.seconds 3)
    e.precursorList = [] ∧ PrecursorListSound (runPrecursors
      [.insertPrecursor 4, .insertPrecursor 4, .deletePrecursor 4, .insertPrecursor 5] e) :=
  ⟨rfl, precursor_list_duplicate_free _ _ rfl⟩

/-! ### Gathering precursors -/

/-- The nested loop of `GetPrecursors` is the loop of `List.eraseDups`, run on
the old vector followed by what it has appended so far. -/
theorem foldl_getPrecursors (prec : List Ipv4Address) :
    ∀ (l new : List Ipv4Address),
      l.foldl (fun prec i => if prec.elem i then prec else prec ++ [i]) (prec ++ new) =
        prec ++ List.eraseDups.loop (l.filter fun i => i ∉ prec) new.reverse
  | [], new => by simp [List.eraseDups.loop]
  | a :: l, new => by
    by_cases hp : a ∈ prec
    · rw [List.foldl_cons, if_pos (List.elem_iff.2 (List.mem_append_left _ hp)),
        List.filter_cons_of_neg (by simpa using hp)]
      exact foldl_getPrecursors prec l new
    have hkeep : (a :: l).filter (fun i => i ∉ prec) = a :: l.filter (fun i => i ∉ prec) :=
      List.filter_cons_of_pos (by simpa using hp)
    by_cases hn : a ∈ new
    · have h₁ : new.reverse.elem a = true := List.elem_iff.2 (List.mem_reverse.2 hn)
      rw [List.foldl_cons, if_pos (List.elem_iff.2 (List.mem_append_right _ hn)),
        hkeep, List.eraseDups.loop, h₁]
      exact foldl_getPrecursors prec l new
    · have h₁ : new.reverse.elem a = false := by simpa using hn
      rw [List.foldl_cons, if_neg (show ¬ (prec ++ new).elem a = true by simp [hp, hn]),
        List.append_assoc, foldl_getPrecursors prec l (new ++ [a]), hkeep, List.eraseDups.loop, h₁,
        List.reverse_append]
      rfl

theorem mem_eraseDups_loop {x : Ipv4Address} :
    ∀ (l bs : List Ipv4Address), x ∈ List.eraseDups.loop l bs ↔ x ∈ l ∨ x ∈ bs
  | [], bs => by simp [List.eraseDups.loop]
  | a :: l, bs => by
    by_cases ha : a ∈ bs
    · simp only [List.eraseDups.loop, List.elem_eq_mem, ha, decide_True]
      rw [mem_eraseDups_loop l bs, List.mem_cons]
      constructor
      · exact fun h => h.elim (fun h => Or.inl (Or.inr h)) Or.inr
      · rintro ((rfl | h) | h)
        · exact Or.inr ha
        · exact Or.inl h
        · exact Or.inr h
    · simp only [List.eraseDups.loop, List.elem_eq_mem, ha, decide_False]
      rw [mem_eraseDups_loop l (a :: bs), List.mem_cons, List.mem_cons]
      tauto

theorem nodup_eraseDups_loop :
    ∀ (l bs : List Ipv4Address), bs.Nodup → (List.eraseDups.loop l bs).Nodup
  | [], bs, h => by simpa [List.eraseDups.loop] using h
  | a :: l, bs, h => by
    by_cases ha : a ∈ bs
    · simp only [List.eraseDups.loop, List.elem_eq_mem, ha, decide_True]
      exact nodup_eraseDups_loop l bs h
    · simp only [List.eraseDups.loop, List.elem_eq_mem, ha, decide_False]
      exact nodup_eraseDups_loop l (a :: bs) (List.nodup_cons.2 ⟨ha, h⟩)

/-- `GetPrecursors(prec)`: the old vector, then the first occurrence of each
precursor it does not hold, in the entry's order. -/
theorem getPrecursors_eq (e : RoutingTableEntry) (prec : List Ipv4Address) :
    e.getPrecursors prec = prec ++ (e.precursorList.filter fun i => i ∉ prec).eraseDups := by
  unfold getPrecursors
  split
  · rename_i h
    simp only [isPrecursorListEmpty, List.isEmpty_iff] at h
    simp [h, List.eraseDups, List.eraseDups.loop]
  · simpa using foldl_getPrecursors prec e.precursorList []

theorem getPrecursors_nodup (e : RoutingTableEntry) {prec : List Ipv4Address}
    (h : prec.Nodup) : (e.getPrecursors prec).Nodup := by
  rw [getPrecursors_eq]
  refine h.append (nodup_eraseDups_loop _ _ List.nodup_nil) fun x hx hx' => ?_
  simp only [List.eraseDups, mem_eraseDups_loop, List.mem_filter, List.not_mem_nil,
    or_false] at hx'
  exact (of_decide_eq_true hx'.2) hx

theorem mem_getPrecursors {e : RoutingTableEntry} {prec : List Ipv4Address} {x : Ipv4Address} :
    x ∈ e.getPrecursors prec ↔ x ∈ prec ∨ x ∈ e.precursorList := by
  rw [getPrecursors_eq]
  simp only [List.mem_append, List.eraseDups, mem_eraseDups_loop, List.mem_filter,
    List.not_mem_nil, or_false, decide_eq_true_eq]
  tauto

theorem foldl_getPrecursors_nodup :
    ∀ (entries : List RoutingTableEntry) {prec : List Ipv4Address}, prec.Nodup →
      (entries.foldl (fun prec e => e.getPrecursors prec) prec).Nodup
  | [], _, h => h
  | e :: rest, _, h => foldl_getPrecursors_nodup rest (getPrecursors_nodup e h)

theorem mem_foldl_getPrecursors {x : Ipv4Address} :
    ∀ (entries : List RoutingTableEntry) (prec : List Ipv4Address),
      x ∈ entries.foldl (fun prec e => e.getPrecursors prec) prec ↔
        x ∈ prec ∨ ∃ e ∈ entries, x ∈ e.precursorList
  | [], prec => by simp
  | e :: rest, prec => by
    rw [List.foldl_cons, mem_foldl_getPrecursors rest, mem_getPrecursors]
    simp only [List.mem_cons, or_and_right, exists_or, exists_eq_left]
    tauto

/-- **`GetPrecursors` gathers without repeats.**  On a vector `prec` without
repeats, `e.GetPrecursors(prec)` appends the first occurrence of each of `e`'s
precursors that `prec` lacks, in `e`'s order; `prec` stays without repeats and
holds the union.  Folding it over any entries from an empty vector gathers
the union of their precursor lists, each address once. -/
theorem getPrecursors_appends_missing (e : RoutingTableEntry) (prec : List Ipv4Address)
    (hprec : prec.Nodup) :
    e.getPrecursors prec = prec ++ (e.precursorList.filter fun i => i ∉ prec).eraseDups ∧
      (e.getPrecursors prec).Nodup ∧
      (∀ x, x ∈ e.getPrecursors prec ↔ x ∈ prec ∨ x ∈ e.precursorList) ∧
      ∀ entries : List RoutingTableEntry,
        (entries.foldl (fun prec e => e.getPrecursors prec) []).Nodup ∧
        ∀ x, x ∈ entries.foldl (fun prec e => e.getPrecursors prec) [] ↔
          ∃ e ∈ entries, x ∈ e.precursorList :=
  ⟨getPrecursors_eq e prec, getPrecursors_nodup e hprec, fun _ => mem_getPrecursors,
    fun entries => ⟨foldl_getPrecursors_nodup entries List.nodup_nil,
      fun x => by simpa using mem_foldl_getPrecursors (x := x) entries []⟩⟩

theorem getPrecursors_appends_missing_overlap :
    let e := { mk' default 7 true 0 ⟨1, 0, 0, 0, false⟩ 1 2 (Time.seconds 3) with
      precursorList := [2, 3, 3, 1, 4] }
    [1, 2].Nodup ∧
      e.getPrecursors [1, 2] = [1, 2] ++ (e.precursorList.filter fun i => i ∉ [1, 2]).eraseDups ∧
      (e.getPrecursors [1, 2]).Nodup ∧
      (∀ x, x ∈ e.getPrecursors [1, 2] ↔ x ∈ [1, 2] ∨ x ∈ e.precursorList) ∧
      ∀ entries : List RoutingTableEntry,
        (entries.foldl (fun prec e => e.getPrecursors prec) []).Nodup ∧
        ∀ x, x ∈ entries.foldl (fun prec e => e.getPrecursors prec) [] ↔
          ∃ e ∈ entries, x ∈ e.precursorList :=
  ⟨by decide, getPrecursors_appends_missing _ _ (by decide)⟩

end RoutingTableEntry

end Aodv

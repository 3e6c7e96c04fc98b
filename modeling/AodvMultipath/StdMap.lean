/-
`std::map`, as the routing table uses it.

A `StdMap κ ν` is the sequence of entries of a `std::map<κ, ν>` in iteration
order: increasing keys, each key once.  The order is a field, so every map
the model builds is a well-formed `std::map`.  The operations are the member
functions the table calls — `find`, `insert` (which never overwrites),
`operator[]` assignment, `erase` by key — and the two loop shapes of
`aodv-rtable.cc`:

* `sweep` — `for (i = begin; i != end;)` erasing `i` (`tmp = i; ++i;
  erase(tmp)`) or rewriting `i->second` and advancing;
* `modify` — `i = find(k); i->second = ...`.

`mem_sweep`, `find_sweep`, `find_insert`, `find_erase` and `find_modify` say
what each does to the entries; `keys_nodup` is the uniqueness of keys.
`sumBy_assign` is what `m[k] = v` does to a sum over the entries, the shape
of the accumulation loops `for (auto& e : m) s += f(e.second)`.
-/
import Mathlib.Data.List.Pairwise
import Mathlib.Order.Basic
import Mathlib.Order.Lattice
import Mathlib.Algebra.Order.BigOperators.Group.List
import Mathlib.Algebra.Order.Group.Nat

/-- A `std::map<κ, ν>`: its entries in increasing key order. -/
structure StdMap (κ ν : Type) [LinearOrder κ] where
  toList : List (κ × ν)
  sorted : toList.Pairwise (fun a b => a.1 < b.1)

namespace StdMap

variable {κ ν : Type} [LinearOrder κ]

@[ext] theorem ext {m m' : StdMap κ ν} (h : m.toList = m'.toList) : m = m' := by
  cases m; cases m'; cases h; rfl

instance [DecidableEq ν] : DecidableEq (StdMap κ ν) := fun m m' =>
  decidable_of_iff (m.toList = m'.toList) ⟨ext, fun h => h ▸ rfl⟩

/-- The empty map. -/
def empty : StdMap κ ν := ⟨[], List.Pairwise.nil⟩

/-- `m.empty()`. -/
def isEmpty (m : StdMap κ ν) : Bool := m.toList.isEmpty

/-- `m.find(k)`: the value stored at `k`, if any. -/
def find (m : StdMap κ ν) (k : κ) : Option ν := (m.toList.find? (·.1 = k)).map (·.2)

/-- Put `(k, v)` in front of the first entry with a larger key. -/
def insertSorted (k : κ) (v : ν) : List (κ × ν) → List (κ × ν)
  | [] => [(k, v)]
  | e :: rest => if k < e.1 then (k, v) :: e :: rest else e :: insertSorted k v rest

theorem mem_insertSorted {k : κ} {v : ν} {e : κ × ν} :
    ∀ {l : List (κ × ν)}, e ∈ insertSorted k v l ↔ e = (k, v) ∨ e ∈ l
  | [] => by simp [insertSorted]
  | a :: rest => by
    unfold insertSorted
    split
    · exact List.mem_cons
    · rw [List.mem_cons, mem_insertSorted, List.mem_cons]
      exact or_left_comm

theorem insertSorted_sorted {k : κ} {v : ν} :
    ∀ {l : List (κ × ν)}, l.Pairwise (fun a b => a.1 < b.1) → (∀ e ∈ l, e.1 ≠ k) →
      (insertSorted k v l).Pairwise (fun a b => a.1 < b.1)
  | [], _, _ => by simp [insertSorted]
  | a :: rest, hs, hk => by
    rw [List.pairwise_cons] at hs
    unfold insertSorted
    split
    · rename_i hlt
      refine List.pairwise_cons.2 ⟨fun e he => ?_, List.pairwise_cons.2 hs⟩
      rcases List.mem_cons.1 he with rfl | he
      · exact hlt
      · exact lt_trans hlt (hs.1 e he)
    · rename_i hge
      have hne := hk a (List.mem_cons_self _ _)
      refine List.pairwise_cons.2 ⟨fun e he => ?_,
        insertSorted_sorted hs.2 fun e he => hk e (List.mem_cons_of_mem _ he)⟩
      rcases mem_insertSorted.1 he with rfl | he
      · exact lt_of_le_of_ne (not_lt.1 hge) hne
      · exact hs.1 e he

theorem find_eq_none {m : StdMap κ ν} {k : κ} :
    m.find k = none ↔ ∀ e ∈ m.toList, e.1 ≠ k := by
  simp [find, List.find?_eq_none]

/-- `m.insert({k, v})`: adds the entry when `k` is absent and reports whether
it did; an existing entry is left as it is. -/
def insert (m : StdMap κ ν) (k : κ) (v : ν) : StdMap κ ν × Bool :=
  if h : (m.find k).isNone then
    (⟨insertSorted k v m.toList,
      insertSorted_sorted m.sorted (find_eq_none.1 (Option.isNone_iff_eq_none.1 h))⟩, true)
  else (m, false)

/-- The erase-while-iterating loop: `body k v` is `none` when the loop erases
the entry, `some v'` when it leaves `v'` there and advances. -/
def sweep (body : κ → ν → Option ν) (m : StdMap κ ν) : StdMap κ ν :=
  ⟨m.toList.filterMap (fun e => (body e.1 e.2).map (e.1, ·)),
    m.sorted.filterMap _ fun a b hab a' ha' b' hb' => by
      simp only [Option.mem_def, Option.map_eq_some'] at ha' hb'
      obtain ⟨_, -, rfl⟩ := ha'; obtain ⟨_, -, rfl⟩ := hb'
      exact hab⟩

/-- `m.erase(k)`: removes the entry at `k` and returns how many it removed. -/
def erase (m : StdMap κ ν) (k : κ) : StdMap κ ν × Nat :=
  (sweep (fun k' v => if k' = k then none else some v) m, if (m.find k).isNone then 0 else 1)

/-- `m.find(k)->second = f(...)`, when `k` is present. -/
def modify (m : StdMap κ ν) (k : κ) (f : ν → ν) : StdMap κ ν :=
  sweep (fun k' v => some (if k' = k then f v else v)) m

/-- `m[k] = v`: overwrites the entry at `k`, or adds one. -/
def assign (m : StdMap κ ν) (k : κ) (v : ν) : StdMap κ ν :=
  if (m.find k).isNone then (m.insert k v).1 else m.modify k fun _ => v

@[simp] theorem empty_toList : (empty : StdMap κ ν).toList = [] := rfl
@[simp] theorem sweep_toList (body : κ → ν → Option ν) (m : StdMap κ ν) :
    (sweep body m).toList = m.toList.filterMap (fun e => (body e.1 e.2).map (e.1, ·)) := rfl

/-! ### Keys -/

theorem keys_nodup (m : StdMap κ ν) : (m.toList.map (·.1)).Nodup :=
  List.Pairwise.map _ (fun _ _ h => ne_of_lt h) m.sorted

private theorem eq_of_mem_sorted {k : κ} {v v' : ν} :
    ∀ {l : List (κ × ν)}, l.Pairwise (fun a b => a.1 < b.1) →
      (k, v) ∈ l → (k, v') ∈ l → v = v'
  | [], _, h, _ => by simp at h
  | e :: rest, hs, h, h' => by
    rw [List.pairwise_cons] at hs
    rcases List.mem_cons.1 h with rfl | hr <;> rcases List.mem_cons.1 h' with h'' | hr'
    · cases h''; rfl
    · exact absurd (hs.1 _ hr') (lt_irrefl _)
    · subst h''; exact absurd (hs.1 _ hr) (lt_irrefl _)
    · exact eq_of_mem_sorted hs.2 hr hr'

theorem eq_of_mem_of_mem {m : StdMap κ ν} {k : κ} {v v' : ν}
    (h : (k, v) ∈ m.toList) (h' : (k, v') ∈ m.toList) : v = v' :=
  eq_of_mem_sorted m.sorted h h'

theorem find_eq_some {m : StdMap κ ν} {k : κ} {v : ν} :
    m.find k = some v ↔ (k, v) ∈ m.toList := by
  constructor
  · intro h
    simp only [find, Option.map_eq_some'] at h
    obtain ⟨e, he, rfl⟩ := h
    have hk := List.find?_some he
    simp only [decide_eq_true_eq] at hk
    subst hk
    exact List.mem_of_find?_eq_some he
  · intro h
    cases hf : m.find k with
    | none => exact absurd rfl (find_eq_none.1 hf _ h)
    | some v' =>
      simp only [find, Option.map_eq_some'] at hf
      obtain ⟨e, he, rfl⟩ := hf
      have hk := List.find?_some he
      simp only [decide_eq_true_eq] at hk
      subst hk
      exact congrArg some (eq_of_mem_of_mem (List.mem_of_find?_eq_some he) h)

/-! ### What each operation does to the entries -/

theorem mem_sweep {body : κ → ν → Option ν} {m : StdMap κ ν} {k : κ} {v : ν} :
    (k, v) ∈ (sweep body m).toList ↔ ∃ v₀, (k, v₀) ∈ m.toList ∧ body k v₀ = some v := by
  simp only [sweep_toList, List.mem_filterMap, Option.map_eq_some', Prod.mk.injEq]
  constructor
  · rintro ⟨⟨k₀, v₀⟩, h₀, v', hb, rfl, rfl⟩; exact ⟨v₀, h₀, hb⟩
  · rintro ⟨v₀, h₀, hb⟩; exact ⟨(k, v₀), h₀, v, hb, rfl, rfl⟩

theorem find_sweep (body : κ → ν → Option ν) (m : StdMap κ ν) (k : κ) :
    (sweep body m).find k = (m.find k).bind (body k) := by
  cases hf : m.find k with
  | none =>
    refine find_eq_none.2 fun ⟨k', v'⟩ he hk => ?_
    obtain ⟨v₀, h₀, -⟩ := mem_sweep.1 he
    exact find_eq_none.1 hf _ h₀ hk
  | some v₀ =>
    have h₀ := find_eq_some.1 hf
    cases hb : body k v₀ with
    | some v => exact (find_eq_some.2 (mem_sweep.2 ⟨v₀, h₀, hb⟩)).trans (by simp [hb])
    | none =>
      rw [Option.some_bind, hb]
      refine find_eq_none.2 fun (e : κ × ν) he hk => ?_
      obtain ⟨k', v'⟩ := e
      obtain ⟨v₁, h₁, hb'⟩ := mem_sweep.1 he
      simp only at hk; subst hk
      rw [eq_of_mem_of_mem h₁ h₀, hb] at hb'
      cases hb'

theorem insert_snd (m : StdMap κ ν) (k : κ) (v : ν) :
    (m.insert k v).2 = (m.find k).isNone := by
  unfold insert
  split
  · rename_i h; exact h.symm
  · rename_i h; exact (Bool.eq_false_iff.2 h).symm

theorem mem_insert {m : StdMap κ ν} {k k' : κ} {v v' : ν} :
    (k', v') ∈ (m.insert k v).1.toList ↔ (m.find k = none ∧ k' = k ∧ v' = v) ∨ (k', v') ∈ m.toList := by
  unfold insert
  split
  · rename_i h
    simp only [mem_insertSorted, Prod.mk.injEq, Option.isNone_iff_eq_none.1 h, true_and]
  · rename_i h
    simp only [Option.isNone_iff_eq_none] at h
    simp [h]

theorem find_insert (m : StdMap κ ν) (k k' : κ) (v : ν) :
    (m.insert k v).1.find k' = if k' = k ∧ (m.find k).isNone then some v else m.find k' := by
  split
  · rename_i h
    exact find_eq_some.2
      (mem_insert.2 (Or.inl ⟨Option.isNone_iff_eq_none.1 h.2, h.1, rfl⟩))
  · rename_i h
    cases hf : m.find k' with
    | some v₀ => exact find_eq_some.2 (mem_insert.2 (Or.inr (find_eq_some.1 hf)))
    | none =>
      refine find_eq_none.2 fun ⟨k'', v''⟩ he hk => ?_
      simp only at hk; subst hk
      rcases mem_insert.1 he with ⟨hn, rfl, -⟩ | he
      · exact h ⟨rfl, Option.isNone_iff_eq_none.2 hn⟩
      · exact find_eq_none.1 hf _ he rfl

@[simp] theorem erase_snd (m : StdMap κ ν) (k : κ) :
    (m.erase k).2 = if (m.find k).isNone then 0 else 1 := rfl

theorem find_erase (m : StdMap κ ν) (k k' : κ) :
    (m.erase k).1.find k' = if k' = k then none else m.find k' := by
  rw [erase, find_sweep]
  split <;> cases m.find k' <;> simp_all

theorem find_modify (m : StdMap κ ν) (k k' : κ) (f : ν → ν) :
    (m.modify k f).find k' = if k' = k then (m.find k).map f else m.find k' := by
  rw [modify, find_sweep]
  split
  · subst_vars; cases m.find k' <;> simp
  · cases m.find k' <;> simp_all

theorem find_assign (m : StdMap κ ν) (k k' : κ) (v : ν) :
    (m.assign k v).find k' = if k' = k then some v else m.find k' := by
  unfold assign
  cases hf : m.find k with
  | none => simp [find_insert, hf]
  | some v₀ => simp [find_modify, hf]

theorem isEmpty_iff {m : StdMap κ ν} : m.isEmpty = true ↔ m.toList = [] := List.isEmpty_iff

theorem sweep_of_isEmpty {body : κ → ν → Option ν} {m : StdMap κ ν} (h : m.isEmpty = true) :
    sweep body m = m := by
  ext1; simp [isEmpty_iff.1 h]

/-- A sweep whose body keeps what it returns is idempotent. -/
theorem sweep_sweep {body : κ → ν → Option ν} (m : StdMap κ ν)
    (h : ∀ k v v', body k v = some v' → body k v' = some v') :
    sweep body (sweep body m) = sweep body m := by
  ext1
  simp only [sweep_toList, List.filterMap_filterMap]
  congr 1; funext e
  cases hb : body e.1 e.2 with
  | none => rfl
  | some v' => simp [hb, h _ _ _ hb]

/-- A property of every value survives `m[k] = v` when `v` has it. -/
theorem forall_mem_assign {P : ν → Prop} {m : StdMap κ ν} {k : κ} {v : ν}
    (hm : ∀ e ∈ m.toList, P e.2) (hv : P v) : ∀ e ∈ (m.assign k v).toList, P e.2 := by
  rintro ⟨k', v'⟩ he
  rw [← find_eq_some, find_assign] at he
  split at he
  · cases he; exact hv
  · exact hm _ (find_eq_some.1 he)

/-! ### Sums over the entries -/

section Sum

variable {α : Type} [AddCommMonoid α]

/-- `Σ f(v)` over the entries, the shape of `for (auto& e : m) s += f(e.second)`. -/
def sumBy (f : ν → α) (m : StdMap κ ν) : α := (m.toList.map fun e => f e.2).sum

theorem insertSorted_perm (k : κ) (v : ν) :
    ∀ l : List (κ × ν), (insertSorted k v l).Perm ((k, v) :: l)
  | [] => .refl _
  | e :: rest => by
    unfold insertSorted
    split
    · exact .refl _
    · exact ((insertSorted_perm k v rest).cons e).trans (.swap _ _ _)

private theorem sum_map_replace (f : ν → α) (k : κ) (v v₀ : ν) :
    ∀ {l : List (κ × ν)}, (l.map (·.1)).Nodup → (k, v₀) ∈ l →
      (l.map fun e => f (if e.1 = k then v else e.2)).sum + f v₀ =
        (l.map fun e => f e.2).sum + f v
  | [], _, h => absurd h (List.not_mem_nil _)
  | e :: rest, hl, h => by
    rw [List.map_cons, List.nodup_cons] at hl
    simp only [List.map_cons, List.sum_cons]
    rcases List.mem_cons.1 h with rfl | h
    · have hrest : (rest.map fun e' => f (if e'.1 = k then v else e'.2)) =
          rest.map fun e' => f e'.2 :=
        List.map_congr_left fun e' he' => by
          rw [if_neg fun hk : e'.1 = k => hl.1 (hk ▸ List.mem_map_of_mem (·.1) he')]
      rw [if_pos rfl, hrest]
      ac_rfl
    · have hne : e.1 ≠ k := fun hk => hl.1 (hk ▸ List.mem_map_of_mem (·.1) h)
      rw [if_neg hne, add_assoc, sum_map_replace f k v v₀ hl.2 h, add_assoc]

/-- `m[k] = v` changes the sum by the new value minus the value it replaces. -/
theorem sumBy_assign (f : ν → α) (m : StdMap κ ν) (k : κ) (v : ν) :
    (m.assign k v).sumBy f + ((m.find k).map f).getD 0 = m.sumBy f + f v := by
  unfold assign
  cases hf : m.find k with
  | none =>
    have h : (m.insert k v).1.toList = insertSorted k v m.toList := by simp [insert, hf]
    simp only [Option.isNone_none, if_true, Option.map_none', Option.getD_none, add_zero, sumBy, h,
      ((insertSorted_perm k v m.toList).map _).sum_eq, List.map_cons, List.sum_cons]
    exact add_comm _ _
  | some v₀ =>
    simp only [Option.isNone_some, Bool.false_eq_true, if_false, modify, sumBy, sweep_toList,
      Option.map_some', Option.getD_some, List.filterMap_map]
    rw [show (fun e : κ × ν => some (e.1, if e.1 = k then v else e.2)) =
      some ∘ fun e => (e.1, if e.1 = k then v else e.2) from rfl, List.filterMap_eq_map, List.map_map]
    exact sum_map_replace f k v v₀ (keys_nodup m) (find_eq_some.1 hf)

/-- One entry's value is at most the sum. -/
theorem le_sumBy (f : ν → Nat) {m : StdMap κ ν} {k : κ} {v : ν} (h : (k, v) ∈ m.toList) :
    f v ≤ m.sumBy f :=
  List.le_sum_of_mem (List.mem_map_of_mem (fun e => f e.2) h)

end Sum
end StdMap

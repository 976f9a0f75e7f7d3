/-
  Ecocredit.Table — one table of the ORM state store (cosmos-sdk `orm`), as the
  keeper and the genesis validator use it: rows with a unique primary key, `Get` by
  key, `Save` (insert, or replace the row with that key), `Update` (replace, or
  `NotFound` when no row has the key) and `List` (every row, in order).

  A write replaces the whole row: a field the written message leaves out is stored
  as its zero value. This is what drops `EscrowedAmount` when the keeper rewrites a
  balance (`Ecocredit.Keeper`).

  Proved: `get_save_self` / `get_save_ne` (a save changes exactly its own key),
  `update_eq_save` (an update of a present key is a save), `mem_save` (the rows after
  a save), and `sum_save`: a save changes a sum over the rows by the new row minus
  the row it replaced.
-/

import Ecocredit.Decimal
import Mathlib.Data.List.Nodup
import Mathlib.Tactic.Abel
import Mathlib.Algebra.BigOperators.Group.List

namespace Ecocredit

/-- A table of rows of type `α` keyed by `pk`; no two rows share a key. -/
structure Table (α : Type) {κ : Type} (pk : α → κ) where
  rows : List α
  nodup : (rows.map pk).Nodup

namespace Table

variable {α κ : Type} [DecidableEq κ] {pk : α → κ}

def get (t : Table α pk) (k : κ) : Option α := t.rows.find? (pk · = k)

/-- Every row with `r`'s key replaced by `r`. -/
def replace (pk : α → κ) (rows : List α) (r : α) : List α :=
  rows.map fun x => if pk x = pk r then r else x

theorem map_replace (rows : List α) (r : α) : (replace pk rows r).map pk = rows.map pk := by
  simp only [replace, List.map_map]
  congr 1
  funext x
  by_cases h : pk x = pk r <;> simp [h]

theorem get_eq_none {t : Table α pk} {k : κ} : t.get k = none ↔ k ∉ t.rows.map pk := by
  simp [get, List.find?_eq_none]

theorem rows_eq_nil {t : Table α pk} : t.rows = [] ↔ ∀ k, t.get k = none := by
  simp only [get_eq_none, List.eq_nil_iff_forall_not_mem, List.mem_map, not_exists, not_and]
  exact ⟨fun h k x hx => absurd hx (h x), fun h x hx => h (pk x) x hx rfl⟩

theorem nodup_snoc {t : Table α pk} {r : α} (h : t.get (pk r) = none) : ((t.rows ++ [r]).map pk).Nodup := by
  rw [List.map_append, List.nodup_append]
  exact ⟨t.nodup, List.nodup_singleton _, by simpa using get_eq_none.1 h⟩

def save (t : Table α pk) (r : α) : Table α pk :=
  if h : (t.get (pk r)).isNone then ⟨t.rows ++ [r], nodup_snoc (Option.isNone_iff_eq_none.1 h)⟩
  else ⟨replace pk t.rows r, by rw [map_replace]; exact t.nodup⟩

/-- `Update`: `none` is the ORM's `NotFound`. -/
def update (t : Table α pk) (r : α) : Option (Table α pk) :=
  if (t.get (pk r)).isNone then none else some (t.save r)

/-- The table of the rows' images under a map that keeps every row's key. -/
def map {β : Type} {pk' : β → κ} (f : α → β) (hf : ∀ a, pk' (f a) = pk a) (t : Table α pk) : Table β pk' :=
  ⟨t.rows.map f, by rw [List.map_map, show pk' ∘ f = pk from funext hf]; exact t.nodup⟩

/-! ## Lookups after a write -/

theorem get_eq_some {t : Table α pk} {k : κ} {x : α} : t.get k = some x ↔ x ∈ t.rows ∧ pk x = k := by
  constructor
  · intro h
    exact ⟨List.mem_of_find?_eq_some h, by simpa using List.find?_some h⟩
  · rintro ⟨hx, rfl⟩
    obtain ⟨y, hy⟩ := Option.isSome_iff_exists.1
      (Option.isSome_iff_ne_none.2 (mt get_eq_none.1 (not_not.2 (List.mem_map_of_mem pk hx))))
    have hyk : pk y = pk x := by simpa using List.find?_some hy
    rw [hy, List.inj_on_of_nodup_map t.nodup (List.mem_of_find?_eq_some hy) hx hyk]

theorem replace_of_not_mem {l : List α} {r : α} (h : pk r ∉ l.map pk) : replace pk l r = l := by
  conv_rhs => rw [← List.map_id l]
  refine List.map_congr_left fun x hx => ?_
  have : pk x ≠ pk r := fun e => h (e ▸ List.mem_map_of_mem pk hx)
  simp [this]

theorem save_of_none {t : Table α pk} {r : α} (h : t.get (pk r) = none) : (t.save r).rows = t.rows ++ [r] := by
  simp [save, h]

theorem save_of_some {t : Table α pk} {r x : α} (h : t.get (pk r) = some x) :
    (t.save r).rows = replace pk t.rows r := by
  simp [save, h]

theorem mem_save {t : Table α pk} {r x : α} : x ∈ (t.save r).rows ↔ x = r ∨ (x ∈ t.rows ∧ pk x ≠ pk r) := by
  cases h : t.get (pk r) with
  | none =>
    have := get_eq_none.1 h
    rw [save_of_none h, List.mem_append, List.mem_singleton]
    constructor
    · rintro (hx | rfl)
      · exact .inr ⟨hx, fun e => this (e ▸ List.mem_map_of_mem pk hx)⟩
      · exact .inl rfl
    · rintro (rfl | ⟨hx, -⟩) <;> simp [*]
  | some y =>
    obtain ⟨hy, hk⟩ := get_eq_some.1 h
    rw [save_of_some h, replace, List.mem_map]
    constructor
    · rintro ⟨z, hz, rfl⟩
      by_cases e : pk z = pk r <;> simp [e, hz]
    · rintro (rfl | ⟨hx, hne⟩)
      · exact ⟨y, hy, by simp [hk]⟩
      · exact ⟨x, hx, by simp [hne]⟩

theorem forall_mem_save {P : α → Prop} {t : Table α pk} {r : α} (ht : ∀ x ∈ t.rows, P x) (hr : P r) :
    ∀ x ∈ (t.save r).rows, P x := fun x hx =>
  (mem_save.1 hx).elim (fun e => e ▸ hr) fun h => ht x h.1

@[simp] theorem get_save_self (t : Table α pk) (r : α) : (t.save r).get (pk r) = some r :=
  get_eq_some.2 ⟨mem_save.2 (.inl rfl), rfl⟩

theorem get_save_ne (t : Table α pk) (r : α) {k : κ} (h : k ≠ pk r) : (t.save r).get k = t.get k := by
  cases hk : t.get k with
  | none =>
    rw [get_eq_none] at hk ⊢
    simp only [List.mem_map, not_exists, not_and] at hk ⊢
    intro x hx e
    rcases mem_save.1 hx with rfl | ⟨hx, -⟩
    · exact h e.symm
    · exact hk x hx e
  | some x =>
    obtain ⟨hx, rfl⟩ := get_eq_some.1 hk
    exact get_eq_some.2 ⟨mem_save.2 (.inr ⟨hx, h⟩), rfl⟩

theorem get_save (t : Table α pk) (r : α) (k : κ) :
    (t.save r).get k = if k = pk r then some r else t.get k := by
  split
  · subst k; exact get_save_self t r
  · exact get_save_ne t r ‹_›

theorem update_eq_save {t : Table α pk} (r : α) {x : α} (h : t.get (pk r) = some x) : t.update r = some (t.save r) := by
  simp [update, h]

theorem update_eq_none {t : Table α pk} {r : α} (h : t.get (pk r) = none) : t.update r = none := by
  simp [update, h]

/-! ## Sums over the rows -/

section Sum

variable {M : Type} [AddCommMonoid M] (g : α → M)

theorem sum_replace {l : List α} (hl : (l.map pk).Nodup) {r x : α} (hx : x ∈ l) (hk : pk x = pk r) :
    ((replace pk l r).map g).sum + g x = (l.map g).sum + g r := by
  induction l with
  | nil => cases hx
  | cons y ys ih =>
    rw [List.map_cons, List.nodup_cons] at hl
    by_cases e : pk y = pk r
    · have hxy : x = y := by
        rcases List.mem_cons.1 hx with h | h
        · exact h
        · have : pk y ∈ ys.map pk := by rw [e, ← hk]; exact List.mem_map_of_mem pk h
          exact absurd this hl.1
      subst hxy
      have : replace pk ys r = ys := replace_of_not_mem (e ▸ hl.1)
      simp only [replace, List.map_cons, e, if_true] at this ⊢
      rw [this, List.sum_cons, List.sum_cons]
      abel
    · have hx' : x ∈ ys := (List.mem_cons.1 hx).resolve_left (by rintro rfl; exact e hk)
      have := ih hl.2 hx'
      simp only [replace, List.map_cons, e, if_false, List.sum_cons] at this ⊢
      rw [add_assoc, this, add_assoc]

/-- A save changes a sum over the rows by the new row minus the one it replaced. -/
theorem sum_save (t : Table α pk) (r : α) :
    ((t.save r).rows.map g).sum + ((t.get (pk r)).map g).getD 0 = (t.rows.map g).sum + g r := by
  cases h : t.get (pk r) with
  | none => simp [save_of_none h, List.sum_append]
  | some x =>
    obtain ⟨hx, hk⟩ := get_eq_some.1 h
    rw [save_of_some h]
    exact sum_replace g t.nodup hx hk

theorem sum_save_sub {G : Type} [AddCommGroup G] (g : α → G) (t : Table α pk) (r : α) :
    ((t.save r).rows.map g).sum = (t.rows.map g).sum + g r - ((t.get (pk r)).map g).getD 0 :=
  eq_sub_of_add_eq (sum_save g t r)

end Sum

end Table

end Ecocredit

import Mathlib

/-!
# Counts that force a correspondence

Items are filed under keys, and each item has a value in the room of its key.  When there are as many
places in all rooms together as items, and no two items of a key share a value, every room holds
exactly the values of its items.
-/

namespace Counting

variable {α β γ : Type*}

lemma eq_of_le_of_sum_eq {keys : List γ} {f g : γ → ℕ} (hle : ∀ k ∈ keys, f k ≤ g k)
    (hsum : (keys.map f).sum = (keys.map g).sum) : ∀ k ∈ keys, f k = g k := by
  induction keys with
  | nil => simp
  | cons k keys ih =>
    have hrest : (keys.map f).sum ≤ (keys.map g).sum :=
      List.sum_le_sum fun k' hk' => hle k' (List.mem_cons_of_mem _ hk')
    have hhead := hle k List.mem_cons_self
    simp only [List.map_cons, List.sum_cons] at hsum
    intro k' hk'
    rcases List.mem_cons.mp hk' with rfl | hk'
    · omega
    · exact ih (fun k' hk' => hle k' (List.mem_cons_of_mem _ hk')) (by omega) k' hk'

section Filing

variable [DecidableEq γ] {items : List α} {key : α → γ} {keys : List γ}

lemma sum_length_filter (hkeys : keys.Perm (items.map key).dedup) :
    (keys.map fun k => (items.filter (key · = k)).length).sum = items.length := by
  have hcount : ∀ k, (items.filter (key · = k)).length = (items.map key).count k := by
    intro k
    rw [List.count_eq_countP, List.countP_map, List.countP_eq_length_filter]
    congr 1
  calc (keys.map fun k => (items.filter (key · = k)).length).sum
      = ((items.map key).dedup.map fun k => (items.map key).count k).sum := by
        simp only [hcount]
        exact (hkeys.map _).sum_eq
    _ = items.length := by rw [List.sum_map_count_dedup_eq_length, List.length_map]

/-- Distinct values that fill their rooms are what the rooms hold. -/
lemma perm_of_sum_length_eq {value : α → β} {room : γ → List β}
    (hkeys : keys.Perm (items.map key).dedup) (hmem : ∀ item ∈ items, value item ∈ room (key item))
    (hdistinct : ∀ k ∈ keys, ((items.filter (key · = k)).map value).Nodup)
    (htotal : (keys.map fun k => (room k).length).sum = items.length) :
    ∀ k ∈ keys, ((items.filter (key · = k)).map value).Perm (room k) := by
  have hsubperm : ∀ k ∈ keys, ((items.filter (key · = k)).map value).Subperm (room k) := by
    intro k hk
    refine (hdistinct k hk).subperm fun v hv => ?_
    obtain ⟨item, hitem, rfl⟩ := List.mem_map.mp hv
    obtain ⟨hitem, hkey⟩ := List.mem_filter.mp hitem
    exact of_decide_eq_true hkey ▸ hmem item hitem
  have hlength := eq_of_le_of_sum_eq (fun k hk => (hsubperm k hk).length_le) <| by
    simp only [List.length_map]
    rw [sum_length_filter hkeys, htotal]
  exact fun k hk => (hsubperm k hk).perm_of_length_le (hlength k hk).ge

end Filing

end Counting

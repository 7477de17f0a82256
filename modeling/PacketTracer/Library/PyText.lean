import Mathlib

/-!
# Sorting and quoting as Python does

`sortedBy key` is the stable `sorted(…, key=…)`; keys that are tuples are values of a
lexicographic product.  `quoted` is `repr` of a text.
-/

namespace PyText

/-! ## Sorting -/

section Sorting

variable {α κ : Type*} [LinearOrder κ]

/-- `sorted(items, key=key)`: stable, in ascending order of the keys. -/
def sortedBy (key : α → κ) (items : List α) : List α :=
  items.insertionSort fun a b => key a ≤ key b

lemma perm_sortedBy (key : α → κ) (items : List α) : (sortedBy key items).Perm items :=
  List.perm_insertionSort _ _

variable {key : α → κ} {items : List α}

@[simp] lemma mem_sortedBy {a : α} : a ∈ sortedBy key items ↔ a ∈ items :=
  (perm_sortedBy key items).mem_iff

@[simp] lemma sortedBy_eq_nil : sortedBy key items = [] ↔ items = [] := by
  rw [← List.length_eq_zero_iff, (perm_sortedBy key items).length_eq, List.length_eq_zero_iff]

lemma pairwise_sortedBy (key : α → κ) (items : List α) :
    (sortedBy key items).Pairwise fun a b => key a ≤ key b := by
  have : Std.Total fun a b : α => key a ≤ key b := ⟨fun a b => le_total _ _⟩
  have : IsTrans α fun a b => key a ≤ key b := ⟨fun a b c => le_trans⟩
  exact List.pairwise_insertionSort _ _

variable {items' : List α}

lemma sortedBy_eq_of_perm (hperm : items.Perm items')
    (hkey : ∀ a ∈ items, ∀ b ∈ items, key a = key b → a = b) :
    sortedBy key items = sortedBy key items' := by
  have hsorted : (sortedBy key items).Perm (sortedBy key items') :=
    ((perm_sortedBy key items).trans hperm).trans (perm_sortedBy key items').symm
  refine hsorted.eq_of_pairwise (fun a b ha hb hab hba => ?_) (pairwise_sortedBy key items)
    (pairwise_sortedBy key items')
  refine hkey a (mem_sortedBy.mp ha) b (hperm.mem_iff.mpr (mem_sortedBy.mp hb)) ?_
  exact le_antisymm hab hba

/-- Sorting keeps the order of the items with one key. -/
lemma filter_key_sortedBy (key : α → κ) (items : List α) (k : κ) :
    (sortedBy key items).filter (fun a => key a = k) = items.filter fun a => key a = k := by
  have : Std.Total fun a b : α => key a ≤ key b := ⟨fun a b => le_total _ _⟩
  have : IsTrans α fun a b => key a ≤ key b := ⟨fun a b c => le_trans⟩
  have hkey : ∀ a ∈ items.filter (fun a => key a = k), key a = k := by
    intro a ha
    exact of_decide_eq_true (List.mem_filter.mp ha).2
  have hpairwise : (items.filter fun a => key a = k).Pairwise fun a b => key a ≤ key b :=
    List.pairwise_of_forall_mem_list fun a ha b hb => (hkey a ha).le.trans (hkey b hb).ge
  have hsublist : (items.filter fun a => key a = k).Sublist (sortedBy key items) :=
    List.sublist_insertionSort hpairwise List.filter_sublist
  have hfiltered := hsublist.filter fun a => key a = k
  rw [List.filter_filter] at hfiltered
  simp only [Bool.and_self] at hfiltered
  exact (hfiltered.eq_of_length ((perm_sortedBy key items).filter _).length_eq.symm).symm

lemma find?_key_sortedBy (key : α → κ) (items : List α) (k : κ) :
    (sortedBy key items).find? (fun a => key a = k) = items.find? fun a => key a = k := by
  rw [← List.head?_filter, filter_key_sortedBy, List.head?_filter]

end Sorting

/-! ## Numbers -/

/-- A hexadecimal escape with two digits. -/
def hexEscape (c : Char) : List Char :=
  let digits := Nat.toDigits 16 c.toNat
  Char.ofNat 92 :: 'x' :: (if digits.length < 2 then '0' :: digits else digits)

/-- The escape of one character between the given quotes.  Characters outside ASCII are kept. -/
def escapeChar (quote c : Char) : List Char :=
  if c = quote ∨ c.toNat = 92 then [Char.ofNat 92, c]
  else if c = '\t' then [Char.ofNat 92, 't']
  else if c = '\n' then [Char.ofNat 92, 'n']
  else if c = '\r' then [Char.ofNat 92, 'r']
  else if c.toNat < 32 ∨ c.toNat = 127 then hexEscape c
  else [c]

/-- `repr` of a text: single quotes, unless the text holds one and no double quote. -/
def quoted (s : String) : String :=
  let apostrophe := Char.ofNat 39
  let double := Char.ofNat 34
  let quote := if apostrophe ∈ s.toList ∧ double ∉ s.toList then double else apostrophe
  String.ofList (quote :: s.toList.flatMap (escapeChar quote) ++ [quote])

end PyText

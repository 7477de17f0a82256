import Mathlib

/-!
# Aligned blocks and free lists

A `Block w` is a block of `2 ^ (w - prefixlen)` consecutive words of width `w` that starts at a
multiple of its size.  It is given by its prefix length and its index among the blocks of that
length, so that a misaligned block cannot be written down.

Two blocks are nested or disjoint (`Block.le_or_le_of_overlaps`).  That is what makes free lists
work: `FreeList root reserved available` says that the available blocks lie inside `root`, avoid
the reserved ones, and are as large as they can be.  Removing a block that avoids the reserved
ones keeps this (`FreeList.remove`), and every block inside an available one avoids the reserved
ones (`FreeList.not_overlaps`).
-/

namespace PrefixBlocks

/-- An aligned block of words of width `w`. -/
structure Block (w : ℕ) where
  /-- The number of leading bits that the words of the block share. -/
  prefixlen : ℕ
  /-- The value of those bits. -/
  index : ℕ
  prefixlen_le : prefixlen ≤ w
  index_lt : index < 2 ^ prefixlen
  deriving DecidableEq

namespace Block

variable {w : ℕ}

/-- The number of words in a block. -/
def size (b : Block w) : ℕ := 2 ^ (w - b.prefixlen)

/-- The least word of a block. -/
def first (b : Block w) : ℕ := b.index * b.size

/-- The greatest word of a block. -/
def last (b : Block w) : ℕ := b.first + (b.size - 1)

/-- A word lies in a block when it lies between its ends. -/
instance : Membership ℕ (Block w) := ⟨fun b x => b.first ≤ x ∧ x ≤ b.last⟩

instance (x : ℕ) (b : Block w) : Decidable (x ∈ b) := inferInstanceAs (Decidable (_ ∧ _))

lemma mem_def {x : ℕ} {b : Block w} : x ∈ b ↔ b.first ≤ x ∧ x ≤ b.last := Iff.rfl

lemma size_pos (b : Block w) : 0 < b.size := Nat.two_pow_pos _

lemma first_le_last (b : Block w) : b.first ≤ b.last := Nat.le_add_right _ _

lemma first_mem (b : Block w) : b.first ∈ b := ⟨le_rfl, b.first_le_last⟩

lemma last_mem (b : Block w) : b.last ∈ b := ⟨b.first_le_last, le_rfl⟩

variable {x : ℕ} {b a : Block w}

lemma mem_iff_div : x ∈ b ↔ x / b.size = b.index := by
  have hpos := b.size_pos
  rw [mem_def, last, first, Nat.div_eq_iff hpos]
  constructor
  · rintro ⟨hle, hlt⟩
    exact ⟨hle, by omega⟩
  · rintro ⟨hle, hlt⟩
    exact ⟨hle, by omega⟩

lemma lt_of_mem (h : x ∈ b) : x < 2 ^ w := by
  have hsize : 2 ^ b.prefixlen * b.size = 2 ^ w := by
    rw [size, ← pow_add, Nat.add_sub_cancel' b.prefixlen_le]
  have hlt := b.index_lt
  rw [← mem_iff_div.mp h] at hlt
  rw [← hsize]
  exact (Nat.div_lt_iff_lt_mul b.size_pos).mp hlt

lemma size_eq_mul (h : b.prefixlen ≤ a.prefixlen) :
    b.size = a.size * 2 ^ (a.prefixlen - b.prefixlen) := by
  have := a.prefixlen_le
  rw [size, size, ← pow_add]
  congr 1
  omega

/-! ### Inclusion -/

/-- Inclusion of blocks, decided on their ends. -/
instance : LE (Block w) := ⟨fun a b => b.first ≤ a.first ∧ a.last ≤ b.last⟩

instance (a b : Block w) : Decidable (a ≤ b) := inferInstanceAs (Decidable (_ ∧ _))

lemma le_def : a ≤ b ↔ b.first ≤ a.first ∧ a.last ≤ b.last := Iff.rfl

lemma le_iff_forall_mem : a ≤ b ↔ ∀ x, x ∈ a → x ∈ b := by
  constructor
  · rintro ⟨hfirst, hlast⟩ x ⟨hx, hx'⟩
    exact ⟨hfirst.trans hx, hx'.trans hlast⟩
  · intro h
    exact ⟨(h _ a.first_mem).1, (h _ a.last_mem).2⟩

lemma mem_of_le (h : a ≤ b) (hx : x ∈ a) : x ∈ b :=
  le_iff_forall_mem.mp h x hx

lemma le_of_mem_of_prefixlen_le (ha : x ∈ a) (hb : x ∈ b) (hlen : b.prefixlen ≤ a.prefixlen) :
    a ≤ b := by
  rw [le_iff_forall_mem]
  intro y hy
  rw [mem_iff_div] at ha hb hy ⊢
  rw [size_eq_mul hlen, ← Nat.div_div_eq_div_mul] at hb ⊢
  rw [hy, ← ha, hb]

lemma prefixlen_le_of_le (h : a ≤ b) : b.prefixlen ≤ a.prefixlen := by
  have hsize : a.size ≤ b.size := by
    have := a.size_pos
    have := b.size_pos
    obtain ⟨hfirst, hlast⟩ := le_def.mp h
    unfold last at hlast
    omega
  have hexp : w - a.prefixlen ≤ w - b.prefixlen := (Nat.pow_le_pow_iff_right (by norm_num)).mp hsize
  have := a.prefixlen_le
  have := b.prefixlen_le
  omega

lemma eq_of_mem_of_prefixlen_eq (ha : x ∈ a) (hb : x ∈ b) (hlen : a.prefixlen = b.prefixlen) :
    a = b := by
  obtain ⟨p, i, hp, hi⟩ := a
  obtain ⟨q, j, hq, hj⟩ := b
  obtain rfl : p = q := hlen
  have hij : i = j := (mem_iff_div.mp ha).symm.trans (mem_iff_div.mp hb)
  subst hij
  rfl

instance : PartialOrder (Block w) where
  le_refl a := ⟨le_rfl, le_rfl⟩
  le_trans a b c hab hbc := ⟨hbc.1.trans hab.1, hab.2.trans hbc.2⟩
  le_antisymm a b hab hba := eq_of_mem_of_prefixlen_eq a.first_mem (mem_of_le hab a.first_mem)
    (le_antisymm (prefixlen_le_of_le hba) (prefixlen_le_of_le hab))

/-! ### Overlap -/

/-- Two blocks share a word. -/
def Overlaps (a b : Block w) : Prop := ∃ x, x ∈ a ∧ x ∈ b

lemma Overlaps.symm (h : Overlaps a b) : Overlaps b a :=
  h.imp fun _ hx => hx.symm

lemma Overlaps.mono {a' b' : Block w} (h : Overlaps a b) (ha : a ≤ a') (hb : b ≤ b') :
    Overlaps a' b' :=
  h.imp fun _ hx => ⟨mem_of_le ha hx.1, mem_of_le hb hx.2⟩

lemma overlaps_of_le (h : a ≤ b) : Overlaps a b :=
  ⟨a.first, a.first_mem, mem_of_le h a.first_mem⟩

lemma overlaps_self (a : Block w) : Overlaps a a := overlaps_of_le le_rfl

/-- Blocks that overlap are nested. -/
theorem le_or_le_of_overlaps (h : Overlaps a b) : a ≤ b ∨ b ≤ a := by
  obtain ⟨x, ha, hb⟩ := h
  rcases le_total b.prefixlen a.prefixlen with hlen | hlen
  · exact Or.inl (le_of_mem_of_prefixlen_le ha hb hlen)
  · exact Or.inr (le_of_mem_of_prefixlen_le hb ha hlen)

lemma overlaps_iff : Overlaps a b ↔ b.first ∈ a ∨ b.last ∈ a ∨ a.first ∈ b ∨ a.last ∈ b := by
  constructor
  · intro h
    rcases le_or_le_of_overlaps h with hab | hba
    · exact Or.inr (Or.inr (Or.inl (mem_of_le hab a.first_mem)))
    · exact Or.inl (mem_of_le hba b.first_mem)
  · rintro (h | h | h | h)
    · exact ⟨_, h, b.first_mem⟩
    · exact ⟨_, h, b.last_mem⟩
    · exact ⟨_, a.first_mem, h⟩
    · exact ⟨_, a.last_mem, h⟩

instance (a b : Block w) : Decidable (Overlaps a b) := decidable_of_iff _ overlaps_iff.symm

/-! ### Halves -/

/-- The lower half of a block; a single word is its own half. -/
def lower (b : Block w) : Block w :=
  if h : b.prefixlen < w then
    ⟨b.prefixlen + 1, 2 * b.index, h, by have := b.index_lt; rw [pow_succ]; omega⟩
  else b

/-- The upper half of a block; a single word is its own half. -/
def upper (b : Block w) : Block w :=
  if h : b.prefixlen < w then
    ⟨b.prefixlen + 1, 2 * b.index + 1, h, by have := b.index_lt; rw [pow_succ]; omega⟩
  else b

lemma size_eq_two_mul (h : b.prefixlen < w) : b.size = 2 ^ (w - (b.prefixlen + 1)) * 2 := by
  rw [size, ← pow_succ]
  congr 1
  omega

lemma mem_lower_or_mem_upper (h : x ∈ b) : x ∈ b.lower ∨ x ∈ b.upper := by
  unfold lower upper
  split_ifs with hlen
  · rw [mem_iff_div, size_eq_two_mul hlen, ← Nat.div_div_eq_div_mul] at h
    simp only [mem_iff_div, size]
    omega
  · exact Or.inl h

lemma lower_le (b : Block w) : b.lower ≤ b := by
  rw [le_iff_forall_mem]
  intro x hx
  unfold lower at hx
  split_ifs at hx with hlen
  · rw [mem_iff_div, size_eq_two_mul hlen, ← Nat.div_div_eq_div_mul]
    simp only [mem_iff_div, size] at hx
    omega
  · exact hx

lemma upper_le (b : Block w) : b.upper ≤ b := by
  rw [le_iff_forall_mem]
  intro x hx
  unfold upper at hx
  split_ifs at hx with hlen
  · rw [mem_iff_div, size_eq_two_mul hlen, ← Nat.div_div_eq_div_mul]
    simp only [mem_iff_div, size] at hx
    omega
  · exact hx

lemma prefixlen_lower (h : b.prefixlen < w) : b.lower.prefixlen = b.prefixlen + 1 := by
  simp [lower, h]

lemma prefixlen_upper (h : b.prefixlen < w) : b.upper.prefixlen = b.prefixlen + 1 := by
  simp [upper, h]

lemma not_overlaps_lower_upper (h : b.prefixlen < w) : ¬Overlaps b.lower b.upper := by
  rintro ⟨x, hlower, hupper⟩
  simp only [lower, upper, h, dif_pos, mem_iff_div, size] at hlower hupper
  omega

lemma le_lower_or_le_upper (h : a ≤ b) (hlen : b.prefixlen < a.prefixlen) :
    a ≤ b.lower ∨ a ≤ b.upper := by
  have hw : b.prefixlen < w := hlen.trans_le a.prefixlen_le
  rcases mem_lower_or_mem_upper (mem_of_le h a.first_mem) with hx | hx
  · exact Or.inl (le_of_mem_of_prefixlen_le a.first_mem hx (by rw [prefixlen_lower hw]; omega))
  · exact Or.inr (le_of_mem_of_prefixlen_le a.first_mem hx (by rw [prefixlen_upper hw]; omega))

/-- The block of prefix length `p` at the start of `b`. -/
def leading (b : Block w) (p : ℕ) (hb : b.prefixlen ≤ p) (hw : p ≤ w) : Block w where
  prefixlen := p
  index := b.index * 2 ^ (p - b.prefixlen)
  prefixlen_le := hw
  index_lt := by
    calc b.index * 2 ^ (p - b.prefixlen)
        < 2 ^ b.prefixlen * 2 ^ (p - b.prefixlen) :=
          Nat.mul_lt_mul_of_pos_right b.index_lt (Nat.two_pow_pos _)
      _ = 2 ^ p := by rw [← pow_add, Nat.add_sub_cancel' hb]

lemma leading_le (b : Block w) (p : ℕ) (hb : b.prefixlen ≤ p) (hw : p ≤ w) :
    b.leading p hb hw ≤ b := by
  have hfirst : (b.leading p hb hw).first = b.first := by
    have hsize : b.size = (b.leading p hb hw).size * 2 ^ (p - b.prefixlen) :=
      size_eq_mul (a := b.leading p hb hw) hb
    rw [first, first, hsize]
    simp only [leading]
    ring
  exact le_of_mem_of_prefixlen_le (first_mem _) (hfirst ▸ b.first_mem) hb

/-! ### Removing a block from a block -/

/-- The blocks that remain of `b` without `a`, for `a` inside `b` and `n` prefix bits longer: the
half that avoids `a`, and what remains of the other half. -/
def excludeFrom (a : Block w) : ℕ → Block w → List (Block w)
  | 0, _ => []
  | n + 1, b => if a ≤ b.lower then b.upper :: excludeFrom a n b.lower
      else b.lower :: excludeFrom a n b.upper

/-- The blocks that remain of `b` without `a`, largest first. -/
def exclude (b a : Block w) : List (Block w) := excludeFrom a (a.prefixlen - b.prefixlen) b

variable {piece : Block w}

/-- What remains of `b` lies inside `b`, avoids `a`, is no smaller than `a`, and only grows into
blocks that overlap `a`. -/
lemma mem_excludeFrom {n : ℕ} (hle : a ≤ b) (hlen : b.prefixlen + n = a.prefixlen)
    (hpiece : piece ∈ excludeFrom a n b) :
    piece ≤ b ∧ ¬Overlaps piece a ∧ piece.prefixlen ≤ a.prefixlen ∧
      ∀ larger, piece < larger → Overlaps larger a := by
  induction n generalizing b with
  | zero => simp [excludeFrom] at hpiece
  | succ n ih =>
    have hw : b.prefixlen < w := by have := a.prefixlen_le; omega
    -- The two halves play the same part: `near` holds `a`, `far` is the first piece.
    have hstep : ∀ near far : Block w, a ≤ near → near ≤ b → far ≤ b → ¬Overlaps far near →
        near.prefixlen = b.prefixlen + 1 → far.prefixlen = b.prefixlen + 1 →
        piece ∈ far :: excludeFrom a n near →
        piece ≤ b ∧ ¬Overlaps piece a ∧ piece.prefixlen ≤ a.prefixlen ∧
          ∀ larger, piece < larger → Overlaps larger a := by
      intro near far hnear hnearb hfarb hdisj hnearlen hfarlen hmem
      rcases List.mem_cons.mp hmem with rfl | hmem
      · refine ⟨hfarb, fun h => hdisj (h.mono le_rfl hnear), by omega, fun larger hlarger => ?_⟩
        have hshort : larger.prefixlen ≤ b.prefixlen := by
          by_contra hlong
          have := prefixlen_le_of_le hlarger.le
          exact hlarger.ne (eq_of_mem_of_prefixlen_eq piece.first_mem
            (mem_of_le hlarger.le piece.first_mem) (by omega))
        have hb : b ≤ larger := le_of_mem_of_prefixlen_le (mem_of_le hfarb piece.first_mem)
          (mem_of_le hlarger.le piece.first_mem) hshort
        exact (overlaps_of_le (hle.trans hb)).symm
      · obtain ⟨hin, hrest⟩ := ih hnear (by omega) hmem
        exact ⟨hin.trans hnearb, hrest⟩
    have hhalves := not_overlaps_lower_upper hw
    simp only [excludeFrom] at hpiece
    split_ifs at hpiece with hlow
    · exact hstep b.lower b.upper hlow b.lower_le b.upper_le (fun h => hhalves h.symm)
        (prefixlen_lower hw) (prefixlen_upper hw) hpiece
    · have hup : a ≤ b.upper := (le_lower_or_le_upper hle (by omega)).resolve_left hlow
      exact hstep b.upper b.lower hup b.upper_le b.lower_le hhalves (prefixlen_upper hw)
        (prefixlen_lower hw) hpiece

lemma mem_exclude (hle : a ≤ b) (hpiece : piece ∈ b.exclude a) :
    piece ≤ b ∧ ¬Overlaps piece a ∧ piece.prefixlen ≤ a.prefixlen ∧
      ∀ larger, piece < larger → Overlaps larger a :=
  mem_excludeFrom hle (Nat.add_sub_cancel' (prefixlen_le_of_le hle)) hpiece

end Block

/-! ## Free lists -/

variable {w : ℕ}

/-- Remove a block from a list of blocks: the blocks that contain it are split around it, the
others stay. -/
def remove (available : List (Block w)) (taken : Block w) : List (Block w) :=
  available.flatMap fun candidate =>
    if taken ≤ candidate then
      if candidate = taken then [] else candidate.exclude taken
    else [candidate]

/-- A block that remains after a removal comes from an available one; it avoids the removed block
or lies properly inside it. -/
lemma mem_remove {available : List (Block w)} {taken b : Block w} (h : b ∈ remove available taken) :
    ∃ candidate ∈ available, b ≤ candidate ∧ (¬Block.Overlaps b taken ∨ b < taken) := by
  obtain ⟨candidate, hcandidate, hb⟩ := List.mem_flatMap.mp h
  refine ⟨candidate, hcandidate, ?_⟩
  split_ifs at hb with hle heq
  · simp at hb
  · obtain ⟨hin, havoid, -⟩ := Block.mem_exclude hle hb
    exact ⟨hin, Or.inl havoid⟩
  obtain rfl : b = candidate := List.mem_singleton.mp hb
  refine ⟨le_rfl, ?_⟩
  by_cases hover : Block.Overlaps b taken
  · have hlt := (Block.le_or_le_of_overlaps hover).resolve_right hle
    exact Or.inr (lt_of_le_of_ne hlt fun h => hle h.ge)
  · exact Or.inl hover

/-- The available blocks are the free part of `root`: they lie inside it, avoid the reserved
blocks, and every larger block inside `root` overlaps a reserved one. -/
structure FreeList (root : Block w) (reserved available : List (Block w)) : Prop where
  /-- The available blocks lie inside the root. -/
  le_root : ∀ c ∈ available, c ≤ root
  /-- The available blocks avoid the reserved ones. -/
  avoids : ∀ c ∈ available, ∀ r ∈ reserved, ¬Block.Overlaps c r
  /-- The available blocks are as large as they can be. -/
  maximal : ∀ c ∈ available, ∀ b, c < b → b ≤ root → ∃ r ∈ reserved, Block.Overlaps b r

namespace FreeList

variable {root : Block w} {reserved available : List (Block w)}

lemma init (root : Block w) : FreeList root [] [root] where
  le_root := by simp
  avoids := by simp
  maximal := by
    intro c hc b hlt hle
    obtain rfl : c = root := List.mem_singleton.mp hc
    exact absurd hle hlt.not_ge

lemma not_overlaps (h : FreeList root reserved available) {candidate b r : Block w}
    (hcandidate : candidate ∈ available) (hb : b ≤ candidate) (hr : r ∈ reserved) :
    ¬Block.Overlaps b r :=
  fun hover => h.avoids candidate hcandidate r hr (hover.mono hb le_rfl)

/-- Removing a block that avoids the reserved ones reserves it. -/
theorem remove (h : FreeList root reserved available) {taken : Block w} (hroot : taken ≤ root)
    (htaken : ∀ r ∈ reserved, ¬Block.Overlaps taken r) :
    FreeList root (taken :: reserved) (remove available taken) where
  le_root := by
    intro b hb
    obtain ⟨candidate, hcandidate, hle, -⟩ := mem_remove hb
    exact hle.trans (h.le_root candidate hcandidate)
  avoids := by
    intro b hb r hr
    obtain ⟨candidate, hcandidate, hle, hnew⟩ := mem_remove hb
    rcases List.mem_cons.mp hr with rfl | hr
    · rcases hnew with hnew | hlt
      · exact hnew
      -- A candidate properly inside the removed block would not have been maximal.
      exfalso
      obtain ⟨candidate', hcandidate', hb'⟩ := List.mem_flatMap.mp hb
      split_ifs at hb' with hle' heq
      · simp at hb'
      · exact (Block.mem_exclude hle' hb').2.1 (Block.overlaps_of_le hlt.le)
      · obtain rfl : b = candidate' := List.mem_singleton.mp hb'
        obtain ⟨r', hr', hover⟩ := h.maximal b hcandidate' r hlt hroot
        exact htaken r' hr' hover
    · exact h.not_overlaps hcandidate hle hr
  maximal := by
    intro c hc b hlt hle
    obtain ⟨candidate, hcandidate, hmem⟩ := List.mem_flatMap.mp hc
    split_ifs at hmem with hin heq
    · simp at hmem
    · exact ⟨taken, List.mem_cons_self, (Block.mem_exclude hin hmem).2.2.2 b hlt⟩
    · obtain rfl : c = candidate := List.mem_singleton.mp hmem
      obtain ⟨r, hr, hover⟩ := h.maximal c hcandidate b hlt hle
      exact ⟨r, List.mem_cons_of_mem _ hr, hover⟩

lemma of_perm (h : FreeList root reserved available) {available' : List (Block w)}
    (hperm : available'.Perm available) : FreeList root reserved available' where
  le_root := fun c hc => h.le_root c (hperm.mem_iff.mp hc)
  avoids := fun c hc => h.avoids c (hperm.mem_iff.mp hc)
  maximal := fun c hc => h.maximal c (hperm.mem_iff.mp hc)

lemma of_perm_reserved (h : FreeList root reserved available) {reserved' : List (Block w)}
    (hperm : reserved'.Perm reserved) : FreeList root reserved' available where
  le_root := h.le_root
  avoids := fun c hc r hr => h.avoids c hc r (hperm.mem_iff.mp hr)
  maximal := fun c hc b hlt hle =>
    (h.maximal c hc b hlt hle).imp fun _ hr => ⟨hperm.mem_iff.mpr hr.1, hr.2⟩

end FreeList

/-- Blocks carved from a root: they lie inside it, are pairwise disjoint, and the available blocks
are the free rest. -/
structure Carving (root : Block w) (carved available : List (Block w)) : Prop where
  free : FreeList root carved available
  le_root : ∀ b ∈ carved, b ≤ root
  pairwise : carved.Pairwise fun a b => ¬Block.Overlaps a b

namespace Carving

variable {root : Block w} {carved available : List (Block w)}

lemma init (root : Block w) : Carving root [] [root] := ⟨FreeList.init root, by simp, .nil⟩

/-- Carving one more block that avoids the carved ones, with the rest in any order. -/
lemma carve (h : Carving root carved available) {taken : Block w} (hroot : taken ≤ root)
    (htaken : ∀ b ∈ carved, ¬Block.Overlaps taken b) {available' : List (Block w)}
    (hperm : available'.Perm (remove available taken)) :
    Carving root (carved ++ [taken]) available' where
  free := ((h.free.remove hroot htaken).of_perm hperm).of_perm_reserved
    (List.perm_append_singleton taken carved)
  le_root := by
    intro b hb
    rcases List.mem_append.mp hb with hb | hb
    · exact h.le_root b hb
    · exact List.mem_singleton.mp hb ▸ hroot
  pairwise := by
    rw [List.pairwise_append]
    refine ⟨h.pairwise, List.pairwise_singleton _ _, fun a ha b hb hover => ?_⟩
    exact htaken a ha (List.mem_singleton.mp hb ▸ hover.symm)

lemma carve_of_le (h : Carving root carved available) {taken candidate : Block w}
    (hcandidate : candidate ∈ available) (hle : taken ≤ candidate) {available' : List (Block w)}
    (hperm : available'.Perm (remove available taken)) :
    Carving root (carved ++ [taken]) available' :=
  h.carve (hle.trans (h.free.le_root candidate hcandidate))
    (fun _ hb => h.free.not_overlaps hcandidate hle hb) hperm

end Carving

/-! ## Packing -/

section Packings

variable {x p : ℕ} {a b piece root taken : Block w} {blocks carved available : List (Block w)}

/-- A removed block and what remains without it cover what it was removed from. -/
lemma Block.mem_or_mem_excludeFrom {n : ℕ} (hle : a ≤ b) (hlen : b.prefixlen + n = a.prefixlen)
    (hx : x ∈ b) : x ∈ a ∨ ∃ piece ∈ excludeFrom a n b, x ∈ piece := by
  induction n generalizing b with
  | zero =>
    exact Or.inl (eq_of_mem_of_prefixlen_eq (mem_of_le hle a.first_mem) a.first_mem hlen ▸ hx)
  | succ n ih =>
    have hw : b.prefixlen < w := by
      have := a.prefixlen_le
      omega
    -- The half that avoids the removed block remains, the other one is split further.
    have hstep : ∀ near far : Block w, a ≤ near → near.prefixlen = b.prefixlen + 1 →
        x ∈ near ∨ x ∈ far → x ∈ a ∨ ∃ piece ∈ far :: excludeFrom a n near, x ∈ piece := by
      rintro near far hnear hnearlen (hx | hx)
      · exact (ih hnear (by omega) hx).imp_right fun ⟨piece, hpiece, hx⟩ =>
          ⟨piece, List.mem_cons_of_mem _ hpiece, hx⟩
      · exact Or.inr ⟨far, List.mem_cons_self, hx⟩
    simp only [excludeFrom]
    split_ifs with hlow
    · exact hstep _ _ hlow (prefixlen_lower hw) (mem_lower_or_mem_upper hx)
    · exact hstep _ _ ((le_lower_or_le_upper hle (by omega)).resolve_left hlow)
        (prefixlen_upper hw) (mem_lower_or_mem_upper hx).symm

/-- The carved and the available blocks cover the root, and the available ones have at most `p`
prefix bits. -/
structure Packing (root : Block w) (carved available : List (Block w)) (p : ℕ) : Prop where
  covers : ∀ x ∈ root, (∃ b ∈ carved, x ∈ b) ∨ ∃ b ∈ available, x ∈ b
  large : ∀ b ∈ available, b.prefixlen ≤ p

lemma Packing.init (root : Block w) : Packing root [] [root] root.prefixlen := ⟨by simp, by simp⟩

/-- Carving a block that is no larger than the available ones keeps the packing. -/
lemma Packing.carve (h : Packing root carved available p) (hlen : p ≤ taken.prefixlen)
    {available' : List (Block w)} (hperm : available'.Perm (remove available taken)) :
    Packing root (carved ++ [taken]) available' taken.prefixlen where
  covers x hx := by
    rcases h.covers x hx with ⟨b, hb, hxb⟩ | ⟨b, hb, hxb⟩
    · exact Or.inl ⟨b, List.mem_append_left _ hb, hxb⟩
    by_cases htaken : x ∈ taken
    · exact Or.inl ⟨taken, by simp, htaken⟩
    have hleft : ∃ piece ∈ (if taken ≤ b then if b = taken then [] else b.exclude taken else [b]),
        x ∈ piece := by
      split_ifs with hle heq
      · exact absurd (heq ▸ hxb) htaken
      · exact (Block.mem_or_mem_excludeFrom hle
          (Nat.add_sub_cancel' (Block.prefixlen_le_of_le hle)) hxb).resolve_left htaken
      · exact ⟨b, List.mem_singleton_self b, hxb⟩
    obtain ⟨piece, hpiece, hxpiece⟩ := hleft
    exact Or.inr ⟨piece, hperm.mem_iff.mpr (List.mem_flatMap.mpr ⟨b, hb, hpiece⟩), hxpiece⟩
  large piece hpiece := by
    obtain ⟨b, hb, hmem⟩ := List.mem_flatMap.mp (hperm.mem_iff.mp hpiece)
    split_ifs at hmem with hle heq
    · cases hmem
    · exact (Block.mem_exclude hle hmem).2.2.1
    · obtain rfl := List.mem_singleton.mp hmem
      exact (h.large _ hb).trans hlen

end Packings

end PrefixBlocks

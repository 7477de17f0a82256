import PacketTracer.Library.Interaction

/-!
# Dependency graphs

A relation `r` on nodes, where `r a b` says that `a` depends on `b`.  A list of nodes puts
dependencies first when everything a node depends on stands before it.  Such a list exists only
for an acyclic relation; conversely, among finitely many nodes of an acyclic relation there is
always one that depends on none of the others.
-/

namespace DependencyGraph

open Interactions Relation

variable {κ : Type*} {r : κ → κ → Prop}

/-- No node depends on itself, directly or through other nodes. -/
def Acyclic (r : κ → κ → Prop) : Prop := ∀ a, ¬TransGen r a a

/-- Everything that a node of the list depends on stands before it. -/
def DependenciesFirst (r : κ → κ → Prop) (nodes : List κ) : Prop :=
  EachAfter (fun before a => ∀ b, r a b → b ∈ before) nodes

/-- Among finitely many nodes of an acyclic relation one depends on none of the others. -/
lemma Acyclic.exists_minimal (h : Acyclic r) {nodes : List κ} (hne : nodes ≠ []) :
    ∃ a ∈ nodes, ∀ b ∈ nodes, ¬r a b := by
  have : IsTrans κ fun b a => TransGen r a b := ⟨fun _ _ _ hab hbc => hbc.trans hab⟩
  have : Std.Irrefl fun b a => TransGen r a b := ⟨h⟩
  have : IsStrictOrder κ fun b a => TransGen r a b := {}
  have hfinite : {a | a ∈ nodes}.Finite := List.finite_toSet nodes
  have hwell := hfinite.wellFoundedOn (r := fun b a => TransGen r a b)
  obtain ⟨a, ha⟩ := List.exists_mem_of_ne_nil nodes hne
  obtain ⟨⟨m, hm⟩, -, hmin⟩ := WellFounded.has_min hwell Set.univ ⟨⟨a, ha⟩, trivial⟩
  exact ⟨m, hm, fun b hb hmb => hmin ⟨b, hb⟩ trivial (TransGen.single hmb)⟩

variable [DecidableEq κ] {nodes : List κ}

lemma DependenciesFirst.idxOf_lt (h : DependenciesFirst r nodes) {a b : κ} (ha : a ∈ nodes)
    (hab : r a b) : nodes.idxOf b < nodes.idxOf a := by
  obtain ⟨before, after, rfl, hbefore⟩ := List.eq_append_cons_of_mem ha
  have hb : b ∈ before := h before a after rfl b hab
  rw [List.idxOf_append_of_mem hb, List.idxOf_append_of_notMem hbefore, List.idxOf_cons_self,
    Nat.add_zero]
  exact List.idxOf_lt_length_of_mem hb

lemma DependenciesFirst.acyclic (h : DependenciesFirst r nodes)
    (hnodes : ∀ a b, r a b → a ∈ nodes) : Acyclic r := by
  have hlt : ∀ a b, TransGen r a b → nodes.idxOf b < nodes.idxOf a := by
    intro a b hab
    induction hab with
    | single hab => exact h.idxOf_lt (hnodes _ _ hab) hab
    | tail _ hbc ih => exact (h.idxOf_lt (hnodes _ _ hbc) hbc).trans ih
  exact fun a ha => lt_irrefl _ (hlt a a ha)

end DependencyGraph

import Mathlib.Data.List.Induction
import Mathlib.Data.List.Nodup
import Mathlib.Data.List.Perm.Subperm
import Mathlib.Logic.Relation

/-!
# Breadth-first order

The breadth-first order of a graph from a root lists the root and then, round by round, the successors of all
that is listed, each at its first occurrence.  `breadthFirst` is that order after a number of rounds.

A list is the breadth-first order of what is reachable if it lists reachable members only and repeats itself
in one more round, see `breadthFirst_eq_of_fixed`.  This is how an order that some other algorithm computes is
recognised as breadth-first.
-/

namespace CustomResource

variable {α β : Type} [BEq α] [LawfulBEq α]

/-! ## First occurrences -/

theorem eraseDups_concat_of_mem {list : List α} {last : α} (h : last ∈ list) :
    (list ++ [last]).eraseDups = list.eraseDups := by
  rw [List.eraseDups_append]
  simp [List.removeAll, h]

theorem eraseDups_concat_of_not_mem {list : List α} {last : α} (h : last ∉ list) :
    (list ++ [last]).eraseDups = list.eraseDups ++ [last] := by
  rw [List.eraseDups_append]
  simp [List.removeAll, h, List.eraseDups_cons]

theorem nodup_eraseDups (list : List α) : list.eraseDups.Nodup := by
  induction list using List.reverseRecOn with
  | nil => exact List.nodup_nil
  | append_singleton list last ih =>
      by_cases hlast : last ∈ list
      · rw [eraseDups_concat_of_mem hlast]
        exact ih
      · rw [eraseDups_concat_of_not_mem hlast]
        rw [← List.concat_eq_append, List.nodup_concat]
        exact ⟨fun hmem => hlast (List.mem_eraseDups.1 hmem), ih⟩

/-- First occurrences commute with a map that tells the members apart. -/
theorem eraseDups_map_of_injOn [BEq β] [LawfulBEq β] {f : α → β} {list : List α}
    (hf : ∀ a ∈ list, ∀ b ∈ list, f a = f b → a = b) :
    (list.map f).eraseDups = list.eraseDups.map f := by
  induction list using List.reverseRecOn with
  | nil => rfl
  | append_singleton list last ih =>
      have hrest := ih fun a ha b hb =>
        hf a (List.mem_append_left _ ha) b (List.mem_append_left _ hb)
      rw [List.map_append, List.map_singleton]
      by_cases hlast : last ∈ list
      · rw [eraseDups_concat_of_mem hlast, eraseDups_concat_of_mem (List.mem_map_of_mem hlast)]
        exact hrest
      · have hmap : f last ∉ list.map f := by
          intro hmem
          obtain ⟨a, ha, hsame⟩ := List.mem_map.1 hmem
          have heq := hf a (List.mem_append_left _ ha) last (by simp) hsame
          exact hlast (heq ▸ ha)
        rw [eraseDups_concat_of_not_mem hlast, eraseDups_concat_of_not_mem hmap, List.map_append,
          hrest, List.map_singleton]

omit [BEq α] [LawfulBEq α] in
/-- Lists with the same images are the same if the map tells their members apart. -/
theorem eq_of_map_eq_map {f : α → β} :
    ∀ {first second : List α}, first.map f = second.map f →
      (∀ a ∈ first, ∀ b ∈ second, f a = f b → a = b) → first = second
  | [], second, h, _ => (List.map_eq_nil_iff.1 h.symm).symm
  | _ :: _, [], h, _ => by cases h
  | a :: first, b :: second, h, hf => by
      obtain ⟨hhead, htail⟩ := List.cons.inj h
      have hrest : first = second := eq_of_map_eq_map htail fun c hc d hd =>
        hf c (List.mem_cons_of_mem _ hc) d (List.mem_cons_of_mem _ hd)
      rw [hf a List.mem_cons_self b List.mem_cons_self hhead, hrest]

theorem eraseDups_prefix_eraseDups_append (first second : List α) :
    first.eraseDups <+: (first ++ second).eraseDups := by
  rw [List.eraseDups_append]
  exact List.prefix_append _ _

/-! ## Rounds -/

/-- The root and, for the given number of rounds, the successors of all that is listed, in the order of their
first occurrences. -/
def breadthFirst (successors : α → List α) (root : α) : (rounds : Nat) → List α
  | 0 => [root]
  | rounds + 1 => (root :: (breadthFirst successors root rounds).flatMap successors).eraseDups

variable {successors : α → List α} {root : α}

/-- One more round lists more, behind what is listed. -/
theorem round_prefix_round {first second : List α} (h : first <+: second) :
    (root :: first.flatMap successors).eraseDups <+:
      (root :: second.flatMap successors).eraseDups := by
  obtain ⟨rest, rfl⟩ := h
  rw [List.flatMap_append, ← List.cons_append]
  exact eraseDups_prefix_eraseDups_append _ _

omit [LawfulBEq α] in
theorem singleton_prefix_round (list : List α) :
    [root] <+: (root :: list.flatMap successors).eraseDups := by
  rw [List.eraseDups_cons]
  exact ⟨_, rfl⟩

theorem breadthFirst_prefix_succ (rounds : Nat) :
    breadthFirst successors root rounds <+: breadthFirst successors root (rounds + 1) := by
  induction rounds with
  | zero => exact singleton_prefix_round _
  | succ rounds ih => exact round_prefix_round ih

/-- Every order that repeats itself in one more round begins with the breadth-first one. -/
theorem breadthFirst_prefix_of_fixed {order : List α}
    (hfixed : order = (root :: order.flatMap successors).eraseDups) (rounds : Nat) :
    breadthFirst successors root rounds <+: order := by
  rw [hfixed]
  induction rounds with
  | zero => exact singleton_prefix_round _
  | succ rounds ih =>
      rw [← hfixed] at ih
      exact round_prefix_round ih

/-- An order that repeats itself in one more round holds all that is reachable. -/
theorem mem_of_fixed {order : List α}
    (hfixed : order = (root :: order.flatMap successors).eraseDups) {a : α}
    (ha : Relation.ReflTransGen (fun a b => b ∈ successors a) root a) : a ∈ order := by
  induction ha with
  | refl =>
      rw [hfixed, List.mem_eraseDups]
      exact List.mem_cons_self
  | @tail b c _ hstep ih =>
      rw [hfixed, List.mem_eraseDups]
      exact List.mem_cons_of_mem _ (List.mem_flatMap.2 ⟨b, ih, hstep⟩)

/-- Each round lists a new member as long as reachable ones are missing. -/
theorem breadthFirst_eq_or_lt_length {order : List α}
    (hfixed : order = (root :: order.flatMap successors).eraseDups)
    (hreach : ∀ a ∈ order, Relation.ReflTransGen (fun a b => b ∈ successors a) root a)
    (rounds : Nat) :
    breadthFirst successors root rounds = order ∨
      rounds < (breadthFirst successors root rounds).length := by
  induction rounds with
  | zero => exact Or.inr Nat.zero_lt_one
  | succ rounds ih =>
      have hstep : breadthFirst successors root rounds <+: breadthFirst successors root (rounds + 1) :=
        breadthFirst_prefix_succ rounds
      have hnext := breadthFirst_prefix_of_fixed hfixed (rounds + 1)
      by_cases hgrows : (breadthFirst successors root rounds).length <
          (breadthFirst successors root (rounds + 1)).length
      · rcases ih with heq | hlt
        · -- A round after the last one is a prefix of the order that contains it.
          refine Or.inl (hnext.eq_of_length (Nat.le_antisymm hnext.length_le ?_))
          rw [← heq]
          exact hstep.length_le
        · exact Or.inr (Nat.lt_of_le_of_lt hlt hgrows)
      · -- Nothing new was listed, so the list is closed and holds all that is reachable.
        have hsame : breadthFirst successors root rounds =
            breadthFirst successors root (rounds + 1) :=
          hstep.eq_of_length (Nat.le_antisymm hstep.length_le (Nat.le_of_not_lt hgrows))
        have hmem : ∀ a ∈ order, a ∈ breadthFirst successors root (rounds + 1) := by
          intro a ha
          rw [← hsame]
          exact mem_of_fixed hsame (hreach a ha)
        have hnodup : order.Nodup := by
          rw [hfixed]
          exact nodup_eraseDups _
        have hle : order.length ≤ (breadthFirst successors root (rounds + 1)).length :=
          (List.subperm_of_subset hnodup hmem).length_le
        exact Or.inl (hnext.eq_of_length (Nat.le_antisymm hnext.length_le hle))

/-- An order of reachable members that repeats itself in one more round is the breadth-first order, which is
complete after as many rounds as it has members. -/
theorem breadthFirst_eq_of_fixed {order : List α}
    (hfixed : order = (root :: order.flatMap successors).eraseDups)
    (hreach : ∀ a ∈ order, Relation.ReflTransGen (fun a b => b ∈ successors a) root a)
    {rounds : Nat} (hrounds : order.length ≤ rounds) :
    breadthFirst successors root rounds = order := by
  have hprefix := breadthFirst_prefix_of_fixed hfixed rounds
  rcases breadthFirst_eq_or_lt_length hfixed hreach rounds with heq | hlt
  · exact heq
  · have hle := hprefix.length_le
    omega

end CustomResource

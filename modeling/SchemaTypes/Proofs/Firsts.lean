import Mathlib

/-! The distinct members of a list. Each of them stands once, in the order in which they first
stand in the list. -/
namespace SchemaTypes

theorem eraseDups_concat [DecidableEq α] (l : List α) (a : α) :
    (l ++ [a]).eraseDups = if a ∈ l then l.eraseDups else l.eraseDups ++ [a] := by
  rw [List.eraseDups_append]
  split
  · next member => simp [List.removeAll, member]
  · next absent => simp [List.removeAll, absent, List.eraseDups_cons]

theorem eraseDups_nodup [DecidableEq α] (l : List α) : l.eraseDups.Nodup := by
  induction l using List.reverseRecOn with
  | nil => exact .nil
  | append_singleton l a ih =>
    rw [eraseDups_concat]
    split
    · exact ih
    · next absent =>
      refine List.nodup_append'.mpr ⟨ih, List.nodup_singleton a, ?_⟩
      simpa using absent

theorem length_eraseDups [DecidableEq α] (l : List α) : l.eraseDups.length = l.toFinset.card := by
  rw [← List.toFinset_card_of_nodup (eraseDups_nodup l)]
  congr 1
  ext a
  simp

theorem sum_count_eraseDups [DecidableEq α] (l : List α) :
    (l.eraseDups.map fun a => l.count a).sum = l.length := by
  have same : l.eraseDups.Perm l.dedup :=
    (List.perm_ext_iff_of_nodup (eraseDups_nodup l) l.nodup_dedup).mpr (by simp)
  rw [(same.map _).sum_eq, List.sum_map_count_dedup_eq_length]

theorem sum_of_parted [DecidableEq κ] {key : α → κ} {l : List α} {parts : List β} {size : β → Nat}
    (parted : List.Forall₂ (fun k part => (l.filter (key · = k)).length = size part)
      (l.map key).eraseDups parts) : (parts.map size).sum = l.length := by
  have counts : (l.map key).eraseDups.map (l.map key).count = parts.map size := by
    rw [← List.forall₂_eq_eq_eq, List.forall₂_map_left_iff, List.forall₂_map_right_iff]
    refine parted.imp fun k part same => Eq.trans ?_ same
    rw [List.count_eq_countP, List.countP_map, List.countP_eq_length_filter]
    rfl
  rw [← counts, sum_count_eraseDups, List.length_map]

theorem eraseDups_of_nodup [DecidableEq α] {l : List α} (nodup : l.Nodup) : l.eraseDups = l := by
  induction l using List.reverseRecOn with
  | nil => rfl
  | append_singleton l a ih =>
    obtain ⟨front, -, apart⟩ := List.nodup_append'.mp nodup
    have absent : a ∉ l := fun member => apart member (List.mem_singleton_self a)
    rw [eraseDups_concat, if_neg absent, ih front]

/-- The members of a list, each once and in the order in which they first stand in it. -/
structure FirstsOf [DecidableEq α] (l firsts : List α) : Prop where
  members : ∀ a, a ∈ firsts ↔ a ∈ l
  nodup : firsts.Nodup
  ordered : firsts.Pairwise fun a b => l.idxOf a < l.idxOf b

theorem eraseDups_ordered [DecidableEq α] (l : List α) :
    l.eraseDups.Pairwise fun a b => l.idxOf a < l.idxOf b := by
  induction l using List.reverseRecOn with
  | nil => exact .nil
  | append_singleton l a ih =>
    have kept : l.eraseDups.Pairwise fun b c => (l ++ [a]).idxOf b < (l ++ [a]).idxOf c := by
      refine ih.imp_of_mem fun first second less => ?_
      rwa [List.idxOf_append_of_mem (List.mem_eraseDups.mp first),
        List.idxOf_append_of_mem (List.mem_eraseDups.mp second)]
    rw [eraseDups_concat]
    split
    · exact kept
    · next absent =>
      refine List.pairwise_append.mpr ⟨kept, List.pairwise_singleton _ a, ?_⟩
      intro b first c last
      have member : b ∈ l := List.mem_eraseDups.mp first
      rw [List.mem_singleton.mp last, List.idxOf_append_of_mem member,
        List.idxOf_append_of_notMem absent]
      exact Nat.lt_add_right _ (List.idxOf_lt_length_of_mem member)

theorem firstsOf_eraseDups [DecidableEq α] (l : List α) : FirstsOf l l.eraseDups where
  members _ := List.mem_eraseDups
  nodup := eraseDups_nodup l
  ordered := eraseDups_ordered l

end SchemaTypes

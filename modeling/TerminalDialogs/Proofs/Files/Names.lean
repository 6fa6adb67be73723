import TerminalDialogs.Files.Tree
import TerminalDialogs.Proofs.Text.Rows

/-!
# Where names and paths come from

A listing shows the names that places in the tree are made of (`Tree.name_of_mem_list`),
and a path that is made from others has no characters but theirs and slashes
(`Path.mem_of_mem_child`, `Path.mem_of_mem_parent?`).
-/

namespace TerminalDialogs

namespace Path

variable {c : Char}

theorem mem_of_mem_child {directory name : Text} (h : c ∈ child directory name) :
    c ∈ directory ∨ c ∈ name ∨ c = '/' := by
  rw [child] at h
  split at h
  · exact Or.inr (Or.inl h)
  · split at h
    · exact Or.inr (Or.inl h)
    · split at h
      · exact (List.mem_append.mp h).imp_right Or.inl
      · simp only [List.mem_append, List.mem_singleton] at h
        rcases h with (h | h) | h
        · exact Or.inl h
        · exact Or.inr (Or.inr h)
        · exact Or.inr (Or.inl h)

theorem trimPieces_subset (pieces : List Text) : trimPieces pieces ⊆ pieces := by
  intro piece h
  obtain ⟨numbered, hmem, rfl⟩ := List.mem_map.mp h
  have hmem' : numbered ∈ pieces.zipIdx :=
    List.mem_reverse.mp ((List.dropWhile_sublist _).subset (List.mem_reverse.mp hmem))
  exact List.fst_mem_of_mem_zipIdx hmem'

theorem mem_of_mem_ofPieces {absolute : Bool} {pieces : List Text}
    (h : c ∈ ofPieces absolute pieces) : c = '/' ∨ ∃ piece ∈ pieces, c ∈ piece := by
  rcases pieces with _ | ⟨piece, pieces⟩
  · rw [ofPieces] at h
    split at h
    · exact Or.inl (List.mem_singleton.mp h)
    · exact absurd h List.not_mem_nil
  · exact (Text.mem_of_mem_join h).imp_left List.mem_singleton.mp

theorem mem_of_mem_parent? {p parent : Text} (hparent : parent? p = some parent)
    (h : c ∈ parent) : c ∈ p ∨ c = '/' := by
  rw [parent?] at hparent
  split at hparent
  · exact nomatch hparent
  · next hpieces =>
    obtain rfl := Option.some.inj hparent
    refine (mem_of_mem_ofPieces h).symm.imp_left fun ⟨piece, hmem, hc⟩ => ?_
    have hmem' : piece ∈ Text.pieces '/' p :=
      trimPieces_subset _ (List.dropLast_subset _ (trimPieces_subset _ hmem))
    exact Text.subset_of_mem_pieces hmem' hc

end Path

namespace Files

/-- A name somewhere in a tree, or on the way to its working directory. -/
def Tree.Names (t : Tree) (name : Text) : Prop :=
  name ∈ t.working ∨ ∃ e ∈ t.entries, name ∈ e.1

namespace Tree

variable {t : Tree}

theorem names_of_mem_namesIn {place : Place} {name : Text} (h : name ∈ t.namesIn place) :
    t.Names name := by
  rw [namesIn, List.mem_eraseDups] at h
  obtain ⟨p, hp, hbelow⟩ := List.mem_filterMap.mp h
  split at hbelow
  · have hname : name ∈ p := List.mem_of_mem_drop (List.mem_of_mem_head? hbelow)
    rcases List.mem_cons.mp hp with rfl | hp
    · exact Or.inl hname
    · obtain ⟨e, he, rfl⟩ := List.mem_map.mp hp
      exact Or.inr ⟨e, he, hname⟩
  · exact nomatch hbelow

theorem name_listed (directory : Text) (place : Place) (name : Text) :
    (t.listed directory place name).name = name := by
  rw [listed]
  split
  · rfl
  · split <;> rfl
  · rfl

/-- **A listing shows names of the tree.** -/
theorem names_of_mem_list {showHidden : Bool} {directory : Text} {entries : List Listed}
    (h : t.list showHidden directory = .ok entries) {e : Listed} (he : e ∈ entries) :
    t.Names e.name := by
  rw [list] at h
  split at h
  · exact nomatch h
  · next place _ =>
    split at h
    · obtain rfl := Except.ok.inj h
      obtain ⟨name, hname, rfl⟩ := List.mem_map.mp (List.mem_mergeSort.mp he)
      rw [name_listed]
      exact names_of_mem_namesIn (List.mem_filter.mp hname).1
    · obtain rfl := Except.ok.inj h
      exact absurd he List.not_mem_nil

/-- What cannot be listed is the directory that was asked for. -/
theorem path_of_list {showHidden : Bool} {directory : Text} {e : ListError}
    (h : t.list showHidden directory = .error e) : e.path = directory := by
  rw [list] at h
  split at h
  · rw [← Except.error.inj h]
  · split at h
    · exact nomatch h
    · exact nomatch h

end Tree

end Files
end TerminalDialogs

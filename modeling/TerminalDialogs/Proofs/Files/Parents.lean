import Mathlib.Data.List.Basic
import Mathlib.Data.List.Induction
import TerminalDialogs.Proofs.Files.Places

/-!
# Parents of paths

A path can end in slashes and dots that mean nothing, and its parent is found in the text: the
last piece that means something is cut off with all that is behind it, and then what means nothing
at the new end.  So a parent is what a path spells up to some of its pieces (`Path.upTo`), a
beginning of the text that has no such end (`Path.upTo_isPrefix`, `Path.tidied_upTo`).

The parent of the path of a name in a directory is the path of the directory, but without its end
(`Path.parent?_child`).  It is the same path, as paths are compared (`Path.components_tidied`),
though it need not be the same text.

What is cut off is a piece of text, whatever the path leads to.  If it is two dots, the parent lies
below, and if nothing is left, the parent is the empty path, which leads nowhere.  Neither happens
to a path that starts at the root and has no two dots in it (`Path.Rooted`).
-/

namespace TerminalDialogs

namespace Path

/-! ## What means nothing at the end -/

theorem trimPieces_concat (front : List Text) (piece : Text) :
    trimPieces (front ++ [piece]) =
      if isComponent front.length piece then front ++ [piece] else trimPieces front := by
  rw [trimPieces, List.zipIdx_append, List.reverse_append]
  cases hpiece : isComponent front.length piece with
  | true => simp [hpiece, List.zipIdx_map_fst]
  | false => simp [hpiece, trimPieces]

theorem trimPieces_append_replicate (front : List Text) (n : Nat) :
    trimPieces (front ++ List.replicate n []) = trimPieces front := by
  induction n with
  | zero => rw [List.replicate_zero, List.append_nil]
  | succ n ih =>
    have hempty : ¬ isComponent (front ++ List.replicate n []).length [] = true := by
      simp [isComponent]
    rw [List.replicate_succ', ← List.append_assoc, trimPieces_concat, if_neg hempty, ih]

theorem eq_of_not_isComponent {position : Nat} {piece : Text}
    (h : isComponent position piece = false) : piece = [] ∨ piece = ['.'] := by
  rw [isComponent, Bool.and_eq_false_iff, Bool.or_eq_false_iff, bne_eq_false_iff_eq,
    bne_eq_false_iff_eq] at h
  exact h.imp_right And.left

/-- What is trimmed are empty pieces and dots. -/
theorem exists_noise (pieces : List Text) : ∃ noise, pieces = trimPieces pieces ++ noise ∧
    ∀ piece ∈ noise, piece = [] ∨ piece = ['.'] := by
  induction pieces using List.reverseRecOn with
  | nil => exact ⟨[], rfl, fun piece h => absurd h List.not_mem_nil⟩
  | append_singleton front piece ih =>
    rw [trimPieces_concat]
    cases hpiece : isComponent front.length piece with
    | true =>
      refine ⟨[], ?_, fun piece h => absurd h List.not_mem_nil⟩
      rw [if_pos rfl, List.append_nil]
    | false =>
      obtain ⟨noise, hfront, hnoise⟩ := ih
      refine ⟨noise ++ [piece], ?_, fun other hother => ?_⟩
      · rw [if_neg Bool.false_ne_true, ← List.append_assoc, ← hfront]
      · rcases List.mem_append.mp hother with hother | hother
        · exact hnoise other hother
        · rw [List.mem_singleton.mp hother]
          exact eq_of_not_isComponent hpiece

theorem trimPieces_isPrefix (pieces : List Text) : trimPieces pieces <+: pieces := by
  obtain ⟨noise, hpieces, -⟩ := exists_noise pieces
  exact ⟨noise, hpieces.symm⟩

/-- What stands in front of the last piece that means something. -/
theorem isPrefix_of_trimPieces {pieces front : List Text} {piece : Text}
    (h : trimPieces pieces = front ++ [piece]) : front <+: pieces :=
  List.IsPrefix.trans ⟨[piece], h.symm⟩ (trimPieces_isPrefix pieces)

/-- Trimmed pieces end in one that means something. -/
theorem isComponent_of_trimPieces {pieces front : List Text} {piece : Text}
    (h : trimPieces pieces = front ++ [piece]) : isComponent front.length piece = true := by
  induction pieces using List.reverseRecOn with
  | nil => simp [trimPieces] at h
  | append_singleton before last ih =>
    rw [trimPieces_concat] at h
    cases hlast : isComponent before.length last with
    | true =>
      rw [hlast, if_pos rfl] at h
      obtain ⟨rfl, hpiece⟩ := List.append_inj' h rfl
      obtain rfl := List.singleton_inj.mp hpiece
      exact hlast
    | false =>
      rw [hlast, if_neg Bool.false_ne_true] at h
      exact ih h

/-- A piece that means something is kept, with all in front of it. -/
theorem isPrefix_trimPieces {front : List Text} {piece : Text}
    (h : isComponent front.length piece = true) (rest : List Text) :
    front ++ [piece] <+: trimPieces (front ++ [piece] ++ rest) := by
  induction rest using List.reverseRecOn with
  | nil =>
    refine ⟨[], ?_⟩
    rw [List.append_nil, trimPieces_concat, if_pos h]
  | append_singleton rest last ih =>
    rw [← List.append_assoc, trimPieces_concat]
    split
    · exact ⟨rest ++ [last], by simp⟩
    · exact ih

theorem trimPieces_trimPieces (pieces : List Text) :
    trimPieces (trimPieces pieces) = trimPieces pieces := by
  rcases List.eq_nil_or_concat' (trimPieces pieces) with h | ⟨front, piece, h⟩
  · rw [h]
    rfl
  · rw [h, trimPieces_concat, if_pos (isComponent_of_trimPieces h)]

/-! ## Beginnings of a path -/

/-- What a path spells up to some of its pieces. -/
def upTo (p : Text) (front : List Text) : Text := ofPieces (isAbsolute p) (trimPieces front)

/-- A path without what means nothing at its end. -/
def tidied (p : Text) : Text := upTo p (Text.pieces '/' p)

theorem parent?_eq_some_iff {p parent : Text} : parent? p = some parent ↔
    ∃ front piece, trimPieces (Text.pieces '/' p) = front ++ [piece] ∧ upTo p front = parent := by
  rw [parent?]
  rcases List.eq_nil_or_concat' (trimPieces (Text.pieces '/' p)) with h | ⟨front, piece, h⟩
  · simp [h]
  · rw [h]
    have hlast : (front ++ [piece]).dropLast = front := List.dropLast_concat
    split
    · next hnil => simp at hnil
    · rw [hlast, Option.some.injEq]
      constructor
      · exact fun heq => ⟨front, piece, rfl, heq⟩
      · rintro ⟨front', piece', heq, hparent⟩
        rw [(List.append_inj' heq rfl).1]
        exact hparent

/-- A path starts at the root if its first piece is empty, but the empty path does not. -/
theorem isAbsolute_iff {p : Text} (hne : p ≠ []) :
    isAbsolute p = true ↔ (Text.pieces '/' p).head? = some [] := by
  obtain ⟨c, rest, rfl⟩ := List.exists_cons_of_ne_nil hne
  rw [isAbsolute, Text.pieces, beq_iff_eq, List.head?_cons, Option.some.injEq]
  by_cases hc : c = '/'
  · simp [hc]
  · rw [if_neg hc]
    split <;> simp [hc]

section Beginning

variable {p : Text} {front : List Text}

theorem ofPieces_of_ne_nil {pieces : List Text} (h : pieces ≠ []) (absolute : Bool) :
    ofPieces absolute pieces = Text.join ['/'] pieces := by
  rw [ofPieces]
  exact h

variable (hfront : front <+: Text.pieces '/' p)
include hfront

theorem upTo_isPrefix : upTo p front <+: p := by
  rw [upTo]
  by_cases hnil : trimPieces front = []
  · rw [hnil, ofPieces]
    split
    · next habsolute =>
      obtain ⟨rest, rfl⟩ := List.head?_eq_some_iff.mp (beq_iff_eq.mp habsolute)
      exact ⟨rest, rfl⟩
    · exact List.nil_prefix
  · have hbegins := Text.join_isPrefix ['/'] ((trimPieces_isPrefix front).trans hfront)
    rwa [Text.join_pieces, ← ofPieces_of_ne_nil hnil (isAbsolute p)] at hbegins

/-- The pieces up to which a path is spelled, if one of them means something. -/
theorem pieces_upTo (hne : trimPieces front ≠ []) :
    Text.pieces '/' (upTo p front) = trimPieces front := by
  rw [upTo, ofPieces_of_ne_nil hne]
  refine Text.pieces_join hne fun piece hpiece => ?_
  have hmem : piece ∈ Text.pieces '/' p :=
    ((trimPieces_isPrefix front).trans hfront).subset hpiece
  exact Text.notMem_of_mem_pieces hmem

omit hfront in
theorem upTo_of_nil (hnil : trimPieces front = []) :
    upTo p front = if isAbsolute p then ['/'] else [] := by
  rw [upTo, hnil, ofPieces]

theorem upTo_eq_nil_iff : upTo p front = [] ↔ trimPieces front = [] ∧ isAbsolute p = false := by
  by_cases hnil : trimPieces front = []
  · rw [upTo_of_nil hnil]
    simp [hnil]
  · refine ⟨fun hempty => ?_, fun h => absurd h.1 hnil⟩
    have hpieces := pieces_upTo hfront hnil
    rw [hempty] at hpieces
    have htrim : trimPieces front = [] ++ [[]] := hpieces.symm
    cases isComponent_of_trimPieces htrim

theorem isAbsolute_upTo (hne : upTo p front ≠ []) :
    isAbsolute (upTo p front) = isAbsolute p := by
  by_cases hnil : trimPieces front = []
  · rw [upTo_of_nil hnil] at hne ⊢
    split at hne
    · next habsolute => rw [habsolute, if_pos rfl]; rfl
    · exact absurd rfl hne
  · have hp : p ≠ [] := by
      rintro rfl
      exact hne (List.prefix_nil.mp (upTo_isPrefix hfront))
    obtain ⟨piece, rest, hcons⟩ := List.exists_cons_of_ne_nil hnil
    obtain ⟨others, hpieces⟩ := (trimPieces_isPrefix front).trans hfront
    rw [Bool.eq_iff_iff, isAbsolute_iff hne, isAbsolute_iff hp, pieces_upTo hfront hnil, ← hpieces,
      hcons]
    rfl

/-- A beginning of a path has nothing at its end that means nothing. -/
theorem tidied_upTo : tidied (upTo p front) = upTo p front := by
  by_cases hempty : upTo p front = []
  · rw [hempty]
    rfl
  · by_cases hnil : trimPieces front = []
    · rw [upTo_of_nil hnil] at hempty ⊢
      split
      · rfl
      · rfl
    · rw [tidied, upTo, pieces_upTo hfront hnil, trimPieces_trimPieces,
        isAbsolute_upTo hfront hempty]
      rfl

end Beginning

/-- A path whose last piece means something has no end to be cut off. -/
theorem tidied_eq_self {p piece : Text} {front : List Text}
    (hpieces : Text.pieces '/' p = front ++ [piece])
    (h : isComponent front.length piece = true) : tidied p = p := by
  have htrim : trimPieces (Text.pieces '/' p) = Text.pieces '/' p := by
    rw [hpieces, trimPieces_concat, if_pos h]
  rw [tidied, upTo, htrim, ofPieces_of_ne_nil (Text.pieces_ne_nil '/' p), Text.join_pieces]

theorem tidied_parent {p parent : Text} (h : parent? p = some parent) :
    tidied parent = parent := by
  obtain ⟨front, piece, htrim, rfl⟩ := parent?_eq_some_iff.mp h
  exact tidied_upTo (isPrefix_of_trimPieces htrim)

theorem tidied_isPrefix (p : Text) : tidied p <+: p := upTo_isPrefix List.prefix_rfl

theorem tidied_ne_nil {p : Text} (hne : p ≠ []) : tidied p ≠ [] := by
  intro hempty
  obtain ⟨hnil, hrelative⟩ := (upTo_eq_nil_iff List.prefix_rfl).mp hempty
  -- the first piece of a path that does not start at the root means something
  obtain ⟨piece, rest, hpieces⟩ := List.exists_cons_of_ne_nil (Text.pieces_ne_nil '/' p)
  have hpiece : piece ≠ [] := by
    rintro rfl
    have habsolute : isAbsolute p = true := by
      rw [isAbsolute_iff hne, hpieces, List.head?_cons]
    exact absurd habsolute (hrelative ▸ Bool.false_ne_true)
  have hkept : isComponent ([] : List Text).length piece = true := by
    simp [isComponent, hpiece]
  have hbegins := isPrefix_trimPieces hkept rest
  rw [List.nil_append, List.singleton_append, ← hpieces, hnil] at hbegins
  exact absurd (List.prefix_nil.mp hbegins) (List.cons_ne_nil _ _)

/-! ## Paths that are the same -/

/-- The pieces that mean something. -/
def meaningful (pieces : List Text) : List Text :=
  (pieces.zipIdx.filter fun numbered => isComponent numbered.2 numbered.1).map Prod.fst

/-- What two paths have in common that are the same path, however they are written: whether they
start at the root, and the pieces that mean something. -/
def components (p : Text) : Bool × List Text :=
  (isAbsolute p, meaningful (Text.pieces '/' p))

theorem meaningful_concat (front : List Text) (piece : Text) :
    meaningful (front ++ [piece]) =
      if isComponent front.length piece then meaningful front ++ [piece] else meaningful front := by
  rw [meaningful, List.zipIdx_append, List.filter_append, List.map_append]
  cases hpiece : isComponent front.length piece with
  | true => simp [hpiece, meaningful]
  | false => simp [hpiece, meaningful]

theorem meaningful_trimPieces (pieces : List Text) :
    meaningful (trimPieces pieces) = meaningful pieces := by
  induction pieces using List.reverseRecOn with
  | nil => rfl
  | append_singleton front piece ih =>
    rw [trimPieces_concat]
    split
    · rfl
    · next hpiece => rw [meaningful_concat, if_neg hpiece, ih]

/-- **A path is the same without what means nothing at its end.** -/
theorem components_tidied {p : Text} (hne : p ≠ []) : components (tidied p) = components p := by
  have habsolute := isAbsolute_upTo (p := p) List.prefix_rfl (tidied_ne_nil hne)
  rw [components, components, tidied, habsolute]
  by_cases hnil : trimPieces (Text.pieces '/' p) = []
  · have hmeaningful := meaningful_trimPieces (Text.pieces '/' p)
    rw [hnil] at hmeaningful
    rw [upTo_of_nil hnil, ← hmeaningful]
    split
    · rfl
    · rfl
  · rw [pieces_upTo List.prefix_rfl hnil, meaningful_trimPieces]

/-! ## The parent of a path in a directory -/

section Child

variable {directory name : Text}

theorem trimPieces_child (hname : IsName name) (directory : Text) : ∃ front,
    trimPieces (Text.pieces '/' (child directory name)) = front ++ [name] ∧
      trimPieces front = trimPieces (Text.pieces '/' directory) := by
  obtain ⟨front, hchild, hdirectory⟩ := exists_pieces_child hname directory
  have hkept : isComponent front.length name = true := by
    simp [isComponent, hname.ne_nil, hname.ne_dot]
  refine ⟨front, ?_, ?_⟩
  · rw [hchild, trimPieces_concat, if_pos hkept]
  · rcases hdirectory with hdirectory | hdirectory
    · rw [hdirectory]
    · have hempty : ¬ isComponent front.length [] = true := by
        simp [isComponent]
      rw [hdirectory, trimPieces_concat, if_neg hempty]

/-- **The parent of the path of a name in a directory is the directory**, without what means
nothing at its end. -/
theorem parent?_child (hname : IsName name) (hne : directory ≠ []) :
    parent? (child directory name) = some (tidied directory) := by
  obtain ⟨front, htrim, hfront⟩ := trimPieces_child hname directory
  refine parent?_eq_some_iff.mpr ⟨front, name, htrim, ?_⟩
  rw [upTo, tidied, upTo, hfront, isAbsolute_child hname hne]

theorem child_ne_nil (hname : IsName name) (directory : Text) : child directory name ≠ [] := by
  intro hempty
  obtain ⟨front, hchild, -⟩ := exists_pieces_child hname directory
  rw [hempty] at hchild
  have hlast : ([] : Text) = name := by
    have := congrArg List.getLast? hchild
    simpa [Text.pieces] using this
  exact hname.ne_nil hlast.symm

theorem tidied_child (hname : IsName name) (directory : Text) :
    tidied (child directory name) = child directory name := by
  obtain ⟨front, hchild, -⟩ := exists_pieces_child hname directory
  refine tidied_eq_self hchild ?_
  simp [isComponent, hname.ne_nil, hname.ne_dot]

end Child

/-! ## Paths from the root -/

theorem name?_eq_some_iff {p name : Text} : name? p = some name ↔
    (∃ front, trimPieces (Text.pieces '/' p) = front ++ [name]) ∧ name ≠ ['.'] ∧
      name ≠ ['.', '.'] := by
  rw [name?, ← List.getLast?_eq_some_iff]
  split
  · next hnone => simp [hnone]
  · next piece hpiece =>
    rw [hpiece, Option.some.injEq]
    split
    · next hdots =>
      refine ⟨fun h => absurd h (Option.some_ne_none name).symm, ?_⟩
      rintro ⟨rfl, hdot, hdots'⟩
      exact absurd hdots (not_or.mpr ⟨hdot, hdots'⟩)
    · next hdots =>
      rw [Option.some.injEq]
      refine ⟨?_, And.left⟩
      rintro rfl
      exact ⟨rfl, not_or.mp hdots⟩

theorem isName_of_name? {p name : Text} (h : name? p = some name) : IsName name := by
  obtain ⟨⟨front, htrim⟩, hdot, hdots⟩ := name?_eq_some_iff.mp h
  have hkept := isComponent_of_trimPieces htrim
  rw [isComponent, Bool.and_eq_true] at hkept
  have hmem : name ∈ Text.pieces '/' p :=
    (trimPieces_isPrefix _).subset (htrim ▸ List.mem_append_right front List.mem_cons_self)
  exact ⟨bne_iff_ne.mp hkept.1, hdot, hdots, Text.notMem_of_mem_pieces hmem⟩

/-- A path from the root on that never goes up. -/
structure Rooted (p : Text) : Prop where
  absolute : isAbsolute p = true
  dots_notMem : ['.', '.'] ∉ Text.pieces '/' p

instance (p : Text) : Decidable (Rooted p) :=
  decidable_of_iff (isAbsolute p = true ∧ ['.', '.'] ∉ Text.pieces '/' p)
    ⟨fun ⟨habsolute, hdots⟩ => ⟨habsolute, hdots⟩, fun h => ⟨h.absolute, h.dots_notMem⟩⟩

namespace Rooted

variable {p above name : Text}

theorem ne_nil (h : Rooted p) : p ≠ [] := by
  rintro rfl
  cases h.absolute

theorem child (h : Rooted p) (hname : IsName name) : Rooted (child p name) := by
  refine ⟨(isAbsolute_child hname h.ne_nil).trans h.absolute, fun hmem => ?_⟩
  obtain ⟨front, hchild, hp⟩ := exists_pieces_child hname p
  rw [hchild] at hmem
  rcases List.mem_append.mp hmem with hmem | hmem
  · refine h.dots_notMem ?_
    rcases hp with hp | hp
    · exact hp ▸ hmem
    · exact hp ▸ List.mem_append_left _ hmem
  · exact hname.ne_dots (List.mem_singleton.mp hmem).symm

theorem upTo (h : Rooted p) {front : List Text} (hfront : front <+: Text.pieces '/' p) :
    Rooted (upTo p front) := by
  have hne : Path.upTo p front ≠ [] := by
    intro hempty
    exact absurd ((upTo_eq_nil_iff hfront).mp hempty).2 (by simp [h.absolute])
  refine ⟨(isAbsolute_upTo hfront hne).trans h.absolute, fun hmem => ?_⟩
  by_cases hnil : trimPieces front = []
  · rw [upTo_of_nil hnil, if_pos h.absolute] at hmem
    exact absurd hmem (by decide)
  · rw [pieces_upTo hfront hnil] at hmem
    exact h.dots_notMem (((trimPieces_isPrefix front).trans hfront).subset hmem)

theorem parent (h : Rooted p) (habove : parent? p = some above) : Rooted above := by
  obtain ⟨front, piece, htrim, rfl⟩ := parent?_eq_some_iff.mp habove
  exact h.upTo (isPrefix_of_trimPieces htrim)

/-- A path from the root has a name if any of its pieces means something. -/
theorem exists_name? (h : Rooted p) (hne : trimPieces (Text.pieces '/' p) ≠ []) :
    ∃ name, name? p = some name := by
  obtain ⟨front, piece, htrim⟩ := (List.eq_nil_or_concat' _).resolve_left hne
  refine ⟨piece, name?_eq_some_iff.mpr ⟨⟨front, htrim⟩, ?_, ?_⟩⟩
  · -- a dot means something only at the very start, and there is the root
    rintro rfl
    have hkept := isComponent_of_trimPieces htrim
    have hfront : front = [] := by simpa [isComponent] using hkept
    obtain ⟨rest, hpieces⟩ := trimPieces_isPrefix (Text.pieces '/' p)
    have hhead := (isAbsolute_iff h.ne_nil).mp h.absolute
    rw [← hpieces, htrim, hfront] at hhead
    cases hhead
  · rintro rfl
    refine h.dots_notMem ((trimPieces_isPrefix _).subset ?_)
    exact htrim ▸ List.mem_append_right front List.mem_cons_self

end Rooted

end Path
end TerminalDialogs

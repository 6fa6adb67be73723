import TerminalDialogs.Text.Width

/-!
# Characters that are clusters of their own

Whether two characters belong to one cluster depends on both of them.  A
character is *solitary* if it stays by itself between letters and beside its own
like.  That is a matter of its class only (`solitary_iff`): marks, joiners, flag
letters and the single letters of Hangul are not solitary, while controls, pictures,
Hangul syllables and all that no rule mentions are.

A text of solitary characters is *loose*.  Its clusters are its characters, but
for a carriage return and a line feed, which belong together.  Those are controls
and never shown, so what is shown of a loose text is one character at a time
(`shownClusters_of_loose`).
-/

namespace TerminalDialogs
namespace Text

/-- A character that is a cluster of its own between letters and beside itself. -/
def Solitary (c : Char) : Prop := clusters ['a', c, c, 'a'] = [['a'], [c], [c], ['a']]

/-- A text whose characters do not hang together. -/
def Loose (s : Text) : Prop := ∀ c ∈ s, Solitary c

/-! ## The classes of solitary characters -/

/-- The classes whose members join neither each other nor a letter. -/
def ClusterClass.isApart : ClusterClass → Bool
  | .carriageReturn | .lineFeed | .control | .hangulOpen | .hangulClosed | .picture | .other => true
  | _ => false

/-- The first cluster holds what has been read of it. -/
theorem exists_clustersFrom (ctx : ClusterContext) (seen s : Text) :
    ∃ more others, clustersFrom ctx seen s = (seen.reverse ++ more) :: others := by
  induction s generalizing ctx seen with
  | nil => exact ⟨[], [], by rw [clustersFrom, List.append_nil]⟩
  | cons c s ih =>
    rw [clustersFrom]
    split
    · obtain ⟨more, others, h⟩ := ih (ctx.extend c) (c :: seen)
      exact ⟨c :: more, others, by rw [h, List.reverse_cons, List.append_assoc]; rfl⟩
    · exact ⟨[], _, by rw [List.append_nil]⟩

/-- A character is a cluster where the next one does not join it, and only there. -/
theorem clustersFrom_eq_cons_iff {ctx : ClusterContext} {b c : Char} {s : Text}
    {others : List Text} : clustersFrom ctx [b] (c :: s) = [b] :: others ↔
      ctx.joins c = false ∧ clustersFrom (.start c) [c] s = others := by
  rw [clustersFrom]
  cases hjoins : ctx.joins c with
  | true =>
    obtain ⟨more, others', h⟩ := exists_clustersFrom (ctx.extend c) [c, b] s
    rw [if_pos rfl, h]
    simp
  | false => simp

theorem solitary_iff_joins {c : Char} : Solitary c ↔
    (ClusterContext.start 'a').joins c = false ∧ (ClusterContext.start c).joins c = false ∧
      (ClusterContext.start c).joins 'a' = false := by
  rw [Solitary, clusters, clustersFrom_eq_cons_iff, clustersFrom_eq_cons_iff,
    clustersFrom_eq_cons_iff]
  simp [clustersFrom]

/-- **Being solitary is a matter of the class.** -/
theorem solitary_iff {c : Char} : Solitary c ↔ (clusterClass c).isApart = true := by
  have ha : clusterClass 'a' = .other := by decide
  rw [solitary_iff_joins]
  simp only [ClusterContext.joins, ClusterContext.start, ha, Bool.false_and]
  cases clusterClass c <;> simp [ClusterClass.standsAlone, ClusterClass.isApart]

instance (c : Char) : Decidable (Solitary c) :=
  decidable_of_iff ((clusterClass c).isApart = true) solitary_iff.symm

instance (s : Text) : Decidable (Loose s) := List.decidableBAll Solitary s

theorem Solitary.isApart {c : Char} (h : Solitary c) : (clusterClass c).isApart = true :=
  solitary_iff.mp h

theorem clusterClass_of_lt {c : Char} (h : c.toNat < 0x7F) :
    (clusterClass c).isApart = true := by
  fun_cases clusterClass c
  all_goals first | rfl | omega

/-- All characters of the first block are solitary. -/
theorem solitary_of_lt {c : Char} (h : c.toNat < 0x7F) : Solitary c :=
  solitary_iff.mpr (clusterClass_of_lt h)

/-! ## Blocks without joining characters -/

/-- Blocks of signs and pictures that hold nothing that joins: dashes and dots, arrows and
symbols, pictures. -/
def apartBlocks : List (Nat × Nat) := [(0x2010, 0x2027), (0x2190, 0x2BFF), (0x1F300, 0x1F3FA)]

/-- Whether ranges stay clear of these blocks. -/
def staysClear (ranges : List (Nat × Nat)) : Bool :=
  ranges.all fun r => apartBlocks.all fun b => decide (r.2 < b.1) || decide (b.2 < r.1)

theorem inRanges_of_staysClear {ranges : List (Nat × Nat)} (h : staysClear ranges = true)
    {c : Char} (hc : inRanges apartBlocks c = true) : inRanges ranges c = false := by
  obtain ⟨b, hb, hinside⟩ := List.any_eq_true.mp hc
  refine List.any_eq_false.mpr fun r hr => ?_
  have hclear := List.all_eq_true.mp (List.all_eq_true.mp h r hr) b hb
  simp only [Bool.or_eq_true, Bool.and_eq_true, decide_eq_true_eq] at hclear hinside ⊢
  omega

/-- Every table of joining characters stays clear of the blocks. -/
theorem clusterClass_of_inRanges {c : Char} (h : inRanges apartBlocks c = true) :
    (clusterClass c).isApart = true := by
  have hclear {t : List (Nat × Nat)} (ht : staysClear t = true) : inRanges t c = false :=
    inRanges_of_staysClear ht h
  have hextending : inRanges extendingRanges c = false := hclear (by decide +kernel)
  have hspacing : inRanges spacingRanges c = false := hclear (by decide +kernel)
  have hcontrol : inRanges controlRanges c = false := hclear (by decide)
  have hprepend : inRanges prependRanges c = false := hclear (by decide)
  have hskin : isSkinTone c = false := by
    simpa [inRanges, isSkinTone] using hclear (t := [(0x1F3FB, 0x1F3FF)]) (by decide)
  have hflag : isFlagLetter c = false := by
    simpa [inRanges, isFlagLetter] using hclear (t := [(0x1F1E6, 0x1F1FF)]) (by decide)
  have hleading : inRanges [(0x1100, 0x115F), (0xA960, 0xA97C)] c = false := hclear (by decide)
  have hvowel : inRanges [(0x1160, 0x11A7), (0xD7B0, 0xD7C6), (0x16D63, 0x16D63),
      (0x16D67, 0x16D6A)] c = false := hclear (by decide)
  have htrailing : inRanges [(0x11A8, 0x11FF), (0xD7CB, 0xD7FB)] c = false := hclear (by decide)
  have hjoiner : c ≠ joiner := by
    rintro rfl
    exact absurd h (by decide)
  fun_cases clusterClass c
  all_goals simp_all [isExtending, isSpacing, ClusterClass.isApart]

/-! ## Loose texts -/

theorem loose_nil : Loose [] := fun _ h => absurd h List.not_mem_nil

@[simp] theorem loose_append {s t : Text} : Loose (s ++ t) ↔ Loose s ∧ Loose t :=
  List.forall_mem_append

@[simp] theorem loose_cons {c : Char} {s : Text} : Loose (c :: s) ↔ Solitary c ∧ Loose s :=
  List.forall_mem_cons

theorem Loose.of_subset {s t : Text} (hs : Loose s) (h : t ⊆ s) : Loose t := fun c hc => hs c (h hc)

/-- Whether a text is of the first block and of blocks without joining characters. -/
def isPlain (s : Text) : Bool :=
  s.all fun c => decide (c.toNat < 0x7F) || inRanges apartBlocks c

theorem loose_of_plain {s : Text} (h : s.isPlain = true) : Loose s := by
  intro c hc
  rcases Bool.or_eq_true_iff.mp (List.all_eq_true.mp h c hc) with hlt | hblock
  · exact solitary_of_lt (of_decide_eq_true hlt)
  · exact solitary_iff.mpr (clusterClass_of_inRanges hblock)

theorem Loose.take {s : Text} (hs : Loose s) (n : Nat) : Loose (s.take n) :=
  hs.of_subset (List.take_subset n s)

theorem Loose.drop {s : Text} (hs : Loose s) (n : Nat) : Loose (s.drop n) :=
  hs.of_subset (List.drop_subset n s)

@[simp] theorem loose_blanks (n : Nat) : Loose (blanks n) := by
  intro c hc
  rw [List.eq_of_mem_replicate hc]
  exact solitary_of_lt (by decide)

@[simp] theorem loose_ofNat (n : Nat) : Loose (ofNat n) := by
  intro c hc
  have hdigit : c.isDigit = true := isDigit_of_mem_ofNat hc
  refine solitary_of_lt ?_
  have hle : c.val ≤ '9'.val := by
    simp only [Char.isDigit, Bool.and_eq_true, decide_eq_true_eq] at hdigit
    exact hdigit.2
  have hle' : c.toNat ≤ 57 := hle
  omega

@[simp] theorem loose_padLeft {s : Text} {n : Nat} : Loose (padLeft n s) ↔ Loose s := by
  rw [padLeft, loose_append]
  exact and_iff_right (loose_blanks _)

/-! ## What is shown of a loose text -/

/-- What is shown of clusters. -/
def shown (clusters : List Text) : List Text := clusters.filter fun k => !k.any isControl

/-- The characters of a text that are no controls, each by itself. -/
def singles (s : Text) : List Text := (s.filter fun c => !isControl c).map fun c => [c]

theorem isControl_of_clusterClass {c : Char}
    (h : clusterClass c = .carriageReturn ∨ clusterClass c = .lineFeed) : isControl c = true := by
  have hlt : c.toNat < 0x20 := by
    revert h
    fun_cases clusterClass c
    all_goals first | omega | exact fun h => nomatch h
  simp [isControl, hlt]

/-- Of two solitary characters one joins the other only if they are a carriage
return and a line feed. -/
theorem joins_of_isApart {ctx : ClusterContext} {c : Char} (hlast : ctx.last.isApart = true)
    (hlinked : ctx.linked = false) (hc : (clusterClass c).isApart = true)
    (h : ctx.joins c = true) : ctx.last = .carriageReturn ∧ clusterClass c = .lineFeed := by
  revert h
  simp only [ClusterContext.joins, hlinked, Bool.false_and]
  cases hctx : ctx.last <;> cases hclass : clusterClass c <;>
    simp_all [ClusterClass.standsAlone, ClusterClass.isApart]

theorem shown_clustersFrom {s : Text} (hs : Loose s) (ctx : ClusterContext) (seen : Text)
    (hlast : ctx.last.isApart = true) (hlinked : ctx.linked = false)
    (hseen : ctx.last = .carriageReturn → seen.any isControl = true) :
    shown (clustersFrom ctx seen s) =
      (if seen.any isControl then [] else [seen.reverse]) ++ singles s := by
  induction s generalizing ctx seen with
  | nil => cases h : seen.any isControl <;> simp [clustersFrom, shown, singles, h]
  | cons c s ih =>
    have hc : (clusterClass c).isApart = true := (hs c List.mem_cons_self).isApart
    have hs' : Loose s := hs.of_subset (List.subset_cons_self c s)
    rw [clustersFrom]
    cases hjoins : ctx.joins c with
    | true =>
      -- a carriage return and a line feed: the cluster is a control already
      obtain ⟨hreturn, hfeed⟩ := joins_of_isApart hlast hlinked hc hjoins
      have hcontrol : isControl c = true := isControl_of_clusterClass (Or.inr hfeed)
      have hlinked' : (ctx.extend c).linked = false := by simp [ClusterContext.extend, hfeed]
      rw [if_pos rfl, ih hs' (ctx.extend c) (c :: seen) hc hlinked' fun _ => by simp [hcontrol]]
      simp [hseen hreturn, hcontrol, singles]
    | false =>
      have hstart := ih hs' (.start c) [c] hc rfl fun h => by
        simp [isControl_of_clusterClass (Or.inl h)]
      rw [if_neg Bool.false_ne_true, shown, List.filter_cons, ← shown, hstart]
      cases h : seen.any isControl <;> cases hcontrol : isControl c <;>
        simp [singles, h, hcontrol]

/-- **A loose text is shown character by character.** -/
theorem shownClusters_of_loose {s : Text} (hs : Loose s) : shownClusters s = singles s := by
  rcases s with _ | ⟨c, s⟩
  · rfl
  · have hc : (clusterClass c).isApart = true := (hs c List.mem_cons_self).isApart
    refine (shown_clustersFrom (hs.of_subset (List.subset_cons_self c s)) (.start c) [c] hc rfl
      fun h => ?_).trans ?_
    · simp [isControl_of_clusterClass (Or.inl h)]
    · cases hcontrol : isControl c <;> simp [singles, hcontrol]

theorem exists_of_mem_shownClusters {s k : Text} (hs : Loose s) (hk : k ∈ shownClusters s) :
    ∃ c ∈ s, isControl c = false ∧ k = [c] := by
  rw [shownClusters_of_loose hs] at hk
  obtain ⟨c, hc, rfl⟩ := List.mem_map.mp hk
  obtain ⟨hmem, hcontrol⟩ := List.mem_filter.mp hc
  exact ⟨c, hmem, by simpa using hcontrol, rfl⟩

end Text
end TerminalDialogs

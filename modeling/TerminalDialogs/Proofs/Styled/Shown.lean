import TerminalDialogs.Proofs.Styled.Restore

/-!
# What a restored text shows

Restoring a background writes sequences into a text, and a sequence takes no room; so
the text should show what it showed before.  That is so for every text, whatever its
sequences are and wherever it breaks off (`strip_restore`), although the search for style
sequences and the reading of the text may be at odds: the search also finds them inside of
commands and behind an ESC that belongs to a sequence before it.

The reason is where the background can be written.  Its place is behind the `m` of what
looks like a style sequence, and there the reading is outside of sequences or inside of a
command, in which the background ends nothing.  For what is shown it is enough to know of
a reading which kind of sequence it is inside of (`seeAll`), and then the readings of the
text and of the restored text are level after every character (`seeAll_restoreFrom`).

A background holds no line feed, so a text is restored row by row (`restore_unrows`).
-/

namespace TerminalDialogs
namespace Styled

open Screen (Rgb)

/-! ## Looking at visible characters only -/

/-- What a character shows, and inside of which kind of sequence it leads. -/
def see : Option Opening → Char → Text × Option Opening
  | none, c => if c = esc then ([], some .bare) else ([c], none)
  | some opening, c => ([], opening.next c)

/-- What a text shows, and inside of which kind of sequence it leads. -/
def seeAll : Option Opening → Text → Text × Option Opening
  | place, [] => ([], place)
  | place, c :: s => ((see place c).1 ++ (seeAll (see place c).2 s).1, (seeAll (see place c).2 s).2)

theorem seeAll_cons (place : Option Opening) (c : Char) (s : Text) :
    seeAll place (c :: s) =
      ((see place c).1 ++ (seeAll (see place c).2 s).1, (seeAll (see place c).2 s).2) := rfl

theorem seeAll_append (place : Option Opening) (a b : Text) :
    seeAll place (a ++ b) =
      ((seeAll place a).1 ++ (seeAll (seeAll place a).2 b).1,
        (seeAll (seeAll place a).2 b).2) := by
  induction a generalizing place with
  | nil => rfl
  | cons c a ih => rw [List.cons_append, seeAll_cons, ih, seeAll_cons, List.append_assoc]

theorem see_eq_read (state : Scan) (c : Char) :
    see (state.map Prod.fst) c =
      ((state.read c).1.filterMap Token.visible?, (state.read c).2.map Prod.fst) := by
  rcases state with _ | ⟨opening, seen⟩
  · show see none c = _
    rw [see, Scan.read]
    split
    · rfl
    · rfl
  · show see (some opening) c = _
    rw [see, Scan.read]
    cases opening.next c with
    | none => rfl
    | some opening' => rfl

/-- Of a reading one sees the visible ones among its tokens. -/
theorem seeAll_eq_readAll (state : Scan) (s : Text) :
    seeAll (state.map Prod.fst) s =
      ((state.readAll s).1.filterMap Token.visible?, (state.readAll s).2.map Prod.fst) := by
  induction s generalizing state with
  | nil => rfl
  | cons c s ih =>
    rw [seeAll_cons, see_eq_read, ih, Scan.readAll_cons, List.filterMap_append]

theorem strip_eq_seeAll (s : Text) : strip s = (seeAll none s).1 := by
  have htail : (Scan.readAll none s).2.tail.filterMap Token.visible? = [] := by
    rcases (Scan.readAll none s).2 with _ | ⟨opening, seen⟩
    · rfl
    · rfl
  have hseen := seeAll_eq_readAll none s
  rw [Option.map_none] at hseen
  rw [strip, tokens_eq_readAll, List.filterMap_append, htail, List.append_nil, hseen]

theorem whole_iff_seeAll {s : Text} : Whole s ↔ (seeAll none s).2 = none := by
  have hseen := seeAll_eq_readAll none s
  rw [Option.map_none] at hseen
  rw [whole_iff_readAll, hseen, Option.map_eq_none_iff]

/-! ## The background shows nothing -/

theorem see_some (opening : Opening) (c : Char) :
    see (some opening) c = ([], opening.next c) := rfl

/-- A command goes on as long as no character can end it. -/
theorem seeAll_command {w : Text} {d : Char} (h : ∀ e ∈ w ++ [d], e ≠ bel ∧ e ≠ '\\')
    (afterEsc : Bool) :
    seeAll (some (.command afterEsc)) (w ++ [d]) = ([], some (.command (d = esc))) := by
  induction w generalizing afterEsc with
  | nil =>
    obtain ⟨hbel, hslash⟩ := h d (List.mem_singleton_self d)
    have hnext : Opening.next (.command afterEsc) d = some (.command (d = esc)) :=
      Opening.command_next fun hend => hend.elim hbel fun hend => hslash hend.2
    rw [List.nil_append, seeAll_cons, see_some, hnext]
    rfl
  | cons e w ih =>
    obtain ⟨hbel, hslash⟩ := h e List.mem_cons_self
    have hnext : Opening.next (.command afterEsc) e = some (.command (e = esc)) :=
      Opening.command_next fun hend => hend.elim hbel fun hend => hslash hend.2
    rw [List.cons_append, seeAll_cons, see_some, hnext,
      ih fun f hf => h f (List.mem_cons_of_mem e hf)]
    rfl

theorem seeAll_of_whole {s : Text} (h : Whole s) : seeAll none s = (strip s, none) :=
  Prod.ext (strip_eq_seeAll s).symm (whole_iff_seeAll.mp h)

/-- Outside of sequences and inside of a command the background shows nothing and leads
nowhere. -/
theorem seeAll_backgroundSequence (c : Rgb) {place : Option Opening}
    (h : place = none ∨ place = some (.command false)) :
    seeAll place (backgroundSequence c) = ([], place) := by
  rcases h with rfl | rfl
  · rw [seeAll_of_whole (whole_backgroundSequence c), strip_backgroundSequence]
  · have hends : ∀ e ∈ backgroundSequence c, e ≠ bel ∧ e ≠ '\\' := fun e he =>
      ⟨ne_of_mem_of_not_mem he (notMem_backgroundSequence (by decide) (by decide) c),
        ne_of_mem_of_not_mem he (notMem_backgroundSequence (by decide) (by decide) c)⟩
    rw [backgroundSequence_eq] at hends ⊢
    exact seeAll_command hends false

/-- Only an ESC leads to where nothing but ESC has been read. -/
theorem see_eq_bare {place : Option Opening} {c : Char} (h : (see place c).2 = some .bare) :
    c = esc := by
  rcases place with _ | opening
  · by_cases hc : c = esc
    · exact hc
    · rw [see, if_neg hc] at h
      cases h
  · rw [see_some] at h
    rcases opening with _ | _ | afterEsc
    · rw [Opening.next] at h
      split at h
      · cases h
      · split at h
        · cases h
        · cases h
    · rw [Opening.next] at h
      split at h
      · cases h
      · cases h
    · rw [Opening.next] at h
      split at h
      · cases h
      · cases h

theorem StyleScan.next_esc (search : StyleScan) : search.next esc = .opened := by
  rcases search with _ | _ | seen
  · rfl
  · rfl
  · rfl

/-- The `m` of what looks like a style sequence ends a control sequence, or is a
character of a command or a visible one. -/
theorem see_final {place : Option Opening} (h : place ≠ some .bare) :
    (see place 'm').2 = none ∨ (see place 'm').2 = some (.command false) := by
  rcases place with _ | _ | _ | afterEsc
  · exact Or.inl rfl
  · exact absurd rfl h
  · exact Or.inl rfl
  · exact Or.inr (Opening.command_next fun hend => hend.elim (by decide) fun hend =>
      absurd hend.2 (by decide))

/-- **The readings are level**: a text shows the same when it is restored, and leads to the
same place, if the search has noticed an ESC that was read last. -/
theorem seeAll_restoreFrom (c : Rgb) {place : Option Opening} {search : StyleScan}
    (h : place = some .bare → search = .opened) (s : Text) :
    seeAll place (restoreFrom (backgroundSequence c) search s) = seeAll place s := by
  induction s generalizing place search with
  | nil => rfl
  | cons d s ih =>
    by_cases hcopy : search.Copies d
    · have hnext : (see place d).2 = some .bare → search.next d = .opened := fun hbare => by
        rw [see_eq_bare hbare, StyleScan.next_esc]
      rw [restoreFrom_cons hcopy, seeAll_cons, seeAll_cons, ih hnext]
    · obtain ⟨seen, rfl, rfl⟩ := StyleScan.of_not_copies hcopy
      have hplace : place ≠ some .bare := fun hbare => StyleScan.noConfusion (h hbare)
      have hwritten : seeAll (see place 'm').2 (restoration (backgroundSequence c) seen s) =
          ([], (see place 'm').2) := by
        rw [restoration]
        split
        · exact seeAll_backgroundSequence c (see_final hplace)
        · rfl
      have houtside : (see place 'm').2 = some .bare → StyleScan.outside = .opened := fun hbare =>
        absurd (see_eq_bare hbare) (by decide)
      rw [restoreFrom_final, seeAll_cons, seeAll_append, hwritten, ih houtside, seeAll_cons]
      rfl

theorem seeAll_restore (c : Rgb) (s : Text) :
    seeAll none (restore (backgroundSequence c) s) = seeAll none s := by
  have houtside : none = some Opening.bare → StyleScan.outside = .opened := fun h => nomatch h
  rw [restore_backgroundSequence, seeAll_restoreFrom c houtside]

/-- **A restored text shows what the text shows.** -/
theorem strip_restore (c : Rgb) (s : Text) :
    strip (restore (backgroundSequence c) s) = strip s := by
  rw [strip_eq_seeAll, strip_eq_seeAll, seeAll_restore]

theorem whole_restore (c : Rgb) {s : Text} :
    Whole (restore (backgroundSequence c) s) ↔ Whole s := by
  rw [whole_iff_seeAll, whole_iff_seeAll, seeAll_restore]

/-! ## Rows -/

/-- A text is restored with its own characters and those of the background. -/
theorem mem_of_mem_restoreFrom {background s : Text} {search : StyleScan} {d : Char}
    (h : d ∈ restoreFrom background search s) : d ∈ background ∨ d ∈ s := by
  induction s generalizing search with
  | nil => exact absurd h List.not_mem_nil
  | cons e s ih =>
    by_cases hcopy : search.Copies e
    · rw [restoreFrom_cons hcopy, List.mem_cons] at h
      rcases h with rfl | h
      · exact Or.inr List.mem_cons_self
      · exact (ih h).imp_right (List.mem_cons_of_mem e)
    · obtain ⟨seen, rfl, rfl⟩ := StyleScan.of_not_copies hcopy
      rw [restoreFrom_final, List.mem_cons, List.mem_append] at h
      rcases h with rfl | h | h
      · exact Or.inr List.mem_cons_self
      · rw [restoration] at h
        split at h
        · exact Or.inl h
        · exact absurd h List.not_mem_nil
      · exact (ih h).imp_right (List.mem_cons_of_mem 'm')

theorem lineFeed_notMem_backgroundSequence (c : Rgb) : '\n' ∉ backgroundSequence c :=
  notMem_backgroundSequence (by decide) (by decide) c

theorem lineFeed_notMem_restore (c : Rgb) {line : Text} (h : '\n' ∉ line) :
    '\n' ∉ restore (backgroundSequence c) line := by
  rw [restore_backgroundSequence]
  exact fun hmem => (mem_of_mem_restoreFrom hmem).elim (lineFeed_notMem_backgroundSequence c) h

/-- A character that a text does not hold ends the search for it. -/
theorem isPrefixOf_append_cons {p : Text} {d : Char} (h : d ∉ p) (a b : Text) :
    p.isPrefixOf (a ++ d :: b) = p.isPrefixOf a := by
  induction p generalizing a with
  | nil => rfl
  | cons e p ih =>
    rw [List.mem_cons, not_or] at h
    rcases a with _ | ⟨f, a⟩
    · simp [List.isPrefixOf, Ne.symm h.1]
    · rw [List.cons_append, List.isPrefixOf, List.isPrefixOf, ih h.2]

/-- No style sequence goes beyond its row. -/
theorem restoreFrom_append_lineFeed {background : Text} (hbackground : '\n' ∉ background)
    {line : Text} (hline : '\n' ∉ line) (search : StyleScan) (s : Text) :
    restoreFrom background search (line ++ '\n' :: s) =
      restoreFrom background search line ++ '\n' :: restoreFrom background .outside s := by
  induction line generalizing search with
  | nil =>
    have hoff : search.next '\n' = .outside := by
      rcases search with _ | _ | seen
      · rfl
      · rfl
      · rfl
    rw [List.nil_append, restoreFrom_cons (search.copies_of_ne (by decide)), hoff]
    rfl
  | cons d line ih =>
    rw [List.mem_cons, not_or] at hline
    by_cases hcopy : search.Copies d
    · rw [List.cons_append, restoreFrom_cons hcopy, restoreFrom_cons hcopy, ih hline.2]
      rfl
    · obtain ⟨seen, rfl, rfl⟩ := StyleScan.of_not_copies hcopy
      have hwritten : restoration background seen (line ++ '\n' :: s) =
          restoration background seen line := by
        rw [restoration, restoration, isPrefixOf_append_cons hbackground]
      rw [List.cons_append, restoreFrom_final, restoreFrom_final, ih hline.2, hwritten,
        List.cons_append, List.append_assoc]

/-- **A text is restored row by row.** -/
theorem restore_unrows (c : Rgb) {lines : List Text} (h : ∀ line ∈ lines, '\n' ∉ line) :
    restore (backgroundSequence c) (Text.unrows lines) =
      Text.unrows (lines.map (restore (backgroundSequence c))) := by
  simp only [restore_backgroundSequence, Text.unrows]
  induction lines with
  | nil => rfl
  | cons line lines ih =>
    rw [List.forall_mem_cons] at h
    rcases lines with _ | ⟨next, lines⟩
    · rw [List.map_singleton, Text.join_singleton, Text.join_singleton, restore_backgroundSequence]
    · rw [Text.join_cons_cons, List.append_assoc, List.singleton_append,
        restoreFrom_append_lineFeed (lineFeed_notMem_backgroundSequence c) h.1, ih h.2,
        List.map_cons, List.map_cons, List.map_cons, Text.join_cons_cons, List.append_assoc,
        List.singleton_append, ← restore_backgroundSequence c line]

end Styled
end TerminalDialogs

import TerminalDialogs.Proofs.Styled.Ground

/-!
# Restored grounds

A dialog restores its background in a text (`restore`) so that the text can be
shown on it: what had the default of the terminal behind it has the background
of the dialog behind it, and what had a colour of its own keeps that colour
(`grounds_restore`).

Whether this is so is decided sequence by sequence.  `restore` looks at how the
parameters are written, the terminal at what they mean, and the two need not
agree: a list such as `0;1` gives the ground up without being noticed
(`reset_in_list_unnoticed`), and in `48;5;49` the 49 is a colour.  `Agreed`
collects what has to hold of a sequence; of a style sequence nothing less will do
(`agreed_of_covered`).

## The two readings

The proof goes through the text character by character, with the reading of the
text, the search for style sequences in it and the reading of the restored text
next to each other.  `Abreast` says how the three stand between two characters.
They part ways in two places only.  Inside a command the search may find what
looks like a style sequence, so the two readings are inside of different
commands, which does not show.  After a sequence that gives the ground up the
background may already follow in the text; nothing is written then, and the two
readings meet again behind it (`cellsOf_restoration`).
-/

namespace TerminalDialogs
namespace Styled

open Screen (Rgb)

/-! ## Sequences on which rule and meaning agree -/

/-- Whether the background is written after a sequence. -/
def isGivenUp (sequence : Text) : Bool := (parametersOf? sequence).any givesUpBackground

/-- What the rule makes of a sequence fits what the sequence means. -/
structure Agreed (c : Rgb) (sequence : Text) : Prop where
  /-- No other sequence seems to begin at its end. -/
  apart : ¬ [esc] <:+ sequence.tail ∧ ¬ [esc, '['] <:+ sequence.tail
  /-- If the background is written after it, then in place of the default or of
  the same colour. -/
  of_givenUp : isGivenUp sequence = true →
    Ground.ofSequence? sequence = some .default ∨
      Ground.ofSequence? sequence = some (Ground.ofColor c)
  /-- If not, then it does not return to the default. -/
  of_kept : isGivenUp sequence = false → Ground.ofSequence? sequence ≠ some .default

instance (c : Rgb) (sequence : Text) : Decidable (Agreed c sequence) :=
  decidable_of_iff
    ((¬ [esc] <:+ sequence.tail ∧ ¬ [esc, '['] <:+ sequence.tail) ∧
      (isGivenUp sequence = true → Ground.ofSequence? sequence = some .default ∨
        Ground.ofSequence? sequence = some (Ground.ofColor c)) ∧
      (isGivenUp sequence = false → Ground.ofSequence? sequence ≠ some .default))
    ⟨fun h => ⟨h.1, h.2.1, h.2.2⟩, fun h => ⟨h.apart, h.of_givenUp, h.of_kept⟩⟩

/-- The rule takes every sequence among the tokens for what it means. -/
def Restorable (c : Rgb) (ts : List Token) : Prop :=
  ∀ sequence, .escape sequence ∈ ts → Agreed c sequence

theorem Restorable.agreed {c : Rgb} {sequence : Text} {ts : List Token}
    (h : Restorable c (.escape sequence :: ts)) : Agreed c sequence :=
  h sequence List.mem_cons_self

theorem Restorable.tail {c : Rgb} {t : Token} {ts : List Token} (h : Restorable c (t :: ts)) :
    Restorable c ts :=
  fun sequence hsequence => h sequence (List.mem_cons_of_mem t hsequence)

theorem isGivenUp_controlSequence {parameters : Text} (h : parameters.all isParameter = true) :
    isGivenUp (controlSequence parameters 'm') = givesUpBackground parameters := by
  rw [isGivenUp, parametersOf?_controlSequence h]
  rfl

/-! ## The search for style sequences -/

theorem StyleScan.next_outside (d : Char) :
    StyleScan.next .outside d = if d = esc then .opened else .outside := rfl

theorem StyleScan.next_opened {d : Char} (h : d ≠ '[') :
    StyleScan.next .opened d = if d = esc then .opened else .outside := by
  rw [StyleScan.next]
  · intro seen hopened
    cases hopened
  · exact fun _ => h

theorem StyleScan.next_parameters (seen : Text) (d : Char) :
    StyleScan.next (.parameters seen) d =
      if isParameter d then .parameters (d :: seen)
      else if d = esc then .opened
      else .outside := rfl

/-- What can end a command lies outside of any style sequence. -/
theorem StyleScan.next_of_ends (search : StyleScan) {d : Char} (h : d = bel ∨ d = '\\') :
    search.next d = .outside := by
  rcases h with rfl | rfl
  · rcases search with _ | _ | seen
    · rfl
    · rfl
    · rfl
  · rcases search with _ | _ | seen
    · rfl
    · rfl
    · rfl

/-- The character does not end a style sequence. -/
def StyleScan.Copies (search : StyleScan) (d : Char) : Prop :=
  ∀ seen, search = .parameters seen → d ≠ 'm'

theorem StyleScan.copies_outside (d : Char) : StyleScan.Copies .outside d := by
  intro seen h
  cases h

theorem StyleScan.copies_opened (d : Char) : StyleScan.Copies .opened d := by
  intro seen h
  cases h

theorem StyleScan.copies_of_ne (search : StyleScan) {d : Char} (h : d ≠ 'm') : search.Copies d :=
  fun _ _ => h

theorem StyleScan.of_not_copies {search : StyleScan} {d : Char} (h : ¬ search.Copies d) :
    ∃ seen, search = .parameters seen ∧ d = 'm' := by
  simpa [StyleScan.Copies] using h

/-! ## The restored text -/

/-- A character that ends no style sequence is copied. -/
theorem restoreFrom_cons {search : StyleScan} {d : Char} (h : search.Copies d)
    (background s : Text) :
    restoreFrom background search (d :: s) =
      d :: restoreFrom background (search.next d) s := by
  rw [restoreFrom]
  exact h

theorem restoreFrom_final (background seen s : Text) :
    restoreFrom background (.parameters seen) ('m' :: s) =
      'm' :: (restoration background seen s ++ restoreFrom background .outside s) := rfl

/-- A style sequence is copied, and what restores the background stands behind
it. -/
theorem restoreFrom_controlSequence {parameters : Text} (h : parameters.all isParameter = true)
    (background s : Text) :
    restoreFrom background .outside (controlSequence parameters 'm' ++ s) =
      controlSequence parameters 'm' ++
        (restoration background parameters.reverse s ++ restoreFrom background .outside s) := by
  have hbody (seen : Text) : restoreFrom background (.parameters seen) (parameters ++ 'm' :: s) =
      parameters ++ 'm' :: (restoration background (parameters.reverse ++ seen) s ++
        restoreFrom background .outside s) := by
    induction parameters generalizing seen with
    | nil => rfl
    | cons d parameters ih =>
      rw [List.all_cons, Bool.and_eq_true] at h
      have hd : d ≠ 'm' := by
        rintro rfl
        exact absurd h.1 (by decide)
      rw [List.cons_append, restoreFrom_cons (StyleScan.copies_of_ne _ hd),
        StyleScan.next_parameters, if_pos h.1, ih h.2, List.reverse_cons, List.append_assoc]
      rfl
  have hopen : restoreFrom background .outside (controlSequence parameters 'm' ++ s) =
      esc :: '[' :: restoreFrom background (.parameters []) (parameters ++ 'm' :: s) := by
    rw [controlSequence, List.append_assoc]
    rfl
  rw [hopen, hbody, List.append_nil, controlSequence, List.append_assoc]
  rfl

/-! ## Reading on -/

/-- A sequence that the end cuts off shows nothing. -/
theorem cellsOf_scan_nil (g : Ground) (state : Scan) : grounds.cellsOf g (scan state []) = [] := by
  rcases state with _ | ⟨opening, seen⟩
  · rfl
  · rfl

theorem scan_command_backgroundSequence (c : Rgb) (afterEsc : Bool) (seen s : Text) :
    scan (some (.command afterEsc, seen)) (backgroundSequence c ++ s) =
      scan (some (.command false, (backgroundSequence c).reverse ++ seen)) s := by
  have hbody : ∀ d ∈ esc :: '[' :: colorParameters c, d ≠ bel ∧ d ≠ '\\' := by
    intro d hd
    rcases List.mem_cons.mp hd with rfl | hd
    · decide
    rcases List.mem_cons.mp hd with rfl | hd
    · decide
    have hparameter := List.all_eq_true.mp (all_isParameter_colorParameters c) d hd
    exact ⟨isParameter_ne hparameter (by decide), isParameter_ne hparameter (by decide)⟩
  obtain ⟨afterEsc', hscan⟩ := scan_command hbody afterEsc seen ('m' :: s)
  have hlast : Opening.next (.command afterEsc') 'm' = some (.command false) :=
    Opening.command_next fun h => h.elim (by decide) fun h => absurd h.2 (by decide)
  rw [backgroundSequence_eq, controlSequence, List.append_assoc, List.singleton_append, hscan,
    scan_next hlast, List.reverse_append]
  rfl

/-! ## The readings of a text and of the restored one -/

/-- How the reading of a text, the search for style sequences in it and the
reading of the restored text stand between two characters. -/
inductive Abreast : Scan → StyleScan → Scan → Prop where
  /-- Between sequences. -/
  | between : Abreast none .outside none
  /-- Behind an ESC. -/
  | opened : Abreast (some (.bare, [esc])) .opened (some (.bare, [esc]))
  /-- Among the parameters of what may become a style sequence. -/
  | parameters {seen : Text} (h : seen.all isParameter = true) :
      Abreast (some (.control, seen ++ ['[', esc])) (.parameters seen)
        (some (.control, seen ++ ['[', esc]))
  /-- In a control sequence with a character that is no parameter. -/
  | stray {seen : Text} (h : seen.all isParameter = false) :
      Abreast (some (.control, seen ++ ['[', esc])) .outside (some (.control, seen ++ ['[', esc]))
  /-- Behind an ESC in a control sequence. -/
  | reopened (seen : Text) :
      Abreast (some (.control, esc :: seen ++ ['[', esc])) .opened
        (some (.control, esc :: seen ++ ['[', esc]))
  /-- In a command, where something may have been restored. -/
  | command (afterEsc : Bool) {seen seen' : Text} (search : StyleScan)
      (h : [']', esc] <:+ seen) (h' : [']', esc] <:+ seen') :
      Abreast (some (.command afterEsc, seen)) search (some (.command afterEsc, seen'))

/-- The cells as they look on the background of a dialog. -/
def onColor (c : Rgb) (cells : List (Char × Ground)) : List (Char × Ground) :=
  cells.map fun cell => (cell.1, (Ground.ofColor c).beneath cell.2)

/-- From where the readings stand, what is left of a text looks the same when it
is restored. -/
def Looks (c : Rgb) (s : Text) (state : Scan) (search : StyleScan) (state' : Scan) : Prop :=
  Restorable c (scan state s) → ∀ g : Ground,
    grounds.cellsOf ((Ground.ofColor c).beneath g)
        (scan state' (restoreFrom (backgroundSequence c) search s)) =
      onColor c (grounds.cellsOf g (scan state s))

/-- What is left of a text looks the same from wherever the readings stand. -/
def Covers (c : Rgb) (s : Text) : Prop :=
  ∀ ⦃state : Scan⦄ ⦃search : StyleScan⦄ ⦃state' : Scan⦄, Abreast state search state' →
    Looks c s state search state'

section Steps

variable {c : Rgb} {s : Text}

theorem onColor_cons (d : Char) (g : Ground) (cells : List (Char × Ground)) :
    onColor c ((d, g) :: cells) = (d, (Ground.ofColor c).beneath g) :: onColor c cells := rfl

/-- A character with which both readings go on. -/
theorem Covers.next (hs : Covers c s) {opening opening' : Opening} {seen seen' : Text}
    {search : StyleScan} {d : Char} (hcopy : search.Copies d)
    (hnext : opening.next d = some opening')
    (habreast : Abreast (some (opening', d :: seen)) (search.next d)
      (some (opening', d :: seen'))) :
    Looks c (d :: s) (some (opening, seen)) search (some (opening, seen')) := by
  intro hrestorable g
  rw [scan_next hnext] at hrestorable ⊢
  rw [restoreFrom_cons hcopy, scan_next hnext]
  exact hs habreast hrestorable g

/-- A character that completes sequences which leave the ground alone. -/
theorem Covers.done (hs : Covers c s) {opening : Opening} {seen seen' : Text}
    {search : StyleScan} {d : Char} (hcopy : search.Copies d) (hdone : opening.next d = none)
    (hsearch : search.next d = .outside) (hplain : parametersOf? (d :: seen).reverse = none)
    (hplain' : parametersOf? (d :: seen').reverse = none) :
    Looks c (d :: s) (some (opening, seen)) search (some (opening, seen')) := by
  intro hrestorable g
  rw [scan_done hdone] at hrestorable ⊢
  rw [restoreFrom_cons hcopy, scan_done hdone, hsearch, Styling.cellsOf_escape,
    Styling.cellsOf_escape, grounds_after_of_no_parameters hplain,
    grounds_after_of_no_parameters hplain']
  exact hs .between hrestorable.tail g

theorem covers_nil : Covers c [] := by
  intro state search state' _ _ g
  rw [restoreFrom, cellsOf_scan_nil, cellsOf_scan_nil]
  rfl

theorem scan_backgroundSequence (c : Rgb) (s : Text) :
    scan none (backgroundSequence c ++ s) = .escape (backgroundSequence c) :: scan none s := by
  rw [backgroundSequence_eq, scan_controlSequence (all_isParameter_colorParameters c)]

theorem restoreFrom_backgroundSequence (background : Text) (c : Rgb) (s : Text) :
    restoreFrom background .outside (backgroundSequence c ++ s) =
      backgroundSequence c ++ (restoration background (colorParameters c).reverse s ++
        restoreFrom background .outside s) := by
  rw [backgroundSequence_eq, restoreFrom_controlSequence (all_isParameter_colorParameters c)]

theorem length_lt_backgroundSequence_append (c : Rgb) (s : Text) :
    s.length < (backgroundSequence c ++ s).length := by
  rw [backgroundSequence_eq, controlSequence]
  simp only [List.length_append, List.length_cons]
  omega

/-- **After a style sequence** the two readings are level again, at once or
behind the background that follows. -/
theorem cellsOf_restoration {parameters : Text} (hparameters : parameters.all isParameter = true)
    (hsequence : Agreed c (controlSequence parameters 'm')) (s : Text)
    (hs : ∀ rest, rest.length ≤ s.length → Covers c rest)
    (hrestorable : Restorable c (scan none s)) (g : Ground) :
    grounds.cellsOf (grounds.after ((Ground.ofColor c).beneath g) (controlSequence parameters 'm'))
        (scan none (restoration (backgroundSequence c) parameters.reverse s ++
          restoreFrom (backgroundSequence c) .outside s)) =
      onColor c (grounds.cellsOf (grounds.after g (controlSequence parameters 'm'))
        (scan none s)) := by
  have hgivenUp : isGivenUp (controlSequence parameters 'm') = givesUpBackground parameters :=
    isGivenUp_controlSequence hparameters
  rw [restoration, List.reverse_reverse]
  by_cases hrule : givesUpBackground parameters = true
  · by_cases hfollows : (backgroundSequence c).isPrefixOf s = true
    · -- Both texts go on with the background, so the question is put again behind it.
      obtain ⟨rest, hrest⟩ := List.isPrefixOf_iff_prefix.mp hfollows
      have hlength : rest.length < s.length := by
        rw [← hrest]
        exact length_lt_backgroundSequence_append c rest
      rw [← hrest, scan_backgroundSequence] at hrestorable
      have hbackground : Agreed c (controlSequence (colorParameters c) 'm') := by
        rw [← backgroundSequence_eq]
        exact hrestorable.agreed
      have hlater := cellsOf_restoration (all_isParameter_colorParameters c) hbackground rest
        (fun t ht => hs t (by omega)) hrestorable.tail g
      rw [← backgroundSequence_eq, grounds_after_backgroundSequence,
        grounds_after_backgroundSequence] at hlater
      rw [hrule, hfollows, Bool.not_true, Bool.and_false, if_neg Bool.false_ne_true,
        List.nil_append, ← hrest, restoreFrom_backgroundSequence, scan_backgroundSequence,
        scan_backgroundSequence, Styling.cellsOf_escape, Styling.cellsOf_escape,
        grounds_after_backgroundSequence, grounds_after_backgroundSequence]
      exact hlater
    · -- Only the restored text goes on with the background.
      have hcover : (Ground.ofColor c).beneath
          (grounds.after g (controlSequence parameters 'm')) = Ground.ofColor c := by
        rcases hsequence.of_givenUp (hgivenUp.trans hrule) with h | h
        · rw [grounds_after, h]
          rfl
        · rw [grounds_after, h]
          rfl
      rw [hrule, Bool.eq_false_iff.mpr hfollows, Bool.not_false, Bool.and_true, if_pos rfl,
        scan_backgroundSequence, Styling.cellsOf_escape, grounds_after_backgroundSequence, ← hcover]
      exact hs s (Nat.le_refl _) .between hrestorable _
  · -- Nothing is written, and the sequence leaves the ground alone or sets a colour.
    have hkept := hsequence.of_kept (hgivenUp.trans (Bool.eq_false_iff.mpr hrule))
    have hbeneath : grounds.after ((Ground.ofColor c).beneath g) (controlSequence parameters 'm') =
        (Ground.ofColor c).beneath (grounds.after g (controlSequence parameters 'm')) := by
      rw [grounds_after, grounds_after]
      rcases hg : Ground.ofSequence? (controlSequence parameters 'm') with _ | g'
      · rfl
      · refine (Ground.beneath_of_ne ?_ _).symm
        rintro rfl
        exact hkept hg
    rw [Bool.eq_false_iff.mpr hrule, Bool.false_and, if_neg Bool.false_ne_true, List.nil_append,
      hbeneath]
    exact hs s (Nat.le_refl _) .between hrestorable _
termination_by s.length

/-! ### One character, by where the readings stand -/

theorem reverse_control (seen : Text) (d : Char) :
    (d :: (seen ++ ['[', esc])).reverse = controlSequence seen.reverse d := by
  rw [List.reverse_cons, List.reverse_append]
  rfl

theorem parametersOf?_of_ne_m (body : Text) {d : Char} (h : d ≠ 'm') :
    parametersOf? (controlSequence body d) = none := by
  refine parametersOf?_of_not_isStyle ?_
  rw [isStyle_controlSequence]
  exact beq_false_of_ne h

theorem parametersOf?_of_command {seen : Text} (h : [']', esc] <:+ seen) (d : Char) :
    parametersOf? (d :: seen).reverse = none := by
  obtain ⟨body, rfl⟩ := h
  refine parametersOf?_of_not_isStyle ?_
  rw [List.reverse_cons, List.reverse_append]
  rfl

theorem Covers.between (hs : Covers c s) (d : Char) : Looks c (d :: s) none .outside none := by
  intro hrestorable g
  rw [restoreFrom_cons (StyleScan.copies_outside d), StyleScan.next_outside]
  by_cases hd : d = esc
  · rw [scan, if_pos hd] at hrestorable
    rw [if_pos hd, scan, if_pos hd, scan, if_pos hd]
    exact hs .opened hrestorable g
  · rw [scan, if_neg hd] at hrestorable
    rw [if_neg hd, scan, if_neg hd, scan, if_neg hd, Styling.cellsOf_char, Styling.cellsOf_char,
      onColor_cons, hs .between hrestorable.tail g]

theorem Covers.opened (hs : Covers c s) (d : Char) :
    Looks c (d :: s) (some (.bare, [esc])) .opened (some (.bare, [esc])) := by
  have hcopy : StyleScan.Copies .opened d := StyleScan.copies_opened d
  intro hrestorable
  by_cases hbracket : d = '['
  · subst hbracket
    have hnext : Opening.next .bare '[' = some .control := rfl
    have habreast : Abreast (some (.control, ['[', esc])) (.parameters [])
        (some (.control, ['[', esc])) := @Abreast.parameters [] rfl
    exact hs.next hcopy hnext habreast hrestorable
  by_cases hcommand : d = ']'
  · subst hcommand
    have hnext : Opening.next .bare ']' = some (.command false) := rfl
    have habreast : Abreast (some (.command false, [']', esc])) .outside
        (some (.command false, [']', esc])) := .command false _ List.suffix_rfl List.suffix_rfl
    exact hs.next hcopy hnext habreast hrestorable
  have hdone : Opening.next .bare d = none := by
    rw [Opening.next, if_neg hbracket, if_neg hcommand]
  have hesc : d ≠ esc := by
    rintro rfl
    rw [scan_done hdone] at hrestorable
    exact hrestorable.agreed.apart.1 List.suffix_rfl
  have hplain : parametersOf? (d :: [esc]).reverse = none := by
    refine parametersOf?_of_not_isStyle (Bool.and_eq_false_iff.mpr (Or.inl ?_))
    simp [List.isPrefixOf, Ne.symm hbracket]
  have hsearch : StyleScan.next .opened d = .outside := by
    rw [StyleScan.next_opened hbracket, if_neg hesc]
  exact hs.done hcopy hdone hsearch hplain hplain hrestorable

theorem ne_esc_of_isFinal {d : Char} (h : isFinal d = true) : d ≠ esc := by
  rintro rfl
  exact absurd h (by decide)

/-- A character in a control sequence: it ends the sequence, or the two readings
go on. -/
theorem Covers.control (hs : Covers c s) {body : Text} {search : StyleScan} {d : Char}
    (hcopy : search.Copies d)
    (hdone : isFinal d = true →
      search.next d = .outside ∧ parametersOf? (controlSequence body.reverse d) = none)
    (hnext : isFinal d = false →
      Abreast (some (.control, d :: body ++ ['[', esc])) (search.next d)
        (some (.control, d :: body ++ ['[', esc]))) :
    Looks c (d :: s) (some (.control, body ++ ['[', esc])) search
      (some (.control, body ++ ['[', esc])) := by
  by_cases hfinal : isFinal d = true
  · obtain ⟨hsearch, hplain⟩ := hdone hfinal
    rw [← reverse_control] at hplain
    exact hs.done hcopy (Opening.control_ends hfinal) hsearch hplain hplain
  · rw [Bool.not_eq_true] at hfinal
    exact hs.next hcopy (Opening.control_next hfinal) (hnext hfinal)

theorem Covers.stray (hs : Covers c s) {body : Text} (hbody : body.all isParameter = false)
    (d : Char) : Looks c (d :: s) (some (.control, body ++ ['[', esc])) .outside
      (some (.control, body ++ ['[', esc])) := by
  refine hs.control (StyleScan.copies_outside d) (fun hfinal => ⟨?_, ?_⟩) fun _ => ?_
  · rw [StyleScan.next_outside, if_neg (ne_esc_of_isFinal hfinal)]
  · exact parametersOf?_of_stray (by rw [List.all_reverse, hbody]) d
  · by_cases hd : d = esc
    · subst hd
      exact .reopened body
    · rw [StyleScan.next_outside, if_neg hd]
      exact .stray (by rw [List.all_cons, hbody, Bool.and_false])

theorem all_isParameter_esc_cons (seen : Text) : (esc :: seen).all isParameter = false := rfl

theorem Covers.reopened (hs : Covers c s) (seen : Text) (d : Char) :
    Looks c (d :: s) (some (.control, esc :: seen ++ ['[', esc])) .opened
      (some (.control, esc :: seen ++ ['[', esc])) := by
  intro hrestorable
  have hbracket : d ≠ '[' := by
    rintro rfl
    rw [scan_done (Opening.control_ends (by decide)), reverse_control] at hrestorable
    refine hrestorable.agreed.apart.2 ⟨'[' :: seen.reverse, ?_⟩
    rw [controlSequence, List.reverse_cons]
    simp
  refine hs.control (StyleScan.copies_opened d) (fun hfinal => ⟨?_, ?_⟩) (fun _ => ?_) hrestorable
  · rw [StyleScan.next_opened hbracket, if_neg (ne_esc_of_isFinal hfinal)]
  · exact parametersOf?_of_stray (by rw [List.all_reverse, all_isParameter_esc_cons]) d
  · by_cases hd : d = esc
    · subst hd
      exact .reopened (esc :: seen)
    · rw [StyleScan.next_opened hbracket, if_neg hd]
      exact .stray (by rw [List.all_cons, all_isParameter_esc_cons, Bool.and_false])

theorem Covers.parameters (hs : ∀ rest, rest.length ≤ s.length → Covers c rest) {seen : Text}
    (hseen : seen.all isParameter = true) (d : Char) :
    Looks c (d :: s) (some (.control, seen ++ ['[', esc])) (.parameters seen)
      (some (.control, seen ++ ['[', esc])) := by
  by_cases hm : d = 'm'
  · subst hm
    intro hrestorable g
    have hdone : Opening.next .control 'm' = none := rfl
    have hparameters : seen.reverse.all isParameter = true := by rw [List.all_reverse, hseen]
    rw [scan_done hdone, reverse_control] at hrestorable
    rw [restoreFrom_final, scan_done hdone, scan_done hdone, reverse_control,
      Styling.cellsOf_escape, Styling.cellsOf_escape]
    have hafter := cellsOf_restoration hparameters hrestorable.agreed s hs hrestorable.tail g
    rwa [List.reverse_reverse] at hafter
  · refine (hs s (Nat.le_refl _)).control (StyleScan.copies_of_ne _ hm)
      (fun hfinal => ⟨?_, ?_⟩) fun _ => ?_
    · have hparameter : ¬ isParameter d = true := fun h =>
        absurd hfinal (Bool.eq_false_iff.mp (isFinal_of_isParameter h))
      rw [StyleScan.next_parameters, if_neg hparameter, if_neg (ne_esc_of_isFinal hfinal)]
    · exact parametersOf?_of_ne_m _ hm
    · by_cases hparameter : isParameter d = true
      · rw [StyleScan.next_parameters, if_pos hparameter]
        exact .parameters (by rw [List.all_cons, hparameter, hseen, Bool.and_true])
      by_cases hd : d = esc
      · subst hd
        exact .reopened seen
      · rw [StyleScan.next_parameters, if_neg hparameter, if_neg hd]
        exact .stray (by rw [List.all_cons, Bool.eq_false_iff.mpr hparameter, Bool.false_and])

/-- What is restored inside of a command goes into that command. -/
theorem scan_command_restoration (parameters : Text) (seen s t : Text) : ∃ w : Text,
    scan (some (.command false, seen)) (restoration (backgroundSequence c) parameters s ++ t) =
      scan (some (.command false, w ++ seen)) t := by
  rw [restoration]
  split
  · exact ⟨(backgroundSequence c).reverse, scan_command_backgroundSequence c false seen t⟩
  · exact ⟨[], rfl⟩

theorem Covers.command (hs : Covers c s) (afterEsc : Bool) {seen seen' : Text} (search : StyleScan)
    (hseen : [']', esc] <:+ seen) (hseen' : [']', esc] <:+ seen') (d : Char) :
    Looks c (d :: s) (some (.command afterEsc, seen)) search (some (.command afterEsc, seen')) := by
  by_cases hend : d = bel ∨ (afterEsc = true ∧ d = '\\')
  · have hd : d = bel ∨ d = '\\' := hend.imp_right And.right
    have hcopy : search.Copies d := by
      rintro _ - rfl
      exact absurd hd (by decide)
    exact hs.done hcopy (Opening.command_ends hend) (search.next_of_ends hd)
      (parametersOf?_of_command hseen d) (parametersOf?_of_command hseen' d)
  have hnext : Opening.next (.command afterEsc) d = some (.command (d = esc)) :=
    Opening.command_next hend
  have hgrown {t : Text} (ht : [']', esc] <:+ t) (w : Text) : [']', esc] <:+ w ++ t :=
    ht.trans (List.suffix_append w t)
  by_cases hcopy : search.Copies d
  · exact hs.next hcopy hnext (.command _ _ (hgrown hseen [d]) (hgrown hseen' [d]))
  · obtain ⟨parameters, rfl, rfl⟩ := StyleScan.of_not_copies hcopy
    intro hrestorable g
    obtain ⟨w, hw⟩ := scan_command_restoration parameters ('m' :: seen') s
      (restoreFrom (backgroundSequence c) .outside s)
    rw [scan_next hnext] at hrestorable ⊢
    rw [restoreFrom_final, scan_next hnext]
    rw [show (decide ('m' = esc)) = false from rfl] at hrestorable ⊢
    rw [hw]
    exact hs (.command false .outside (hgrown hseen ['m']) (hgrown (hgrown hseen' ['m']) w))
      hrestorable g

theorem covers_cons (hs : ∀ rest, rest.length ≤ s.length → Covers c rest) (d : Char) :
    Covers c (d :: s) := by
  intro state search state' habreast
  have hrest : Covers c s := hs s (Nat.le_refl _)
  cases habreast with
  | between => exact hrest.between d
  | opened => exact hrest.opened d
  | parameters hseen => exact Covers.parameters hs hseen d
  | stray hbody => exact hrest.stray hbody d
  | reopened seen => exact hrest.reopened seen d
  | command afterEsc search hseen hseen' => exact hrest.command afterEsc search hseen hseen' d

end Steps

/-- Every text looks the same when it is restored, from wherever the readings
stand. -/
theorem covers (c : Rgb) (s : Text) : Covers c s :=
  match s with
  | [] => covers_nil
  | d :: s => covers_cons (fun rest _ => covers c rest) d
termination_by s.length
decreasing_by
  rw [List.length_cons]
  omega

theorem restore_backgroundSequence (c : Rgb) (s : Text) :
    restore (backgroundSequence c) s = restoreFrom (backgroundSequence c) .outside s := by
  rw [restore, backgroundSequence_eq]
  rfl

/-- **A restored text on the background of the dialog** looks like the text
itself, with the background of the dialog in place of the default. -/
theorem grounds_restore {c : Rgb} {s : Text} (h : Restorable c (tokens s)) :
    grounds.cellsFrom (Ground.ofColor c) (restore (backgroundSequence c) s) =
      onColor c (grounds.cells s) := by
  rw [restore_backgroundSequence, Styling.cellsFrom_eq_cellsOf, Styling.cells_eq_cellsOf]
  exact covers c s .between h .default

/-- A letter on red, between two resets. -/
theorem grounds_restore_resets :
    let c : Rgb := ⟨26, 26, 46⟩
    let red := controlSequence "1;41".toList 'm'
    let bare := controlSequence "0".toList 'm'
    let plain := controlSequence "39;49".toList 'm'
    let s := 'a' :: red ++ 'b' :: bare ++ 'c' :: plain ++ ['d']
    tokens s = [.char 'a', .escape red, .char 'b', .escape bare, .char 'c', .escape plain,
      .char 'd'] ∧
      grounds.cellsFrom (Ground.ofColor c) (restore (backgroundSequence c) s) =
        [('a', .rgb 26 26 46), ('b', .named 1), ('c', .rgb 26 26 46), ('d', .rgb 26 26 46)] := by
  intro c red bare plain s
  have hs : tokens s = [.char 'a', .escape red, .char 'b', .escape bare, .char 'c',
    .escape plain, .char 'd'] := by decide
  refine ⟨hs, grounds_restore fun sequence h => ?_⟩
  rw [hs] at h
  obtain rfl | rfl | rfl : sequence = red ∨ sequence = bare ∨ sequence = plain := by
    simpa using h
  · decide
  · decide
  · decide

/-- A reset that is not the only parameter goes unnoticed, and the dialog has a
hole behind it. -/
theorem reset_in_list_unnoticed :
    let c : Rgb := ⟨26, 26, 46⟩
    let s := 'A' :: controlSequence "0;1".toList 'm' ++ ['B']
    grounds.cellsFrom (Ground.ofColor c) (restore (backgroundSequence c) s) ≠
      onColor c (grounds.cells s) := by
  decide

-- A colour of the palette whose number looks like a reset is covered.
example :
    let c : Rgb := ⟨26, 26, 46⟩
    let s := controlSequence "48;5;49".toList 'm' ++ ['B']
    grounds.cells s = [('B', .indexed 49)] ∧
      grounds.cellsFrom (Ground.ofColor c) (restore (backgroundSequence c) s) =
        [('B', Ground.ofColor c)] := by
  decide

theorem isPrefixOf_backgroundSequence_singleton (c : Rgb) (d : Char) :
    (backgroundSequence c).isPrefixOf [d] = false := by
  refine Bool.eq_false_iff.mpr fun h => ?_
  have hlength := (List.isPrefixOf_iff_prefix.mp h).length_le
  rw [backgroundSequence_eq, controlSequence, List.length_append, List.length_cons,
    List.length_cons] at hlength
  exact absurd hlength (by rw [List.length_singleton, List.length_singleton]; omega)

/-- **The condition on style sequences is needed.**  If a restored text with the
sequence looks as it should, rule and meaning of the sequence agree. -/
theorem agreed_of_covered {c : Rgb} {parameters : Text}
    (hparameters : parameters.all isParameter = true)
    (h : let s := controlSequence "41".toList 'm' ++ (controlSequence parameters 'm' ++ ['x'])
      grounds.cellsFrom (Ground.ofColor c) (restore (backgroundSequence c) s) =
        onColor c (grounds.cells s)) :
    Agreed c (controlSequence parameters 'm') := by
  have hred : ∀ g, grounds.after g (controlSequence "41".toList 'm') = .named 1 := fun _ => rfl
  have hkept : ∀ t, restoration (backgroundSequence c) "41".toList.reverse t = [] := fun _ => rfl
  have hrestored : restoration (backgroundSequence c) parameters.reverse ['x'] =
      if givesUpBackground parameters = true then backgroundSequence c else [] := by
    rw [restoration, List.reverse_reverse, isPrefixOf_backgroundSequence_singleton, Bool.not_false,
      Bool.and_true]
  have hx : restoreFrom (backgroundSequence c) .outside ['x'] = ['x'] := rfl
  simp only [restore_backgroundSequence, Styling.cellsFrom_eq_cellsOf, Styling.cells_eq_cellsOf,
    restoreFrom_controlSequence (show "41".toList.all isParameter = true from rfl),
    restoreFrom_controlSequence hparameters, hkept, List.nil_append, hrestored, hx, tokens,
    scan_controlSequence (show "41".toList.all isParameter = true from rfl),
    scan_controlSequence hparameters, Styling.cellsOf_escape, hred] at h
  rw [grounds_after] at h
  have hlast : (controlSequence parameters 'm').tail.getLast? = some 'm' := List.getLast?_concat
  constructor
  case apart =>
    constructor
    · rintro ⟨t, ht⟩
      rw [← ht, List.getLast?_concat] at hlast
      exact absurd hlast (by decide)
    · rintro ⟨t, ht⟩
      rw [← ht, List.getLast?_append] at hlast
      exact absurd hlast (by simp)
  case of_givenUp =>
    intro hrule
    rw [isGivenUp_controlSequence hparameters] at hrule
    rw [if_pos hrule, scan_backgroundSequence, Styling.cellsOf_escape,
      grounds_after_backgroundSequence] at h
    rcases hmeaning : Ground.ofSequence? (controlSequence parameters 'm') with _ | g
    · rw [hmeaning] at h
      exact absurd h (by simp [scan, esc, onColor, Ground.beneath, Ground.ofColor])
    · rw [hmeaning] at h
      have hbeneath : Ground.ofColor c = (Ground.ofColor c).beneath g := by
        simpa [scan, esc, onColor] using h
      by_cases hg : g = .default
      · exact Or.inl (congrArg some hg)
      · rw [Ground.beneath_of_ne hg] at hbeneath
        exact Or.inr (congrArg some hbeneath.symm)
  case of_kept =>
    intro hrule hmeaning
    rw [isGivenUp_controlSequence hparameters] at hrule
    rw [hrule, hmeaning] at h
    exact absurd h (by simp [scan, esc, onColor, Ground.beneath, Ground.ofColor])

end Styled
end TerminalDialogs

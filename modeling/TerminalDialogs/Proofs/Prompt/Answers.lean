import TerminalDialogs.Proofs.Fuzzy.Ranking
import TerminalDialogs.Proofs.Prompt.Lines
import TerminalDialogs.Proofs.Prompt.Picks
import TerminalDialogs.Proofs.Widget.Chosen

/-!
# What a conversation accepts

A prompt asks again until an answer will do, and every turn uses up a line.  So a conversation ends:
with a value that was accepted, or dismissed when all lines have been read and none would do
(`accepts_or_dismissed`).

For each kind of prompt there is a *course*: what holds of the prompt after some answers, whichever
they were.  It is kept as long as questions follow, and vouches for the outcome in the end
(`Course.ends`).  Most prompts ask one question again and again (`course_again`), so their value
comes from the first answer that will do.  A list with a query has a course with two stages, as a
query that is matched is followed by a choice from what matches; and a text of several lines takes
all of them.
-/

namespace TerminalDialogs
namespace Prompt

open Widget (Value Selection readOptions)

/-! ## Courses -/

variable {tree : Files.Tree} {P : Prompt → List Text → Prop} {Q : List Text → Value → Prop}
  {R : List Text → Prop} {p : Prompt} {past : List Text}

/-- What a turn leads to: another prompt that is as wanted, or a value that is. -/
def Turn.Meets (asks : Prompt → Prop) (ends : Value → Prop) : Turn → Prop
  | .ask _ next => asks next
  | .done _ value => ends value

/-- What holds of a prompt and the answers before it, of a value and the answers that led to it, and
of answers none of which would do. -/
structure Course (tree : Files.Tree) (P : Prompt → List Text → Prop)
    (Q : List Text → Value → Prop) (R : List Text → Prop) : Prop where
  turn : ∀ {p past}, P p past → ∀ line,
    (p.answer tree line).Meets (P · (past ++ [line])) (Q (past ++ [line]))
  close : ∀ {p past}, P p past →
    (∃ value, p.close = .ok value ∧ Q past value) ∨ (p.close = .error .cancelled ∧ R past)

/-- How a conversation on lines that give some answers ends: it is dismissed when all have been
read, or has a value after some of them. -/
def Ends (lines : List (List UInt8)) (answers : List Text) (Q : List Text → Value → Prop)
    (R : List Text → Prop) (t : Transcript) : Prop :=
  (t.result = .error (.ofWidget .cancelled) ∧ t.read = lines.flatten.length ∧ R answers) ∨
    ∃ n value, n ≤ answers.length ∧ t.result = .ok value ∧
      t.read = (lines.take n).flatten.length ∧ Q (answers.take n) value

/-- **A conversation keeps its course** to the end. -/
theorem Course.ends (course : Course tree P Q R) {lines : List (List UInt8)}
    {answers : List Text} (h : P p past) (hlines : lines.map lineText? = answers.map some) :
    Ends lines answers (fun read value => Q (past ++ read) value) (fun read => R (past ++ read))
      (converse tree p lines) := by
  induction lines generalizing p past answers with
  | nil =>
    obtain rfl : answers = [] := List.map_eq_nil_iff.mp hlines.symm
    rw [converse]
    rcases course.close h with ⟨value, hclose, hvalue⟩ | ⟨hclose, hrefused⟩
    · rw [hclose]
      exact .inr ⟨0, value, Nat.le_refl 0, rfl, rfl, by simpa using hvalue⟩
    · rw [hclose]
      exact .inl ⟨rfl, rfl, by simpa using hrefused⟩
  | cons line lines ih =>
    rcases answers with _ | ⟨answer, answers⟩
    · exact absurd hlines (List.cons_ne_nil _ _)
    obtain ⟨hline, hrest⟩ := List.cons.inj hlines
    rw [converse, hline]
    dsimp only
    have hmeets := course.turn h answer
    rcases hturn : p.answer tree answer with ⟨said, next⟩ | ⟨said, value⟩
    all_goals rw [hturn] at hmeets
    · rcases ih hmeets hrest with
        ⟨herror, hread, hrefused⟩ | ⟨n, value, hn, hok, hread, hvalue⟩
      · refine .inl ⟨herror, ?_, ?_⟩
        · rw [List.flatten_cons, List.length_append, ← hread]
          rfl
        · rwa [List.append_assoc] at hrefused
      · refine .inr ⟨n + 1, value, Nat.succ_le_succ hn, hok, ?_, ?_⟩
        · rw [List.take_succ_cons, List.flatten_cons, List.length_append, ← hread]
          rfl
        · rwa [List.append_assoc] at hvalue
    · refine .inr ⟨1, value, Nat.succ_le_succ (Nat.zero_le _), rfl, ?_, hmeets⟩
      rw [List.take_succ_cons, List.take_zero, List.flatten_cons, List.flatten_nil, List.append_nil]

theorem Ends.mono {lines : List (List UInt8)} {answers : List Text}
    {Q' : List Text → Value → Prop} {R' : List Text → Prop} {t : Transcript}
    (h : Ends lines answers Q R t) (hQ : ∀ read value, Q read value → Q' read value)
    (hR : ∀ read, R read → R' read) : Ends lines answers Q' R' t := by
  rcases h with ⟨herror, hread, hrefused⟩ | ⟨n, value, hn, hok, hread, hvalue⟩
  · exact .inl ⟨herror, hread, hR _ hrefused⟩
  · exact .inr ⟨n, value, hn, hok, hread, hQ _ _ hvalue⟩

/-- Where there is nothing to choose from, nothing is asked and a value is at hand; otherwise an
answer is accepted. -/
def Offered {α : Type} (items : List α) (atHand : Value) (Q : List Text → Value → Prop)
    (past : List Text) (value : Value) : Prop :=
  (items = [] ∧ past = [] ∧ value = atHand) ∨ (items ≠ [] ∧ Q past value)

/-- A course that is taken only if there is something to choose from. -/
theorem Course.offered {α : Type} (course : Course tree P Q R) (items : List α) (atHand : Value) :
    Course tree (fun p past => items ≠ [] ∧ P p past) (Offered items atHand Q)
      (fun past => items ≠ [] ∧ R past) where
  turn := by
    rintro p past ⟨hitems, h⟩ line
    have hmeets := course.turn h line
    rcases hturn : p.answer tree line with ⟨said, next⟩ | ⟨said, value⟩
    all_goals rw [hturn] at hmeets
    · exact ⟨hitems, hmeets⟩
    · exact .inr ⟨hitems, hmeets⟩
  close := by
    rintro p past ⟨hitems, h⟩
    rcases course.close h with ⟨value, hclose, hvalue⟩ | ⟨hclose, hrefused⟩
    · exact .inl ⟨value, hclose, .inr ⟨hitems, hvalue⟩⟩
    · exact .inr ⟨hclose, hitems, hrefused⟩

theorem forall_mem_concat {A : Text → Prop} {line : Text} (h : ∀ l ∈ past, A l) (hline : A line) :
    ∀ l ∈ past ++ [line], A l :=
  List.forall_mem_append.mpr ⟨h, List.forall_mem_singleton.mpr hline⟩

/-- The first answer that will do, behind others that would not. -/
def FirstGood (Bad : Text → Prop) (Good : Text → Value → Prop) (past : List Text) (value : Value) :
    Prop :=
  ∃ before line, past = before ++ [line] ∧ (∀ l ∈ before, Bad l) ∧ Good line value

/-- **One question that is asked again and again** until an answer will do. -/
theorem course_again {q : Prompt} {Bad : Text → Prop} {Good : Text → Value → Prop}
    (hturn : ∀ line, (q.answer tree line).Meets (fun next => next = q ∧ Bad line) (Good line))
    (hclose : q.close = .error .cancelled) :
    Course tree (fun p past => p = q ∧ ∀ l ∈ past, Bad l) (FirstGood Bad Good)
      (fun past => ∀ l ∈ past, Bad l) where
  turn := by
    rintro p past ⟨rfl, hbad⟩ line
    have hmeets := hturn line
    rcases hanswer : p.answer tree line with ⟨said, next⟩ | ⟨said, value⟩
    all_goals rw [hanswer] at hmeets
    · exact ⟨hmeets.1, forall_mem_concat hbad hmeets.2⟩
    · exact ⟨past, line, rfl, hbad, hmeets⟩
  close := by
    rintro p past ⟨rfl, hbad⟩
    exact .inr ⟨hclose, hbad⟩

/-! ## Texts -/

/-- What an answer enters: the preset text if it is empty. -/
def entered (o : Options.Input) (line : Text) : Text := if line = [] then o.value else line

/-- A text that is longer than it may be. -/
def TooLong (o : Options.Input) (line : Text) : Prop :=
  0 < o.charLimit ∧ o.charLimit < (entered o line).length

/-- A text that is not too long. -/
def Enters (o : Options.Input) (line : Text) (value : Value) : Prop :=
  ∃ s, value = .text s ∧ s = entered o line ∧ (0 < o.charLimit → s.length ≤ o.charLimit)

theorem course_input (tree : Files.Tree) (o : Options.Input) :
    Course tree (fun p past => p = .input o ∧ ∀ l ∈ past, TooLong o l)
      (FirstGood (TooLong o) (Enters o)) (fun past => ∀ l ∈ past, TooLong o l) := by
  refine course_again (fun line => ?_) rfl
  have hentered : (if line.isEmpty = true then o.value else line) = entered o line := by
    simp only [entered, List.isEmpty_iff]
  rw [answer]
  fun_cases answerInput o line with
  | case1 text hlong =>
    refine ⟨rfl, ?_⟩
    rw [TooLong, ← hentered]
    exact hlong
  | case2 text hfits =>
    exact ⟨text, rfl, hentered, fun hlimit => Nat.not_lt.mp fun hlong => hfits ⟨hlimit, hlong⟩⟩

/-- A text of several lines: those up to the one with a single dot, or all, cut at the limit. -/
def LinesAccepted (o : Options.Write) (past : List Text) (value : Value) : Prop :=
  ∃ lines s, (past = lines ++ [['.']] ∨ past = lines ∧ lines ≠ []) ∧ ['.'] ∉ lines ∧
    value = .text s ∧ s <+: Text.unrows lines ∧ (o.charLimit = 0 → s = Text.unrows lines) ∧
    (0 < o.charLimit → s.length = min o.charLimit (Text.unrows lines).length)

theorem linesAccepted_writtenText {o : Options.Write} {lines : List Text}
    (hend : past = lines ++ [['.']] ∨ past = lines ∧ lines ≠ []) (hdot : ['.'] ∉ lines) :
    LinesAccepted o past (writtenText o lines.reverse) := by
  rw [writtenText, List.reverse_reverse]
  refine ⟨lines, _, hend, hdot, rfl, ?_, fun hzero => if_neg (by omega), fun hlimit => ?_⟩
  · split
    · exact List.take_prefix _ _
    · exact List.prefix_refl _
  · rw [if_pos hlimit, List.length_take]

theorem course_write (tree : Files.Tree) (o : Options.Write) :
    Course tree (fun p past => p = .write o past.reverse ∧ ['.'] ∉ past) (LinesAccepted o)
      (· = []) where
  turn := by
    rintro _ past ⟨rfl, hdot⟩ line
    rw [answer]
    split
    · next hline =>
      rw [hline]
      exact linesAccepted_writtenText (.inl rfl) hdot
    · next hline =>
      refine ⟨by rw [List.reverse_concat], ?_⟩
      rw [List.mem_append, List.mem_singleton, not_or]
      exact ⟨hdot, Ne.symm hline⟩
  close := by
    rintro _ past ⟨rfl, hdot⟩
    rcases eq_or_ne past [] with rfl | hne
    · exact .inr ⟨rfl, rfl⟩
    · obtain ⟨line, lines, hpast⟩ := List.exists_cons_of_ne_nil (mt List.reverse_eq_nil_iff.mp hne)
      refine .inl ⟨_, ?_, linesAccepted_writtenText (.inr ⟨rfl, hne⟩) hdot⟩
      rw [hpast, close]

/-! ## Yes or no -/

/-- What a reply decides: an empty one leaves it at what was set at first. -/
def Decides (o : Options.Confirm) (reply : Text) (b : Bool) : Prop :=
  (reply = [] ∧ b = o.initial) ∨ ((reply = "y".toList ∨ reply = "yes".toList) ∧ b = true) ∨
    ((reply = "n".toList ∨ reply = "no".toList) ∧ b = false)

/-- An answer without the blanks around it, in lower case. -/
def reply (line : Text) : Text := Text.lower (Text.trim line)

/-- An answer that decides nothing. -/
def Undecided (o : Options.Confirm) (line : Text) : Prop := ¬ ∃ b, Decides o (reply line) b

theorem course_confirm (tree : Files.Tree) (o : Options.Confirm) :
    Course tree (fun p past => p = .confirm o ∧ ∀ l ∈ past, Undecided o l)
      (FirstGood (Undecided o) fun line value => ∃ b, value = .bool b ∧ Decides o (reply line) b)
      (fun past => ∀ l ∈ past, Undecided o l) := by
  refine course_again (fun line => ?_) rfl
  rw [answer]
  fun_cases answerConfirm o line with
  | case1 text hempty => exact ⟨_, rfl, .inl ⟨List.isEmpty_iff.mp hempty, rfl⟩⟩
  | case2 text hempty hyes => exact ⟨_, rfl, .inr (.inl ⟨hyes, rfl⟩)⟩
  | case3 text hempty hyes hno => exact ⟨_, rfl, .inr (.inr ⟨hno, rfl⟩)⟩
  | case4 text hempty hyes hno =>
    refine ⟨rfl, ?_⟩
    rintro ⟨b, ⟨hreply, -⟩ | ⟨hreply, -⟩ | ⟨hreply, -⟩⟩
    · exact hempty (List.isEmpty_iff.mpr hreply)
    · exact hyes hreply
    · exact hno hreply

/-! ## Choices -/

/-- Items that a line chooses from a list: those at positions that it names, each position once, and
no more than may be chosen. -/
structure Chooses (items : List Text) (multi : Bool) (limit : Nat) (line : Text) (found : List Nat)
    (chosen : List Text) : Prop where
  named : Names items.length line found
  nodup : found.Nodup
  consists : (chosen.map some).Perm (found.map fun i => items[i]?)
  single : multi = false → chosen.length ≤ 1
  limited : 0 < limit → chosen.length ≤ limit

/-- A line that chooses nothing from a list of `count` items: it names no positions of the list, or
too many. -/
def Idle (count : Nat) (multi : Bool) (limit : Nat) (line : Text) : Prop :=
  ¬ ∃ found, Picks count multi limit line found

theorem idle_of_pick {count limit : Nat} {multi : Bool} {line complaint : Text}
    (h : pick count multi limit line = .error complaint) : Idle count multi limit line := by
  rintro ⟨found, hpicks⟩
  rw [pick_eq_ok_iff.mpr hpicks] at h
  cases h

/-- What is picked is chosen, in whatever order it is returned. -/
theorem Picks.chooses {items chosen : List Text} {multi : Bool} {limit : Nat} {line : Text}
    {found : List Nat} (h : Picks items.length multi limit line found)
    (hchosen : chosen.Perm (itemsAt items found)) :
    Chooses items multi limit line found chosen := by
  have hitems : (itemsAt items found).map some = found.map fun i => items[i]? :=
    Widget.map_some_filterMap h.named.lt
  have hconsists : (chosen.map some).Perm (found.map fun i => items[i]?) :=
    hitems ▸ hchosen.map some
  have hlength : chosen.length = found.length := by
    simpa only [List.length_map] using hconsists.length_eq
  exact ⟨h.named, h.named.nodup, hconsists, hlength ▸ h.single, hlength ▸ h.limited⟩

/-- What a line chooses from a list, in its own order unless that of the list is asked for. -/
def Selects (o : Options.Choose) (line : Text) (value : Value) : Prop :=
  ∃ found chosen, value = .list chosen ∧
    Chooses o.items o.isMulti o.itemLimit line found chosen ∧
    (o.ordered = false → chosen.map some = found.map fun i => o.items[i]?)

/-- A line that selects nothing. -/
def SelectsNothing (o : Options.Choose) : Text → Prop :=
  Idle o.items.length o.isMulti o.itemLimit

theorem course_choose (tree : Files.Tree) (o : Options.Choose) :
    Course tree (fun p past => p = .choose o ∧ ∀ l ∈ past, SelectsNothing o l)
      (FirstGood (SelectsNothing o) (Selects o)) (fun past => ∀ l ∈ past, SelectsNothing o l) := by
  refine course_again (fun line => ?_) rfl
  rw [answer, answerChoose]
  split
  · next hpick => exact ⟨rfl, idle_of_pick hpick⟩
  · next found hpick =>
    have hpicks := pick_eq_ok_iff.mp hpick
    refine ⟨found, _, rfl, hpicks.chooses ?_, fun hordered => ?_⟩
    · split
      · exact List.mergeSort_perm _ _
      · exact List.Perm.refl _
    · rw [if_neg (by simp [hordered])]
      exact Widget.map_some_filterMap hpicks.named.lt

/-! ## Queries -/

/-- A query that no item matches. -/
def Unmatched (o : Options.Filter) (query : Text) : Prop :=
  ∀ text ∈ o.items, ¬ Fuzzy.Matches o.fuzzy query text

/-- A query that no item matches and that is no answer itself. -/
def Fruitless (o : Options.Filter) (query : Text) : Prop :=
  Unmatched o query ∧ (o.strict = true ∨ query = [])

/-- The items that match a query, each position once. -/
def Lists (o : Options.Filter) (query : Text) (listed : List Text) : Prop :=
  ∃ order : List Nat, order.Nodup ∧
    (∀ i, i ∈ order ↔ ∃ text, o.items[i]? = some text ∧ Fuzzy.Matches o.fuzzy query text) ∧
    listed.map some = order.map fun i => o.items[i]?

/-- Queries up to the first one that is matched, which is the last one, and lines that choose
nothing from what it lists. -/
def Searched (o : Options.Filter) (past : List Text) (listed : List Text) : Prop :=
  ∃ queries query tries, past = queries ++ query :: tries ∧ (∀ q ∈ queries, Fruitless o q) ∧
    Lists o query listed ∧ listed ≠ [] ∧
    ∀ l ∈ tries, Idle listed.length o.isMulti o.itemLimit l

/-- A choice from what matches the last query; or that query itself, if any text will do and nothing
matches it. -/
def QueryAccepted (o : Options.Filter) (past : List Text) (value : Value) : Prop :=
  (∃ before line listed found chosen, past = before ++ [line] ∧ Searched o before listed ∧
      value = .list chosen ∧ Chooses listed o.isMulti o.itemLimit line found chosen ∧
      chosen.map some = found.map fun i => listed[i]?) ∨
    ∃ queries query, past = queries ++ [query] ∧ (∀ q ∈ queries, Fruitless o q) ∧
      Unmatched o query ∧ o.strict = false ∧ query ≠ [] ∧ value = .list [query]

/-- The items that a query is answered with. -/
def matching (o : Options.Filter) (query : Text) : List Text :=
  (Fuzzy.rank .rounded o.items query o.fuzzy o.sort).filterMap fun m => o.items[m.index]?

theorem lists_matching (o : Options.Filter) (query : Text) : Lists o query (matching o query) := by
  refine ⟨_, Fuzzy.nodup_index_rank .rounded o.items query o.fuzzy o.sort,
    fun i => Fuzzy.mem_index_rank, ?_⟩
  rw [← Widget.map_some_filterMap, List.filterMap_map]
  · rfl
  · intro i hi
    obtain ⟨text, htext, -⟩ := Fuzzy.mem_index_rank.mp hi
    exact (List.getElem?_eq_some_iff.mp htext).1

theorem unmatched_of_matching {o : Options.Filter} {query : Text} (h : matching o query = []) :
    Unmatched o query := by
  obtain ⟨order, -, hmem, hlisted⟩ := lists_matching o query
  rw [h] at hlisted
  obtain rfl := List.map_eq_nil_iff.mp hlisted.symm
  intro text htext hmatches
  obtain ⟨i, hi⟩ := List.mem_iff_getElem?.mp htext
  exact List.not_mem_nil ((hmem i).mpr ⟨text, hi, hmatches⟩)

/-- A list with a query before one is matched, and afterwards. -/
def Querying (o : Options.Filter) (p : Prompt) (past : List Text) : Prop :=
  (p = .filter o ∧ ∀ q ∈ past, Fruitless o q) ∨
    ∃ listed, p = .filtered o listed ∧ Searched o past listed

/-- Queries none of which was matched, or lines that choose nothing behind one that was. -/
def QueryRefused (o : Options.Filter) (past : List Text) : Prop :=
  (∀ q ∈ past, Fruitless o q) ∨ ∃ listed, Searched o past listed

theorem course_filter (tree : Files.Tree) (o : Options.Filter) :
    Course tree (Querying o) (QueryAccepted o) (QueryRefused o) where
  turn := by
    rintro _ past (⟨rfl, hqueries⟩ | ⟨listed, rfl, hsearched⟩) line
    · rw [answer]
      have hline (hempty : (matching o line).isEmpty = true) : Unmatched o line :=
        unmatched_of_matching (List.isEmpty_iff.mp hempty)
      fun_cases answerFilter o line with
      | case1 items hempty hany =>
        simp only [Bool.and_eq_true, Bool.not_eq_true', List.isEmpty_eq_false_iff] at hany
        exact .inr ⟨past, line, rfl, hqueries, hline hempty, hany.1, hany.2, rfl⟩
      | case2 items hempty hnone =>
        refine .inl ⟨rfl, forall_mem_concat hqueries ⟨hline hempty, ?_⟩⟩
        simpa [imp_iff_not_or] using hnone
      | case3 items hsome =>
        exact .inr ⟨_, rfl, past, line, [], rfl, hqueries, lists_matching o line,
          mt List.isEmpty_iff.mpr hsome, fun l hl => absurd hl List.not_mem_nil⟩
    · rw [answer, answerFiltered]
      split
      · next hpick =>
        obtain ⟨queries, query, tries, rfl, hqueries, hlists, hne, htries⟩ := hsearched
        refine .inr ⟨listed, rfl, queries, query, tries ++ [line], ?_, hqueries, hlists, hne,
          forall_mem_concat htries (idle_of_pick hpick)⟩
        rw [List.append_assoc, List.cons_append]
      · next found hpick =>
        have hpicks := pick_eq_ok_iff.mp hpick
        exact .inl ⟨past, line, listed, found, _, rfl, hsearched, rfl,
          hpicks.chooses (List.Perm.refl _), Widget.map_some_filterMap hpicks.named.lt⟩
  close := by
    rintro _ past (⟨rfl, hqueries⟩ | ⟨listed, rfl, hsearched⟩)
    · exact .inr ⟨rfl, .inl hqueries⟩
    · exact .inr ⟨rfl, .inr ⟨listed, hsearched⟩⟩

/-! ## Rows -/

/-- A row that a line names, and its place. -/
def Points (o : Options.Table) (line : Text) (value : Value) : Prop :=
  ∃ i row, Names o.rows.length line [i] ∧ o.rows[i]? = some row ∧ value = .row ⟨Int.ofNat i, row⟩

/-- A line that names no row, or several. -/
def PointsNowhere (o : Options.Table) (line : Text) : Prop := ¬ ∃ i, Names o.rows.length line [i]

theorem course_table (tree : Files.Tree) (o : Options.Table) :
    Course tree (fun p past => p = .table o ∧ ∀ l ∈ past, PointsNowhere o l)
      (FirstGood (PointsNowhere o) (Points o)) (fun past => ∀ l ∈ past, PointsNowhere o l) := by
  refine course_again (fun line => ?_) rfl
  rw [answer, answerTable]
  split
  · next i hpositions =>
    have hnames := positions?_eq_some_iff.mp hpositions
    have hi : i < o.rows.length := hnames.lt i (List.mem_singleton_self i)
    refine ⟨i, o.rows[i], hnames, List.getElem?_eq_getElem hi, ?_⟩
    rw [List.getElem?_eq_getElem hi]
    rfl
  · next hother =>
    refine ⟨rfl, ?_⟩
    rintro ⟨i, hnames⟩
    exact hother i (positions?_eq_some_iff.mpr hnames)

/-! ## Whole conversations -/

/-- A row of a table and its place; it is none if and only if the table has no rows. -/
def RowAccepted (o : Options.Table) (past : List Text) (value : Value) : Prop :=
  (∃ selection : Selection, value = .row selection ∧
      (selection.index = -1 ∧ selection.row = [] ↔ o.rows = [])) ∧
    Offered o.rows (.row .nothing) (FirstGood (PointsNowhere o) (Points o)) past value

/-- What is accepted of each kind that is asked about in lines, for options on the wire.  Files are
not among them, and neither are the kinds that ask nothing. -/
inductive Accepted (options : Json) (past : List Text) (value : Value) : Widget.Kind → Prop
  | input {o : Options.Input}
    (read : readOptions .input "InputOptions" Options.Input.fields {} options = .ok o)
    (accepted : FirstGood (TooLong o) (Enters o) past value) : Accepted options past value .input
  | write {o : Options.Write}
    (read : readOptions .write "WriteOptions" Options.Write.fields {} options = .ok o)
    (accepted : LinesAccepted o past value) : Accepted options past value .write
  | confirm {o : Options.Confirm}
    (read : readOptions .confirm "ConfirmOptions" Options.Confirm.fields {} options = .ok o)
    (accepted : FirstGood (Undecided o)
      (fun line value => ∃ b, value = .bool b ∧ Decides o (reply line) b) past value) :
    Accepted options past value .confirm
  | choose {o : Options.Choose}
    (read : readOptions .choose "ChooseOptions" Options.Choose.fields {} options = .ok o)
    (accepted : Offered o.items (.list []) (FirstGood (SelectsNothing o) (Selects o)) past value) :
    Accepted options past value .choose
  | filter {o : Options.Filter}
    (read : readOptions .filter "FilterOptions" Options.Filter.fields {} options = .ok o)
    (accepted : Offered o.items (.list []) (QueryAccepted o) past value) :
    Accepted options past value .filter
  | table {o : Options.Table}
    (read : readOptions .table "TableOptions" Options.Table.fields {} options = .ok o)
    (accepted : RowAccepted (Table.load o) past value) : Accepted options past value .table

/-- Answers none of which would do. -/
inductive Refused (options : Json) (past : List Text) : Widget.Kind → Prop
  | input {o : Options.Input}
    (read : readOptions .input "InputOptions" Options.Input.fields {} options = .ok o)
    (refused : ∀ l ∈ past, TooLong o l) : Refused options past .input
  | write {o : Options.Write}
    (read : readOptions .write "WriteOptions" Options.Write.fields {} options = .ok o)
    (refused : past = []) : Refused options past .write
  | confirm {o : Options.Confirm}
    (read : readOptions .confirm "ConfirmOptions" Options.Confirm.fields {} options = .ok o)
    (refused : ∀ l ∈ past, Undecided o l) : Refused options past .confirm
  | choose {o : Options.Choose}
    (read : readOptions .choose "ChooseOptions" Options.Choose.fields {} options = .ok o)
    (refused : o.items ≠ [] ∧ ∀ l ∈ past, SelectsNothing o l) : Refused options past .choose
  | filter {o : Options.Filter}
    (read : readOptions .filter "FilterOptions" Options.Filter.fields {} options = .ok o)
    (refused : o.items ≠ [] ∧ QueryRefused o past) : Refused options past .filter
  | table {o : Options.Table}
    (read : readOptions .table "TableOptions" Options.Table.fields {} options = .ok o)
    (refused : (Table.load o).rows ≠ [] ∧ ∀ l ∈ past, PointsNowhere (Table.load o) l) :
    Refused options past .table

variable {programs : Command.Programs} {kind : Widget.Kind} {options : Json} {turn : Turn}

/-- A conversation that starts on its course keeps it. -/
theorem Course.ends_run (course : Course tree P Q R)
    (hstart : start programs kind options = .ok turn) (hturn : turn.Meets (P · []) (Q [] ·))
    (text : Text) : Ends (inputLines (Utf8.encode text)) (answers text) Q R
      (run programs tree kind options (Utf8.encode text)) := by
  rw [run, hstart]
  rcases turn with ⟨said, p⟩ | ⟨said, value⟩
  · rcases course.ends hturn (lineText?_inputLines text) with
      ⟨herror, hread, hrefused⟩ | ⟨n, value, hn, hok, hread, hvalue⟩
    · exact .inl ⟨herror, by rw [← hread]; exact Nat.zero_add _, hrefused⟩
    · exact .inr ⟨n, value, hn, hok, by rw [← hread]; exact Nat.zero_add _, hvalue⟩
  · exact .inr ⟨0, value, Nat.zero_le _, rfl, rfl, hturn⟩

theorem choose_meets (o : Options.Choose) : (startChoose o).Meets
    (fun p => o.items ≠ [] ∧ p = .choose o ∧ ∀ l ∈ [], SelectsNothing o l)
    (Offered o.items (.list []) (FirstGood (SelectsNothing o) (Selects o)) []) := by
  rw [startChoose]
  split
  · next hempty => exact .inl ⟨List.isEmpty_iff.mp hempty, rfl, rfl⟩
  · next hsome => exact ⟨mt List.isEmpty_iff.mpr hsome, rfl, List.forall_mem_nil _⟩

theorem filter_meets (o : Options.Filter) : (startFilter o).Meets
    (fun p => o.items ≠ [] ∧ Querying o p [])
    (Offered o.items (.list []) (QueryAccepted o) []) := by
  rw [startFilter]
  split
  · next hempty => exact .inl ⟨List.isEmpty_iff.mp hempty, rfl, rfl⟩
  · next hsome => exact ⟨mt List.isEmpty_iff.mpr hsome, .inl ⟨rfl, List.forall_mem_nil _⟩⟩

theorem table_meets (o : Options.Table) : (startTable o).Meets
    (fun p => (Table.load o).rows ≠ [] ∧ p = .table (Table.load o) ∧
      ∀ l ∈ [], PointsNowhere (Table.load o) l)
    (Offered (Table.load o).rows (.row .nothing)
      (FirstGood (PointsNowhere (Table.load o)) (Points (Table.load o))) []) := by
  fun_cases startTable o with
  | case1 loaded hempty => exact .inl ⟨List.isEmpty_iff.mp hempty, rfl, rfl⟩
  | case2 loaded titles head hsome =>
    exact ⟨mt List.isEmpty_iff.mpr hsome, rfl, List.forall_mem_nil _⟩

theorem rowAccepted_of_offered {o : Options.Table} {value : Value}
    (h : Offered o.rows (.row .nothing) (FirstGood (PointsNowhere o) (Points o)) past value) :
    RowAccepted o past value := by
  refine ⟨?_, h⟩
  rcases h with ⟨hrows, -, rfl⟩ | ⟨hrows, before, line, -, -, i, row, -, -, rfl⟩
  · exact ⟨_, rfl, iff_of_true ⟨rfl, rfl⟩ hrows⟩
  · exact ⟨_, rfl, iff_of_false (fun hnone => absurd hnone.1 (by simp)) hrows⟩

theorem exists_options {σ : Type} {read : Except Widget.Error σ} {build : σ → Turn}
    (h : (read >>= fun o => pure (build o)) = .ok turn) : ∃ o, read = .ok o ∧ build o = turn := by
  rcases read with e | o
  · exact nomatch h
  · exact ⟨o, rfl, Except.ok.inj h⟩

/-- **Conversations end, and with what is acceptable.**  On every text, whatever the options are
that are accepted at first, a conversation yields an acceptable value after some of its lines, or is
dismissed when the whole text has been read and no line would do. -/
theorem accepts_or_dismissed (programs : Command.Programs) (tree : Files.Tree)
    {kind : Widget.Kind} {options : Json} {turn : Turn}
    (hkind : kind ∈ [.input, .write, .confirm, .choose, .filter, .table])
    (hstart : start programs kind options = .ok turn) (text : Text) :
    let bytes := Utf8.encode text
    let t := run programs tree kind options bytes
    (t.result = .error (.ofWidget .cancelled) ∧ t.read = bytes.length ∧
        Refused options (answers text) kind) ∨
      ∃ n value, n ≤ (answers text).length ∧ t.result = .ok value ∧
        t.read = ((inputLines bytes).take n).flatten.length ∧
        Accepted options ((answers text).take n) value kind := by
  intro bytes t
  suffices h : Ends (inputLines bytes) (answers text)
      (fun past value => Accepted options past value kind)
      (fun past => Refused options past kind) t by
    rwa [Ends, flatten_inputLines] at h
  simp only [List.mem_cons, List.not_mem_nil, or_false] at hkind
  rcases hkind with rfl | rfl | rfl | rfl | rfl | rfl
  · obtain ⟨o, hread, rfl⟩ := exists_options hstart
    have hends := (course_input tree o).ends_run hstart ⟨rfl, List.forall_mem_nil _⟩ text
    exact hends.mono (fun _ _ => .input hread) fun _ => .input hread
  · obtain ⟨o, hread, rfl⟩ := exists_options hstart
    have hends := (course_write tree o).ends_run hstart ⟨rfl, List.not_mem_nil⟩ text
    exact hends.mono (fun _ _ => .write hread) fun _ => .write hread
  · obtain ⟨o, hread, rfl⟩ := exists_options hstart
    have hends := (course_confirm tree o).ends_run hstart ⟨rfl, List.forall_mem_nil _⟩ text
    exact hends.mono (fun _ _ => .confirm hread) fun _ => .confirm hread
  · obtain ⟨o, hread, rfl⟩ := exists_options hstart
    have hends := ((course_choose tree o).offered o.items _).ends_run hstart (choose_meets o) text
    exact hends.mono (fun _ _ => .choose hread) fun _ => .choose hread
  · obtain ⟨o, hread, rfl⟩ := exists_options hstart
    have hends := ((course_filter tree o).offered o.items _).ends_run hstart (filter_meets o) text
    exact hends.mono (fun _ _ => .filter hread) fun _ => .filter hread
  · obtain ⟨o, hread, rfl⟩ := exists_options hstart
    have hends := ((course_table tree (Table.load o)).offered _ _).ends_run hstart
      (table_meets o) text
    exact hends.mono (fun _ _ h => .table hread (rowAccepted_of_offered h)) fun _ => .table hread

/-- Zero is no position, so the question is asked again; what is chosen then comes in the order of
the answer. -/
theorem accepts_or_dismissed_again :
    let programs : Command.Programs := fun _ => .error (.file .notFound)
    let options : Json := .object [("options".toList, Json.ofTexts ["A".toList, "B".toList]),
      ("no_limit".toList, .bool true)]
    let text := "0\n2, 1\nx\n".toList
    let t := run programs {} .choose options (Utf8.encode text)
    answers text = ["0".toList, "2, 1".toList, "x".toList] ∧
      t.result = .ok (.list ["B".toList, "A".toList]) ∧
      ∃ n ≤ 3, t.read = ((inputLines (Utf8.encode text)).take n).flatten.length ∧
        Accepted options ((answers text).take n) (.list ["B".toList, "A".toList]) .choose := by
  have hread : readOptions .choose "ChooseOptions" Options.Choose.fields {} (.object [
      ("options".toList, Json.ofTexts ["A".toList, "B".toList]), ("no_limit".toList, .bool true)]) =
      .ok { items := ["A".toList, "B".toList], noLimit := true } := by
    cbv
  intro programs options text t
  have hanswers : answers text = ["0".toList, "2, 1".toList, "x".toList] := by decide
  have hstart : start programs .choose options =
      .ok (startChoose { items := ["A".toList, "B".toList], noLimit := true }) := by
    rw [start, hread]
    rfl
  have hresult : t.result = .ok (.list ["B".toList, "A".toList]) := by
    have hconverse : (converse {} (.choose { items := ["A".toList, "B".toList], noLimit := true })
        (inputLines (Utf8.encode text))).result = .ok (.list ["B".toList, "A".toList]) := by
      decide +kernel
    show (run programs {} .choose options (Utf8.encode text)).result = _
    rw [run, hstart]
    exact hconverse
  rcases accepts_or_dismissed programs {} (by decide) hstart text with
    ⟨hcancelled, -⟩ | ⟨n, value, hn, hok, hread, haccepted⟩
  · cases hresult.symm.trans hcancelled
  · obtain rfl := Except.ok.inj (hok.symm.trans hresult)
    exact ⟨hanswers, hresult, n, hn.trans_eq (congrArg List.length hanswers), hread, haccepted⟩

end Prompt
end TerminalDialogs

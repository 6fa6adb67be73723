import TerminalDialogs.Json.Reader
import TerminalDialogs.Proofs.Json.Cut
import TerminalDialogs.Proofs.Text.Rows

/-!
# Values are read back from their text

A reader of JSON values keeps a stack of what is open, so what can be said of one value inside
others is what it does to any stack.  Lexemes *lead* the reader from one stack to another
(`Leads`), and they are read as a value if they lead to where the value leads, had it been one
lexeme (`Reads`).  This is said of lexemes and not of places, and with what `Cut` says of the
text it makes a value that is read back wherever it is written (`ReadsBack`).

Not every value is.  A number that is not whole is written in its shortest form, of which
nothing is said here; a whole number has to fit 64 bits, an object has to be one, and there must
not be more levels than the reader opens.  That is all (`Plain.readsBack`).
-/

namespace TerminalDialogs
namespace Json

variable {v : Json} {depth limit : Nat} {l : Lexeme} {ls ls' : List Lexeme} {care : Care}
  {opened opened' : List Open} {expect expect' : Expect}

/-! ## Where lexemes lead -/

/-- What a reader has come to: a value, or a stack and an expectation. -/
abbrev Reached := Json ⊕ List Open × Expect

/-- What a complete value leads to. -/
def Reached.by (value : Json) (opened : List Open) : Reached :=
  match settle value opened with
  | .inl value => .inl value
  | .inr opened => .inr (opened, .comma)

/-- A reader that has come so far goes on. -/
def Reached.goOn (care : Care) (stop : Position) (reached : Reached) (rest : List Placed) :
    Except PlacedFault (Json × List Placed) :=
  match reached with
  | .inl value => .ok (value, rest)
  | .inr (opened, expect) => readFrom care stop opened expect rest

/-- Lexemes lead a reader on, wherever they are and whatever is behind them. -/
def Leads (care : Care) (opened : List Open) (expect : Expect) (ls : List Lexeme)
    (reached : Reached) : Prop :=
  ∀ stop (placed rest : List Placed), placed.map Placed.lexeme = ls →
    readFrom care stop opened expect (placed ++ rest) = reached.goOn care stop rest

namespace Leads

variable {reached : Reached}

theorem append (h : Leads care opened expect ls (.inr (opened', expect')))
    (h' : Leads care opened' expect' ls' reached) :
    Leads care opened expect (ls ++ ls') reached := by
  intro stop placed rest hplaced
  obtain ⟨front, back, rfl, hfront, hback⟩ := List.map_eq_append_iff.mp hplaced
  rw [List.append_assoc, h stop front (back ++ rest) hfront]
  exact h' stop back rest hback

/-- One lexeme after which the reader goes on. -/
theorem step (h : ∀ p : Placed, p.lexeme = l → move care opened expect p = .goOn opened' expect') :
    Leads care opened expect [l] (.inr (opened', expect')) := by
  intro stop placed rest hplaced
  obtain ⟨p, rfl, hp⟩ := List.map_eq_singleton_iff.mp hplaced
  rw [List.singleton_append, readFrom, h p hp]
  rfl

/-- One lexeme with which a value is complete. -/
theorem complete
    (h : ∀ p : Placed, p.lexeme = l → move care opened expect p = .complete v opened') :
    Leads care opened expect [l] (.by v opened') := by
  intro stop placed rest hplaced
  obtain ⟨p, rfl, hp⟩ := List.map_eq_singleton_iff.mp hplaced
  rw [List.singleton_append, readFrom, h p hp, Reached.by]
  dsimp only
  cases settle v opened' <;> rfl

end Leads

/-! ## Reading one value -/

/-- Where a value may stand. -/
def Expect.TakesValue (expect : Expect) : Prop :=
  expect = .value ∨ expect = .firstElement ∨ expect = .element

/-- **Lexemes are read as a value** of so many levels: a reader that may open as many more is led
by them as by the value. -/
def Reads (depth : Nat) (v : Json) (ls : List Lexeme) : Prop :=
  ∀ {limit opened expect}, Expect.TakesValue expect → opened.length + depth ≤ limit →
    Leads (.wanted limit) opened expect ls (.by v opened)

/-- **A value is read back**: in front of whatever may follow a value, its text is cut into
lexemes that are read as the value. -/
def ReadsBack (depth : Nat) (v : Json) : Prop :=
  ∃ ls, Cut Delimited (compact v) ls ∧ Reads depth v ls

/-- A reader may open more levels than there are. -/
theorem ReadsBack.mono {depth' : Nat} (h : ReadsBack depth v) (hle : depth ≤ depth') :
    ReadsBack depth' v := by
  obtain ⟨ls, hcut, hreads⟩ := h
  exact ⟨ls, hcut, fun hexpect hdepth => hreads hexpect (by omega)⟩

theorem move_of_takesValue {p : Placed} (hexpect : expect.TakesValue)
    (hp : p.lexeme ≠ .closeArray) : move care opened expect p = moveValue care opened p := by
  rcases hexpect with rfl | rfl | rfl
  · rfl
  all_goals
    unfold move
    dsimp only
    split
    · next h => exact absurd h hp
    · rfl

/-- A lexeme that is a value by itself. -/
theorem reads_scalar (h : ∀ limit, scalar? (.wanted limit) l = some (.ok v)) :
    Reads depth v [l] := by
  intro limit opened expect hexpect _
  refine .complete fun p hp => ?_
  have hclose : p.lexeme ≠ .closeArray := by
    intro hclose
    have hscalar := h 0
    rw [← hp, hclose] at hscalar
    cases hscalar
  rw [move_of_takesValue hexpect hclose, moveValue, hp, h]

theorem Cut.delimited {piece : Text} (h : Cut Anything piece ls) : Cut Delimited piece ls :=
  h.mono fun _ _ => trivial

theorem readsBack_null : ReadsBack depth .null := ⟨_, cut_null.delimited, reads_scalar fun _ => rfl⟩

theorem readsBack_bool (b : Bool) : ReadsBack depth (.bool b) := by
  cases b with
  | true => exact ⟨_, cut_true.delimited, reads_scalar fun _ => rfl⟩
  | false => exact ⟨_, cut_false.delimited, reads_scalar fun _ => rfl⟩

theorem readsBack_string (s : Text) : ReadsBack depth (.string s) :=
  ⟨_, (cut_quote s).delimited, reads_scalar fun _ => rfl⟩

/-- A whole number of 64 bits. -/
def Number.IsWord : Number → Prop
  | .natural n => n < wordLimit
  | .negative magnitude => 0 < magnitude ∧ magnitude ≤ Nat.pow 2 63
  | .float _ => False

theorem readsBack_number {n : Number} (h : n.IsWord) : ReadsBack depth (.number n) := by
  cases n with
  | natural n => exact ⟨_, cut_natural h, reads_scalar fun _ => rfl⟩
  | negative magnitude => exact ⟨_, cut_negative h.1 h.2, reads_scalar fun _ => rfl⟩
  | float x => exact h.elim

/-! ## Arrays -/

theorem compactAll_eq (values : List Json) : compactAll values = values.map compact := by
  induction values with
  | nil => rfl
  | cons value values ih => rw [compactAll, ih, List.map_cons]

theorem join_cons (separator : Char) (piece : Text) (others : List Text) :
    Text.join [separator] (piece :: others) = piece ++ others.flatMap (separator :: ·) := by
  induction others generalizing piece with
  | nil => exact (List.append_nil _).symm
  | cons next others ih =>
    rw [Text.join_cons_cons, ih, List.flatMap_cons, List.append_assoc]
    rfl

/-- What is behind the pieces of an array or an object. -/
def tailText (close : Char) (pieces : List Text) : Text := pieces.flatMap (',' :: ·) ++ [close]

theorem tailText_cons (close : Char) (piece : Text) (pieces : List Text) :
    tailText close (piece :: pieces) = [','] ++ (piece ++ tailText close pieces) := by
  rw [tailText, List.flatMap_cons, List.append_assoc]
  rfl

theorem join_eq_tailText (close : Char) (piece : Text) (pieces : List Text) :
    Text.join [','] (piece :: pieces) ++ [close] = piece ++ tailText close pieces := by
  rw [join_cons, List.append_assoc]
  rfl

/-- What stands in front of a comma or of the end is cut as if it stood alone. -/
theorem Cut.append_tailText {close : Char} {piece : Text} {pieces : List Text}
    (hclose : close = ',' ∨ close = ']' ∨ close = '\x7d') (h : Cut Delimited piece ls)
    (h' : Cut Q (tailText close pieces) ls') :
    Cut Q (piece ++ tailText close pieces) (ls ++ ls') := by
  refine h.append h' fun rest _ => ?_
  rcases pieces with _ | ⟨next, pieces⟩
  · exact delimited_cons hclose _
  · exact delimited_cons (.inl rfl) _

/-- The elements that follow are put behind those that have been read. -/
theorem reads_elements {values : List Json} (h : ∀ v ∈ values, ReadsBack depth v) :
    ∃ ls, Cut Anything (tailText ']' (values.map compact)) ls ∧
      ∀ {limit opened seen}, opened.length + 1 + depth ≤ limit →
        Leads (.wanted limit) (.array seen :: opened) .comma ls
          (.by (.array (seen.reverse ++ values)) opened) := by
  induction values with
  | nil =>
    refine ⟨[.closeArray], cut_closeArray, fun {limit opened seen} _ => ?_⟩
    rw [List.append_nil]
    exact .complete fun p hp => by rw [move.eq_def, hp]
  | cons v values ih =>
    rw [List.forall_mem_cons] at h
    obtain ⟨lsv, hcut, hreads⟩ := h.1
    obtain ⟨lst, hcuts, htail⟩ := ih h.2
    refine ⟨[.comma] ++ (lsv ++ lst), ?_, fun {limit opened seen} hdepth => ?_⟩
    · rw [List.map_cons, tailText_cons]
      exact cut_comma.behind (hcut.append_tailText (by decide) hcuts)
    · have hcomma : Leads (.wanted limit) (.array seen :: opened) .comma [.comma]
          (.inr (.array seen :: opened, .element)) := .step fun p hp => by rw [move.eq_def, hp]
      have hvalue : Leads (.wanted limit) (.array seen :: opened) .element lsv
          (.inr (.array (v :: seen) :: opened, .comma)) := hreads (.inr (.inr rfl)) hdepth
      have hrest : Leads (.wanted limit) (.array (v :: seen) :: opened) .comma lst
          (.by (.array ((v :: seen).reverse ++ values)) opened) := htail hdepth
      rw [List.reverse_cons, List.append_assoc, List.singleton_append] at hrest
      exact hcomma.append (hvalue.append hrest)

theorem mayOpen_wanted (h : opened.length < limit) :
    (Care.wanted limit).mayOpen opened.length = true := decide_eq_true h

theorem leads_openArray (hexpect : expect.TakesValue) (h : opened.length < limit) :
    Leads (.wanted limit) opened expect [.openArray] (.inr (.array [] :: opened, .firstElement)) :=
  .step fun p hp => by
    rw [move_of_takesValue hexpect (by rw [hp]; nofun), moveValue, hp]
    exact if_pos (mayOpen_wanted h)

theorem readsBack_array {values : List Json} (h : ∀ v ∈ values, ReadsBack depth v) :
    ReadsBack (depth + 1) (.array values) := by
  rcases values with _ | ⟨v, values⟩
  · have htext : compact (.array []) = ['['] ++ [']'] := by
      rw [compact, compactAll]
      rfl
    refine ⟨[.openArray] ++ [.closeArray], ?_, ?_⟩
    · rw [htext]
      exact (cut_openArray.behind cut_closeArray).delimited
    intro limit opened expect hexpect hdepth
    have hclose : Leads (.wanted limit) (.array [] :: opened) .firstElement [.closeArray]
        (.by (.array []) opened) := .complete fun p hp => by rw [move.eq_def, hp]
    exact (leads_openArray hexpect (by omega)).append hclose
  · rw [List.forall_mem_cons] at h
    obtain ⟨lsv, hcut, hreads⟩ := h.1
    obtain ⟨lst, hcuts, htail⟩ := reads_elements h.2
    refine ⟨[.openArray] ++ (lsv ++ lst), ?_, ?_⟩
    · rw [compact, compactAll_eq, List.map_cons, List.append_assoc, join_eq_tailText]
      exact (cut_openArray.behind (hcut.append_tailText (by decide) hcuts)).delimited
    · intro limit opened expect hexpect hdepth
      have hlevel : opened.length + 1 + depth ≤ limit := by omega
      have hvalue : Leads (.wanted limit) (.array [] :: opened) .firstElement lsv
          (.inr (.array [v] :: opened, .comma)) := hreads (.inr (.inl rfl)) hlevel
      exact (leads_openArray hexpect (by omega)).append (hvalue.append (htail hlevel))

/-! ## Objects -/

/-- A member as it is written. -/
def memberText (m : Text × Json) : Text := quote m.1 ++ [':'] ++ compact m.2

theorem compactMembers_eq (members : List (Text × Json)) :
    compactMembers members = members.map memberText := by
  induction members with
  | nil => rfl
  | cons m members ih => rw [compactMembers, ih, List.map_cons, memberText]

/-- Where a member of an object may stand. -/
def Expect.TakesMember (expect : Expect) : Prop := expect = .firstKey ∨ expect = .key

/-- Sets members one after the other. -/
def setMembers (members sorted : List (Text × Json)) : List (Text × Json) :=
  members.foldl (fun sorted m => setMember m.1 m.2 sorted) sorted

/-- A member is put where it belongs. -/
theorem reads_member {m : Text × Json} (h : ReadsBack depth m.2) :
    ∃ ls, Cut Delimited (memberText m) ls ∧
      ∀ {limit opened expect sorted key}, Expect.TakesMember expect →
        opened.length + 1 + depth ≤ limit →
        Leads (.wanted limit) (.object sorted key :: opened) expect ls
          (.inr (.object (setMember m.1 m.2 sorted) m.1 :: opened, .comma)) := by
  obtain ⟨lsv, hcut, hreads⟩ := h
  refine ⟨[.string (.ok m.1)] ++ [.colon] ++ lsv, ?_,
    fun {limit opened expect sorted key} hexpect hdepth => ?_⟩
  · exact ((cut_quote m.1).behind cut_colon).behind hcut
  · have hkey : Leads (.wanted limit) (.object sorted key :: opened) expect [.string (.ok m.1)]
        (.inr (.object sorted m.1 :: opened, .colon)) := .step fun p hp => by
      have hmove : moveKey (.wanted limit) (.object sorted key :: opened) p =
          .goOn (.object sorted m.1 :: opened) .colon := by
        rw [moveKey.eq_def, hp]
        rfl
      rcases hexpect with rfl | rfl
      all_goals
        rw [move.eq_def]
        dsimp only
        rw [hp]
        exact hmove
    have hcolon : Leads (.wanted limit) (.object sorted m.1 :: opened) .colon [.colon]
        (.inr (.object sorted m.1 :: opened, .value)) := .step fun p hp => by rw [move.eq_def, hp]
    have hvalue : Leads (.wanted limit) (.object sorted m.1 :: opened) .value lsv
        (.inr (.object (setMember m.1 m.2 sorted) m.1 :: opened, .comma)) :=
      hreads (.inl rfl) hdepth
    exact (hkey.append hcolon).append hvalue

/-- The members that follow are put where they belong. -/
theorem reads_members {members : List (Text × Json)} (h : ∀ m ∈ members, ReadsBack depth m.2) :
    ∃ ls, Cut Anything (tailText '\x7d' (members.map memberText)) ls ∧
      ∀ {limit opened sorted key}, opened.length + 1 + depth ≤ limit →
        Leads (.wanted limit) (.object sorted key :: opened) .comma ls
          (.by (.object (setMembers members sorted)) opened) := by
  induction members with
  | nil =>
    refine ⟨[.closeObject], cut_closeObject, fun {limit opened sorted key} _ => ?_⟩
    exact .complete fun p hp => by
      rw [move.eq_def, hp]
      rfl
  | cons m members ih =>
    rw [List.forall_mem_cons] at h
    obtain ⟨lsm, hcut, hmember⟩ := reads_member h.1
    obtain ⟨lst, hcuts, htail⟩ := ih h.2
    refine ⟨[.comma] ++ (lsm ++ lst), ?_, fun {limit opened sorted key} hdepth => ?_⟩
    · rw [List.map_cons, tailText_cons]
      exact cut_comma.behind (hcut.append_tailText (by decide) hcuts)
    · have hcomma : Leads (.wanted limit) (.object sorted key :: opened) .comma [.comma]
          (.inr (.object sorted key :: opened, .key)) := .step fun p hp => by rw [move.eq_def, hp]
      exact hcomma.append ((hmember (.inr rfl) hdepth).append (htail hdepth))

theorem leads_openObject (hexpect : expect.TakesValue) (h : opened.length < limit) :
    Leads (.wanted limit) opened expect [.openObject]
      (.inr (.object [] [] :: opened, .firstKey)) :=
  .step fun p hp => by
    rw [move_of_takesValue hexpect (by rw [hp]; nofun), moveValue, hp]
    exact if_pos (mayOpen_wanted h)

/-- An object is read back if it is one: its members are sorted and each is there once. -/
theorem readsBack_object {members : List (Text × Json)}
    (hsorted : ofMembers members = .object members)
    (h : ∀ m ∈ members, ReadsBack depth m.2) : ReadsBack (depth + 1) (.object members) := by
  rcases members with _ | ⟨m, members⟩
  · have htext : compact (.object []) = ['\x7b'] ++ ['\x7d'] := by
      rw [compact, compactMembers]
      rfl
    refine ⟨[.openObject] ++ [.closeObject], ?_, ?_⟩
    · rw [htext]
      exact (cut_openObject.behind cut_closeObject).delimited
    intro limit opened expect hexpect hdepth
    have hclose : Leads (.wanted limit) (.object [] [] :: opened) .firstKey [.closeObject]
        (.by (.object []) opened) := .complete fun p hp => by rw [move.eq_def, hp]
    exact (leads_openObject hexpect (by omega)).append hclose
  · rw [List.forall_mem_cons] at h
    obtain ⟨lsm, hcut, hmember⟩ := reads_member h.1
    obtain ⟨lst, hcuts, htail⟩ := reads_members h.2
    refine ⟨[.openObject] ++ (lsm ++ lst), ?_, ?_⟩
    · rw [compact, compactMembers_eq, List.map_cons, List.append_assoc, join_eq_tailText]
      exact (cut_openObject.behind (hcut.append_tailText (by decide) hcuts)).delimited
    · intro limit opened expect hexpect hdepth
      have hlevel : opened.length + 1 + depth ≤ limit := by omega
      have hset : setMembers members (setMember m.1 m.2 []) = m :: members :=
        Json.object.inj hsorted
      rw [← hset]
      exact (leads_openObject hexpect (by omega)).append
        ((hmember (.inl rfl) hlevel).append (htail hlevel))

/-! ## Values that are read back -/

/-- A value of so many levels with whole numbers only, each of 64 bits, in which objects are
sorted and have each member once. -/
inductive Plain : Nat → Json → Prop where
  | null {depth : Nat} : Plain depth .null
  | bool {depth : Nat} (b : Bool) : Plain depth (.bool b)
  | number {depth : Nat} {n : Number} (h : n.IsWord) : Plain depth (.number n)
  | string {depth : Nat} (s : Text) : Plain depth (.string s)
  | array {depth : Nat} {values : List Json} (h : ∀ v ∈ values, Plain depth v) :
      Plain (depth + 1) (.array values)
  | object {depth : Nat} {members : List (Text × Json)}
      (hsorted : ofMembers members = .object members) (h : ∀ m ∈ members, Plain depth m.2) :
      Plain (depth + 1) (.object members)

/-- **Plain values are read back.** -/
theorem Plain.readsBack (h : Plain depth v) : ReadsBack depth v := by
  induction h with
  | null => exact readsBack_null
  | bool b => exact readsBack_bool b
  | number h => exact readsBack_number h
  | string s => exact readsBack_string s
  | array h ih => exact readsBack_array ih
  | object hsorted h ih => exact readsBack_object hsorted ih

/-- Where nothing is left open, a value that is read back ends the reading. -/
theorem Reads.readValue (h : Reads depth v ls) (hdepth : depth ≤ limit) (stop : Position)
    {placed : List Placed} (hplaced : placed.map Placed.lexeme = ls) (rest : List Placed) :
    readValue (.wanted limit) stop (placed ++ rest) = .ok (v, rest) := by
  have hlevels : ([] : List Open).length + depth ≤ limit := by
    rw [List.length_nil, Nat.zero_add]
    exact hdepth
  exact h (.inl rfl) hlevels stop placed rest hplaced

/-- A value that is read back is what its text alone is read as. -/
theorem ReadsBack.parse_compact (h : ReadsBack depthLimit v) : Json.parse (compact v) = .ok v := by
  obtain ⟨ls, hcut, hreads⟩ := h
  obtain ⟨placed, hplaced, hlexemes⟩ := hcut {} [] delimited_nil
  have hend : lexemesFrom (Position.advanceAll {} (compact v)) [] =
      ([], Position.advanceAll {} (compact v)) := by rw [lexemesFrom]
  rw [List.append_nil, hend] at hlexemes
  rw [Json.parse, lexemes, hlexemes]
  have hread := hreads.readValue (Nat.le_refl depthLimit)
    (Position.advanceAll {} (compact v)) hplaced []
  simp only [hread]
  rfl

end Json
end TerminalDialogs

import TerminalDialogs.Json.Record
import TerminalDialogs.Proofs.Json.ReadBack

/-!
# Records are read back

A record is written without the members that are absent, and it is read field by field.  What
its reader gets from the text is just the members that were written, the last one first
(`parseRecord_compactRecord`); what an absent member stands for is up to whoever asked.
-/

namespace TerminalDialogs
namespace Json

variable {shape : RecordShape} {v : Json} {m : Text × Json} {members : List (Text × Json)}

/-- A value that a field may have and that is read back. -/
def Shape.Holds : Shape → Json → Prop
  | .string, v => ∃ s, v = .string s
  | .boolean, v => ∃ b, v = .bool b
  | .any, v => ReadsBack (depthLimit - 1) v

/-- A member is one of a record. -/
def RecordShape.Takes (shape : RecordShape) (m : Text × Json) : Prop :=
  ∃ field, (shape.fields.find? fun f => f.name == m.1) = some field ∧ field.shape.Holds m.2

theorem Shape.Holds.read {shape : Shape} (h : shape.Holds v) :
    ∃ ls, Cut Delimited (compact v) ls ∧ ∀ stop (placed rest : List Placed),
      placed.map Placed.lexeme = ls → readShape stop shape (placed ++ rest) = .ok (v, rest) := by
  cases shape with
  | string =>
    obtain ⟨s, rfl⟩ := h
    refine ⟨_, (cut_quote s).delimited, fun stop placed rest hplaced => ?_⟩
    obtain ⟨p, rfl, hp⟩ := List.map_eq_singleton_iff.mp hplaced
    rw [List.singleton_append, readShape.eq_def]
    dsimp only
    rw [hp]
  | boolean =>
    obtain ⟨b, rfl⟩ := h
    refine ⟨[.atom (.ok (.bool b))], ?_, fun stop placed rest hplaced => ?_⟩
    · cases b with
      | true => exact cut_true.delimited
      | false => exact cut_false.delimited
    · obtain ⟨p, rfl, hp⟩ := List.map_eq_singleton_iff.mp hplaced
      rw [List.singleton_append, readShape.eq_def]
      dsimp only
      rw [hp]
  | any =>
    obtain ⟨ls, hcut, hreads⟩ := h
    refine ⟨ls, hcut, fun stop placed rest hplaced => ?_⟩
    rw [readShape, hreads.readValue (Nat.le_refl _) stop hplaced rest]
    rfl

/-- A member is read behind its name. -/
theorem reads_field (h : shape.Takes m) :
    ∃ ls, Cut Delimited (memberText m) (.string (.ok m.1) :: ls) ∧
      ∀ {stop given} {placed : List Placed} (rest : List Placed), placed.map Placed.lexeme = ls →
        Given.get? given m.1 = none →
        readMember shape stop m.1 given (placed ++ rest) = .ok (m :: given, rest) := by
  obtain ⟨field, hfield, hholds⟩ := h
  obtain ⟨lsv, hcut, hread⟩ := hholds.read
  refine ⟨.colon :: lsv, ((cut_quote m.1).behind cut_colon).behind hcut,
    fun {stop given placed} rest hplaced hnew => ?_⟩
  obtain ⟨p, placed, rfl, hp, hplaced⟩ := List.map_eq_cons_iff.mp hplaced
  have hcolon : readColon stop (p :: (placed ++ rest)) = .ok (placed ++ rest) := by
    rw [readColon, hp]
  rw [readMember, hfield]
  dsimp only
  rw [hnew, Option.isSome_none, if_neg Bool.false_ne_true, List.cons_append, hcolon]
  show (readShape stop field.shape (placed ++ rest) >>= _) = _
  rw [hread stop placed rest hplaced]
  rfl

theorem get?_cons (given : Given) (m : Text × Json) (name : Text) :
    Given.get? (m :: given) name = if m.1 = name then some m.2 else given.get? name := by
  rw [Given.get?, List.find?_cons]
  by_cases h : m.1 = name
  · rw [if_pos h, beq_iff_eq.mpr h]
    rfl
  · rw [if_neg h, beq_eq_false_iff_ne.mpr h]
    rfl

/-- One more member, whose name is read from these lexemes. -/
theorem readMembers_of_readName {stop : Position} {isFirst : Bool} {placed behind : List Placed}
    (hname : readName stop isFirst placed = .ok (some m.1, behind)) {given given' : Given}
    {rest : List Placed} (hmember : readMember shape stop m.1 given behind = .ok (given', rest))
    (rounds : Nat) :
    readMembers shape stop (rounds + 1) isFirst given placed =
      readMembers shape stop rounds false given' rest := by
  rw [readMembers, hname]
  show (readMember shape stop m.1 given behind >>= _) = _
  rw [hmember]
  rfl

theorem readName_close {stop : Position} {isFirst : Bool} {p : Placed}
    (hp : p.lexeme = .closeObject) (rest : List Placed) :
    readName stop isFirst (p :: rest) = .ok (none, rest) := by
  rw [readName.eq_def]
  dsimp only
  rw [hp]

/-- The members that follow are put on those that have been read. -/
theorem reads_fields (h : ∀ m ∈ members, shape.Takes m) :
    ∃ ls, Cut Anything (tailText '\x7d' (members.map memberText)) ls ∧ members.length < ls.length ∧
      ∀ {stop rounds given} {placed : List Placed} (rest : List Placed),
        placed.map Placed.lexeme = ls → members.length < rounds →
        (members.map Prod.fst).Nodup → (∀ m ∈ members, Given.get? given m.1 = none) →
        readMembers shape stop rounds false given (placed ++ rest) =
          .ok (members.reverse ++ given, rest) := by
  induction members with
  | nil =>
    refine ⟨[.closeObject], cut_closeObject, Nat.zero_lt_one,
      fun {stop rounds given placed} rest hplaced hrounds _ _ => ?_⟩
    obtain ⟨p, rfl, hp⟩ := List.map_eq_singleton_iff.mp hplaced
    obtain ⟨rounds, rfl⟩ := Nat.exists_eq_succ_of_ne_zero (Nat.ne_of_gt hrounds)
    rw [List.singleton_append, readMembers, readName_close hp]
    rfl
  | cons m members ih =>
    rw [List.forall_mem_cons] at h
    obtain ⟨lsm, hcut, hmember⟩ := reads_field h.1
    obtain ⟨lst, hcuts, hlength, htail⟩ := ih h.2
    refine ⟨[.comma] ++ (.string (.ok m.1) :: lsm ++ lst), ?_, ?_,
      fun {stop rounds given placed} rest hplaced hrounds hnodup hnew => ?_⟩
    · rw [List.map_cons, tailText_cons]
      exact cut_comma.behind (hcut.append_tailText (by decide) hcuts)
    · simp only [List.length_append, List.length_cons] at hlength ⊢
      omega
    · obtain ⟨p, placed, rfl, hp, hplaced⟩ := List.map_eq_cons_iff.mp hplaced
      obtain ⟨q, placed, rfl, hq, hplaced⟩ := List.map_eq_cons_iff.mp hplaced
      obtain ⟨placedm, placedt, rfl, hplacedm, hplacedt⟩ := List.map_eq_append_iff.mp hplaced
      rw [List.map_cons, List.nodup_cons] at hnodup
      rw [List.forall_mem_cons] at hnew
      have hne : rounds ≠ 0 := Nat.ne_of_gt (Nat.zero_lt_of_lt hrounds)
      obtain ⟨rounds, rfl⟩ := Nat.exists_eq_succ_of_ne_zero hne
      have hname : readName stop false (p :: q :: (placedm ++ (placedt ++ rest))) =
          .ok (some m.1, placedm ++ (placedt ++ rest)) := by
        rw [readName, hp]
        dsimp only
        rw [hq]
        rfl
      have hrest : ∀ m' ∈ members, Given.get? (m :: given) m'.1 = none := fun m' hm' => by
        have hne : m.1 ≠ m'.1 := fun heq => hnodup.1 (heq ▸ List.mem_map_of_mem hm')
        rw [get?_cons, if_neg hne]
        exact hnew.2 m' hm'
      rw [List.cons_append, List.cons_append, List.append_assoc,
        readMembers_of_readName hname (hmember (placedt ++ rest) hplacedm hnew.1),
        htail rest hplacedt (Nat.lt_of_succ_lt_succ hrounds) hnodup.2 hrest, List.reverse_cons,
        List.append_assoc]
      rfl

/-- Behind its opening brace, a record is read to its end. -/
theorem reads_record (h : ∀ m ∈ members, shape.Takes m) (hnodup : (members.map Prod.fst).Nodup) :
    ∃ ls, Cut Anything (compactRecord members) (.openObject :: ls) ∧
      ∀ stop {placed : List Placed} (rest : List Placed), placed.map Placed.lexeme = ls →
        readMembers shape stop (placed.length + 1) true [] (placed ++ rest) =
          .ok (members.reverse, rest) := by
  rcases members with _ | ⟨m, members⟩
  · refine ⟨[.closeObject], cut_openObject.behind cut_closeObject,
      fun stop placed rest hplaced => ?_⟩
    obtain ⟨p, rfl, hp⟩ := List.map_eq_singleton_iff.mp hplaced
    rw [List.singleton_append, readMembers, readName_close hp]
    rfl
  · rw [List.forall_mem_cons] at h
    rw [List.map_cons, List.nodup_cons] at hnodup
    obtain ⟨lsm, hcut, hmember⟩ := reads_field h.1
    obtain ⟨lst, hcuts, hlength, htail⟩ := reads_fields h.2
    refine ⟨.string (.ok m.1) :: lsm ++ lst, ?_, fun stop placed rest hplaced => ?_⟩
    · rw [compactRecord, compactMembers_eq, List.map_cons, List.append_assoc, join_eq_tailText]
      exact cut_openObject.behind (hcut.append_tailText (by decide) hcuts)
    · obtain ⟨q, placed, rfl, hq, hplaced⟩ := List.map_eq_cons_iff.mp hplaced
      obtain ⟨placedm, placedt, rfl, hplacedm, rfl⟩ := List.map_eq_append_iff.mp hplaced
      have hname : readName stop true (q :: (placedm ++ (placedt ++ rest))) =
          .ok (some m.1, placedm ++ (placedt ++ rest)) := by
        rw [readName.eq_def]
        dsimp only
        rw [hq]
        rfl
      have hrounds : members.length < (q :: (placedm ++ placedt)).length := by
        simp only [List.length_map, List.length_cons, List.length_append] at hlength ⊢
        omega
      have hnew : ∀ m' ∈ members, Given.get? [m] m'.1 = none := fun m' hm' => by
        have hne : m.1 ≠ m'.1 := fun heq => hnodup.1 (heq ▸ List.mem_map_of_mem hm')
        rw [get?_cons, if_neg hne]
        rfl
      rw [List.cons_append, List.append_assoc,
        readMembers_of_readName hname (hmember (placedt ++ rest) hplacedm rfl),
        htail rest rfl hrounds hnodup.2 hnew, List.reverse_cons]

/-- A record is what its members are read as, if none of those that it must have is missing. -/
theorem readRecord_of_members {stop : Position} {p : Placed} (hp : p.lexeme = .openObject)
    {given : Given} {inside rest : List Placed}
    (hmembers : readMembers shape stop (inside.length + 1) true [] inside = .ok (given, rest))
    (hrequired : missing? shape.fields given = none) :
    readRecord shape stop (p :: inside) = .ok (given, rest) := by
  rw [readRecord.eq_def]
  dsimp only
  rw [hp]
  simp only [hmembers, bind, Except.bind, hrequired]
  rfl

/-- **A record is read back**: its members, the last one first. -/
theorem parseRecord_compactRecord (h : ∀ m ∈ members, shape.Takes m)
    (hnodup : (members.map Prod.fst).Nodup)
    (hrequired : missing? shape.fields members.reverse = none) :
    parseRecord shape (compactRecord members) = .ok members.reverse := by
  obtain ⟨ls, hcut, hread⟩ := reads_record h hnodup
  obtain ⟨placed, hplaced, hlexemes⟩ := hcut {} [] trivial
  obtain ⟨p, placed, rfl, hp, hplaced⟩ := List.map_eq_cons_iff.mp hplaced
  have hend : lexemesFrom (Position.advanceAll {} (compactRecord members)) [] =
      ([], Position.advanceAll {} (compactRecord members)) := by rw [lexemesFrom]
  have hmembers := hread (Position.advanceAll {} (compactRecord members)) [] hplaced
  rw [List.append_nil, hend, List.append_nil] at hlexemes
  rw [List.append_nil] at hmembers
  rw [parseRecord, lexemes, hlexemes]
  dsimp only
  rw [readRecord_of_members hp hmembers hrequired]
  rfl

end Json
end TerminalDialogs

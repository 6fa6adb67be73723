import TerminalDialogs.Prompt
import TerminalDialogs.Proofs.Text.Rows
import TerminalDialogs.Proofs.Text.Utf8

/-!
# Which answers a text gives

A prompt reads bytes and cuts them into lines before it decodes them.  Where the bytes are those of
a text, nothing is lost by that: the byte that ends a line occurs in no other character
(`newline_notMem_encodeChar`), and what was written is decoded without a fault (`decode?_encode`).
So the answers are read off the rows of the text (`lineText?_inputLines`), where a row that is empty
and the last one is no answer, as nothing was typed behind the last line feed.
-/

namespace TerminalDialogs

namespace Utf8

/-! ## Decoding what was written -/

/-- Bytes out of which no replacement character comes are well-formed. -/
theorem decode?_of_notMem {state : State} {bytes : List UInt8}
    (hbytes : replacement ∉ (feedAll state bytes).1) (hend : (feedAll state bytes).2 = none) :
    decode? state bytes = some (feedAll state bytes).1 := by
  induction bytes generalizing state with
  | nil =>
    rw [feedAll] at hend ⊢
    dsimp only at hend
    rw [hend, decode?]
  | cons b bytes ih =>
    rw [feedAll_cons] at hbytes hend ⊢
    rw [List.mem_append, not_or] at hbytes
    have haccepts : accepts state b = true := by
      rcases state with _ | s
      · rw [accepts, bne_iff_ne]
        intro h
        exact hbytes.1 (by rw [feed, h]; exact List.mem_singleton_self _)
      · rw [accepts, decide_eq_true_iff]
        by_contra h
        exact hbytes.1 (by rw [feed_bad h]; exact List.mem_cons_self)
    rw [decode?, if_pos haccepts]
    dsimp only
    rw [ih hbytes.2 hend, Option.map_some]

theorem decode?_encodeChar (c : Char) : decode? none (encodeChar c) = some [c] := by
  have hfeed := feedAll_encodeChar c
  by_cases hc : c = replacement
  · rw [hc]
    decide
  · rw [decode?_of_notMem, hfeed]
    · rw [hfeed, List.mem_singleton]
      exact Ne.symm hc
    · rw [hfeed]

theorem decode?_append {state : State} {a : List UInt8} {s : Text} (h : decode? state a = some s)
    (b : List UInt8) : decode? state (a ++ b) = (decode? none b).map (s ++ ·) := by
  induction a generalizing state s with
  | nil =>
    rcases state with _ | begun
    · obtain rfl := Option.some.inj h
      exact (congrFun Option.map_id _).symm
    · exact absurd h (nofun)
  | cons x a ih =>
    rw [decode?] at h
    rw [List.cons_append, decode?]
    split at h
    · next haccepts =>
      rw [if_pos haccepts]
      obtain ⟨t, ht, rfl⟩ := Option.map_eq_some_iff.mp h
      dsimp only
      rw [ih ht, Option.map_map]
      simp only [Function.comp_def, List.append_assoc]
    · exact absurd h (nofun)

/-- **What was written is decoded.** -/
theorem decode?_encode (s : Text) : decode? none (encode s) = some s := by
  induction s with
  | nil => rfl
  | cons c s ih => rw [encode_cons, decode?_append (decode?_encodeChar c), ih]; rfl

/-! ## Line feeds -/

/-- **The byte of a line feed** belongs to no other character. -/
theorem newline_notMem_encodeChar {c : Char} (hc : c ≠ '\n') : 10 ∉ encodeChar c := by
  intro h
  obtain ⟨a, b, hab⟩ := List.append_of_mem h
  have hfeed : (feedAll none (encodeChar c)).1 = [c] := by rw [feedAll_encodeChar]
  rw [hab, feedAll_append, feedAll_cons,
    feed_of_ascii (feedAll_sound State.sound_none a) (by decide)] at hfeed
  have hmem : '\n' ∈ [c] := by
    rw [← hfeed]
    exact List.mem_append_right _ (List.mem_append_left _ (List.mem_append_right _
      (List.mem_singleton_self _)))
  exact hc (List.mem_singleton.mp hmem).symm

theorem newline_notMem_encode {s : Text} (hs : '\n' ∉ s) : 10 ∉ encode s := by
  intro h
  obtain ⟨c, hc, hmem⟩ := List.mem_flatMap.mp h
  exact newline_notMem_encodeChar (fun heq => hs (heq ▸ hc)) hmem

end Utf8

namespace Prompt

/-! ## Lines -/

variable {a : List UInt8}

theorem inputLines_append_newline (ha : 10 ∉ a) (rest : List UInt8) :
    inputLines (a ++ 10 :: rest) = (a ++ [10]) :: inputLines rest := by
  induction a with
  | nil => exact if_pos rfl
  | cons b a ih =>
    rw [List.mem_cons, not_or] at ha
    rw [List.cons_append, inputLines, if_neg (Ne.symm ha.1), ih ha.2, List.cons_append]

theorem inputLines_of_notMem (ha : 10 ∉ a) (hne : a ≠ []) : inputLines a = [a] := by
  induction a with
  | nil => exact absurd rfl hne
  | cons b a ih =>
    rw [List.mem_cons, not_or] at ha
    rw [inputLines, if_neg (Ne.symm ha.1)]
    rcases eq_or_ne a [] with rfl | hne
    · rfl
    · rw [ih ha.2 hne]

/-- Cutting loses nothing. -/
theorem flatten_inputLines (bytes : List UInt8) : (inputLines bytes).flatten = bytes := by
  induction bytes with
  | nil => rfl
  | cons b bytes ih =>
    rw [inputLines]
    split
    · rw [List.flatten_cons, ih]
      rfl
    · rcases hlines : inputLines bytes with _ | ⟨line, others⟩
      · rw [hlines] at ih
        rw [← ih]
        rfl
      · rw [hlines] at ih
        rw [← ih]
        rfl

/-! ## Answers -/

/-- A line without what ends it. -/
def bare (line : Text) : Text := (line.reverse.dropWhile fun c => c == '\n' || c == '\r').reverse

/-- The rows that are typed: each but the last, and the last unless it is empty. -/
def typedRows : List Text → List Text
  | [] => []
  | [last] => if last = [] then [] else [last]
  | row :: others => row :: typedRows others

/-- The answers that a text gives, one for each of its lines. -/
def answers (text : Text) : List Text := (typedRows (Text.rows text)).map bare

theorem bare_concat_newline (line : Text) : bare (line ++ ['\n']) = bare line := by
  rw [bare, List.reverse_concat, List.dropWhile_cons_of_pos (by decide)]
  rfl

theorem bare_of_notMem {line : Text} (hfeed : '\n' ∉ line) (hreturn : '\r' ∉ line) :
    bare line = line := by
  rw [bare]
  rcases hline : line.reverse with _ | ⟨c, front⟩
  · rw [← List.reverse_reverse line, hline]
    rfl
  · have hc : c ∈ line := List.mem_reverse.mp (hline ▸ List.mem_cons_self)
    have hfeed' : c ≠ '\n' := fun heq => hfeed (heq ▸ hc)
    have hreturn' : c ≠ '\r' := fun heq => hreturn (heq ▸ hc)
    rw [List.dropWhile_cons_of_neg (by simp [hfeed', hreturn']), ← hline, List.reverse_reverse]

theorem lineText?_encode (line : Text) : lineText? (Utf8.encode line) = some (bare line) := by
  rw [lineText?, Utf8.decode?_encode]
  rfl

theorem typedRows_inputLines {rows : List Text} (hrows : ∀ row ∈ rows, '\n' ∉ row) :
    (inputLines (Utf8.encode (Text.unrows rows))).map lineText? =
      ((typedRows rows).map bare).map some := by
  have hbytes {row : Text} (hrow : '\n' ∉ row) : 10 ∉ Utf8.encode row :=
    Utf8.newline_notMem_encode hrow
  fun_induction typedRows rows with
  | case1 => rfl
  | case2 => rfl
  | case3 last hne =>
    have hbytes' : Utf8.encode last ≠ [] := by
      obtain ⟨c, rest, rfl⟩ := List.exists_cons_of_ne_nil hne
      rw [Utf8.encode_cons]
      exact List.append_ne_nil_of_left_ne_nil String.utf8EncodeChar_ne_nil _
    rw [Text.unrows, Text.join_singleton,
      inputLines_of_notMem (hbytes (hrows last (List.mem_singleton_self _))) hbytes']
    exact congrArg (fun answer => [answer]) (lineText?_encode last)
  | case4 row others hothers ih =>
    rw [List.forall_mem_cons] at hrows
    have hrow : Utf8.encode (Text.unrows (row :: others)) =
        Utf8.encode row ++ 10 :: Utf8.encode (Text.unrows others) := by
      obtain ⟨next, others, rfl⟩ := List.exists_cons_of_ne_nil hothers
      rw [Text.unrows, Text.join_cons_cons, Utf8.encode_append, Utf8.encode_append,
        List.append_assoc]
      rfl
    have hfirst : lineText? (Utf8.encode row ++ [10]) = some (bare row) := by
      rw [← bare_concat_newline, ← lineText?_encode, Utf8.encode_append]
      rfl
    rw [hrow, inputLines_append_newline (hbytes hrows.1), List.map_cons, hfirst, ih hrows.2]
    rfl

/-- The first line gives the first answer. -/
theorem answers_cons {line : Text} (hfeed : '\n' ∉ line) (hreturn : '\r' ∉ line) (rest : Text) :
    answers (line ++ '\n' :: rest) = line :: answers rest := by
  have hrows : Text.rows (line ++ '\n' :: rest) = line :: Text.rows rest := by
    have hline : Text.rows line = [line] :=
      Text.rows_unrows (List.cons_ne_nil line []) (List.forall_mem_singleton.mpr hfeed)
    rw [Text.rows, Text.pieces_append_cons]
    exact congrArg (· ++ Text.rows rest) hline
  rw [answers, hrows, typedRows, List.map_cons, bare_of_notMem hfeed hreturn, answers]
  exact fun h => Text.pieces_ne_nil '\n' rest h

/-- **The lines of a text** are its answers. -/
theorem lineText?_inputLines (text : Text) :
    (inputLines (Utf8.encode text)).map lineText? = (answers text).map some := by
  have h : (inputLines (Utf8.encode (Text.unrows (Text.rows text)))).map lineText? =
      (answers text).map some := typedRows_inputLines fun row => Text.notMem_of_mem_rows
  rwa [Text.unrows_rows] at h

end Prompt
end TerminalDialogs

import TerminalDialogs.Proofs.Styled.Sequence
import TerminalDialogs.Screen.Paint

/-!
# Painted texts

Painting puts a text between the sequence of a pen and a reset.  Both are style
sequences, so a painted text is as wide as the text, and whole if the text is.
-/

namespace TerminalDialogs
namespace Screen

open Styled

theorem all_isParameter_join {ls : List Text} (h : ∀ l ∈ ls, l.all isParameter = true) :
    (Text.join [';'] ls).all isParameter = true := by
  fun_induction Text.join [';'] ls with
  | case1 => rfl
  | case2 piece => exact h piece List.mem_cons_self
  | case3 piece others hne ih =>
    rw [List.all_append, List.all_append, h piece List.mem_cons_self,
      ih fun l hl => h l (List.mem_cons_of_mem piece hl)]
    rfl

theorem Color.all_isParameter {isBackground : Bool} {c : Color} {parameters : Text}
    (h : c.parameters isBackground = some parameters) : parameters.all isParameter = true := by
  cases c with
  | default => exact nomatch h
  | named hue bright =>
    obtain rfl := Option.some.inj h
    exact all_isParameter_ofNat _
  | indexed n =>
    obtain rfl := Option.some.inj h
    simp only [List.all_append, all_isParameter_ofNat]
    rfl
  | rgb c =>
    obtain rfl := Option.some.inj h
    simp only [List.all_append, all_isParameter_ofNat]
    rfl

theorem Pen.all_isParameter {pen : Pen} {l : Text} (h : l ∈ pen.parameters) :
    l.all isParameter = true := by
  rw [Pen.parameters, List.mem_append, List.mem_append] at h
  rcases h with (hmodifier | hforeground) | hbackground
  · obtain ⟨m, -, rfl⟩ := List.mem_map.mp hmodifier
    exact all_isParameter_ofNat m.code
  · exact Color.all_isParameter (Option.mem_toList.mp hforeground)
  · exact Color.all_isParameter (Option.mem_toList.mp hbackground)

/-- A pen is selected by a style sequence, if it is not the default one. -/
theorem Pen.sequence_eq (pen : Pen) : pen.sequence = [] ∨ ∃ parameters : Text,
    parameters.all isParameter = true ∧ pen.sequence = controlSequence parameters 'm' := by
  rw [Pen.sequence]
  by_cases h : pen.parameters.isEmpty = true
  · exact Or.inl (if_pos h)
  · rw [if_neg h]
    exact Or.inr ⟨_, all_isParameter_join fun l hl => Pen.all_isParameter hl, rfl⟩

/-- A painted text is the text itself or stands between a style sequence and a
reset. -/
theorem paint_eq (s : Text) (style : Style) : paint s style = s ∨ ∃ parameters : Text,
    parameters.all isParameter = true ∧
      paint s style = controlSequence parameters 'm' ++ s ++ reset := by
  rcases style.pen.sequence_eq with h | ⟨parameters, hparameters, h⟩
  · rw [paint, h]
    exact Or.inl rfl
  · rw [paint, h]
    exact Or.inr ⟨parameters, hparameters, rfl⟩

theorem whole_paint {s : Text} (h : Whole s) (style : Style) : Whole (paint s style) := by
  rcases paint_eq s style with hpaint | ⟨parameters, hparameters, hpaint⟩
  · rwa [hpaint]
  · rw [hpaint]
    exact ((whole_controlSequence hparameters).append h).append whole_reset

theorem strip_paint {s : Text} (h : Whole s) (style : Style) : strip (paint s style) = strip s := by
  rcases paint_eq s style with hpaint | ⟨parameters, hparameters, hpaint⟩
  · rw [hpaint]
  · rw [hpaint, strip_append ((whole_controlSequence hparameters).append h),
      strip_append (whole_controlSequence hparameters), strip_controlSequence hparameters,
      strip_reset, List.nil_append, List.append_nil]

theorem width_paint {s : Text} (h : Whole s) (style : Style) : width (paint s style) = width s := by
  rw [width, strip_paint h, ← width]

theorem notMem_paint {c : Char} (hreset : c ∉ reset) (hc : isParameter c = false) {s : Text}
    (h : c ∉ s) (style : Style) : c ∉ paint s style := by
  rcases paint_eq s style with hpaint | ⟨parameters, hparameters, hpaint⟩
  · rwa [hpaint]
  · rw [hpaint, List.mem_append, List.mem_append, not_or, not_or]
    exact ⟨⟨notMem_controlSequence hreset hc hparameters, h⟩, hreset⟩

end Screen
end TerminalDialogs

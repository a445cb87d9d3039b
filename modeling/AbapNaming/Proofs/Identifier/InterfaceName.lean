import Mathlib.Data.List.Chain
import AbapNaming.Identifier.InterfaceName
import AbapNaming.Proofs.Identifier.Snake

/-! # Interface names are made once

An interface name holds neither spaces nor punctuation, only lowercase, and no underscores side by
side. A text like that is changed by none of the passes, so the texts that stay as they are are the
names, and the name of a name is the name itself.
-/

namespace AbapNaming.InterfaceName

/-- No pass but the cut changes the text. -/
structure IsTidy (cs : List Char) : Prop where
  settled : ∀ c ∈ cs, c ≠ ' ' ∧ Text.lowerChar c = [c]
  plain : ∀ c ∈ cs, c ∉ punctuation
  apart : cs.IsChain fun a b => ¬ (a = '_' ∧ b = '_')

theorem underscore_plain : '_' ∉ punctuation := by decide

theorem plainChar_notMem (c : Char) : plainChar c ∉ punctuation := by
  unfold plainChar
  split_ifs with h
  · exact underscore_plain
  · exact h

theorem map_plainChar_eq_self {cs : List Char} (h : ∀ c ∈ cs, c ∉ punctuation) :
    cs.map plainChar = cs := by
  have hchar : ∀ c ∈ cs, plainChar c = c := fun c hc => if_neg (h c hc)
  rw [List.map_congr_left hchar, List.map_id']

theorem mem_of_mem_collapse {d : Char} {after : Bool} {cs : List Char}
    (h : d ∈ collapse after cs) : d ∈ cs := by
  induction cs generalizing after with
  | nil => exact h
  | cons c cs ih =>
    rw [collapse] at h
    split_ifs at h with hunderscore hafter
    · exact List.mem_cons_of_mem c (ih h)
    · rw [hunderscore]
      exact List.mem_cons.mpr ((List.mem_cons.mp h).imp_right ih)
    · exact List.mem_cons.mpr ((List.mem_cons.mp h).imp_right ih)

theorem length_collapse_le (after : Bool) (cs : List Char) :
    (collapse after cs).length ≤ cs.length := by
  induction cs generalizing after with
  | nil => exact Nat.le_refl 0
  | cons c cs ih =>
    have hrest := ih true
    rw [collapse]
    split_ifs with hunderscore hafter
    · rw [List.length_cons]
      omega
    · exact Nat.succ_le_succ hrest
    · exact Nat.succ_le_succ (ih false)

theorem isChain_collapse (after : Bool) (cs : List Char) :
    (collapse after cs).IsChain (fun a b => ¬ (a = '_' ∧ b = '_')) ∧
      (after = true → ∀ b ∈ (collapse after cs).head?, b ≠ '_') := by
  induction cs generalizing after with
  | nil => simp [collapse]
  | cons c cs ih =>
    obtain ⟨hchain, hhead⟩ := ih true
    rw [collapse]
    split_ifs with hunderscore hafter
    · exact ⟨hchain, fun _ => hhead rfl⟩
    · refine ⟨List.isChain_cons.mpr ⟨fun b hb hboth => hhead rfl b hb hboth.2, hchain⟩, ?_⟩
      exact fun h => absurd h hafter
    · refine ⟨List.isChain_cons.mpr ⟨fun b _ hboth => hunderscore hboth.1, (ih false).1⟩, ?_⟩
      simpa using fun _ => hunderscore

theorem collapse_eq_self {after : Bool} {cs : List Char}
    (h : cs.IsChain fun a b => ¬ (a = '_' ∧ b = '_'))
    (hhead : after = true → ∀ b ∈ cs.head?, b ≠ '_') : collapse after cs = cs := by
  induction cs generalizing after with
  | nil => rfl
  | cons c cs ih =>
    obtain ⟨hnext, hrest⟩ := List.isChain_cons.mp h
    rw [collapse]
    split_ifs with hunderscore hafter
    · exact absurd hunderscore (hhead hafter c rfl)
    · rw [ih hrest fun _ b hb hb' => hnext b hb ⟨hunderscore, hb'⟩, hunderscore]
    · rw [ih hrest fun h => absurd h Bool.false_ne_true]

theorem isTidy_chars (maxLength : Nat) (cs : List Char) : IsTidy (chars maxLength cs) where
  settled := by
    intro d hd
    obtain ⟨c, hc, rfl⟩ := List.mem_map.mp (mem_of_mem_collapse hd)
    unfold plainChar
    split_ifs with hpunctuation
    · decide
    · exact Snake.settled_of_mem_sentenceChars (List.mem_of_mem_take hc)
  plain := by
    intro d hd
    obtain ⟨c, -, rfl⟩ := List.mem_map.mp (mem_of_mem_collapse hd)
    exact plainChar_notMem c
  apart := (isChain_collapse false _).1

theorem length_chars_le (maxLength : Nat) (cs : List Char) :
    (chars maxLength cs).length ≤ maxLength := by
  calc (chars maxLength cs).length
      ≤ (((Snake.sentenceChars cs).take maxLength).map plainChar).length := length_collapse_le _ _
    _ = ((Snake.sentenceChars cs).take maxLength).length := List.length_map _
    _ ≤ maxLength := List.length_take_le _ _

/-- The texts that stay as they are: they are tidy and short enough. -/
theorem chars_eq_self_iff {maxLength : Nat} {cs : List Char} :
    chars maxLength cs = cs ↔ IsTidy cs ∧ cs.length ≤ maxLength := by
  constructor
  · intro h
    rw [← h]
    exact ⟨isTidy_chars _ _, length_chars_le _ _⟩
  · rintro ⟨htidy, hlength⟩
    rw [chars, Snake.sentenceChars_eq_self htidy.settled, List.take_of_length_le hlength,
      map_plainChar_eq_self htidy.plain]
    exact collapse_eq_self htidy.apart fun h => absurd h Bool.false_ne_true

theorem format_format (maxLength : Nat) (title : String) :
    format maxLength (format maxLength title) = format maxLength title := by
  have hchars := chars_eq_self_iff.mpr
    ⟨isTidy_chars maxLength title.toList, length_chars_le maxLength title.toList⟩
  rw [format, format, String.toList_ofList, hchars]

end AbapNaming.InterfaceName

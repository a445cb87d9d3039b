import Mathlib.Tactic.IntervalCases
import AbapNaming.Json.Token
import AbapNaming.Json.Value
import AbapNaming.Proofs.Identifier.Suffix

/-! # Texts and integers are read as they were written

Every character of a text is written so that it is read back, by itself or by an escape. The digits
of an integer are followed by nothing that could go on with a number.
-/

namespace AbapNaming.Json

/-! ## Texts -/

theorem hexUnit_append {word : List Char} (h : word.length = 4) (cs : List Char) :
    hexUnit (word ++ cs) = hexUnit word := by
  have htake : (word ++ cs).take 4 = word.take 4 :=
    List.take_append_of_le_length (Nat.le_of_eq h.symm)
  rw [hexUnit, hexUnit, htake]

theorem hexUnit_control {n : Nat} (h : n < 32) :
    let word := '0' :: '0' :: (if n < 16 then ['0'] else []) ++ Text.hex n
    word.length = 4 ∧ hexUnit word = .ok n := by
  interval_cases n <;> exact ⟨rfl, rfl⟩

theorem scanEscape_control {c : Char} (h : c.toNat < 32) (cs : List Char) :
    let code := 'u' :: '0' :: '0' :: (if c.toNat < 16 then ['0'] else []) ++ Text.hex c.toNat
    scanEscape (code ++ cs) = .char c code.length := by
  have hread {word : List Char} (hlength : word.length = 4) (hunit : hexUnit word = .ok c.toNat) :
      scanEscape ('u' :: word ++ cs) = .char c ('u' :: word).length := by
    have hhigh : isHighSurrogate c.toNat = false := by simp [isHighSurrogate]; omega
    have hlow : isLowSurrogate c.toNat = false := by simp [isLowSurrogate]; omega
    rw [List.cons_append, scanEscape, hexUnit_append hlength, hunit, List.length_cons, hlength]
    simp only [hhigh, hlow, Char.ofNat_toNat]
    rfl
  exact hread (hexUnit_control h).1 (hexUnit_control h).2

/-- A character stands for itself, or an escape stands for it. -/
theorem escapeChar_cases (c : Char) :
    Value.escapeChar c = [c] ∧ c ≠ '"' ∧ c ≠ '\\' ∧ ¬ c.toNat < 32 ∨
    ∃ code, Value.escapeChar c = '\\' :: code ∧
      ∀ cs, scanEscape (code ++ cs) = .char c code.length := by
  unfold Value.escapeChar
  split
  · exact .inr ⟨['"'], rfl, fun _ => rfl⟩
  · exact .inr ⟨['\\'], rfl, fun _ => rfl⟩
  · exact .inr ⟨['n'], rfl, fun _ => rfl⟩
  · exact .inr ⟨['r'], rfl, fun _ => rfl⟩
  · exact .inr ⟨['t'], rfl, fun _ => rfl⟩
  · next hquote hslash _ _ _ =>
    by_cases hback : c.toNat = 8
    · have hc : c = Char.ofNat 8 := by rw [← hback, Char.ofNat_toNat]
      exact .inr ⟨['b'], if_pos hback, fun _ => by rw [hc]; rfl⟩
    by_cases hfeed : c.toNat = 12
    · have hc : c = Char.ofNat 12 := by rw [← hfeed, Char.ofNat_toNat]
      exact .inr ⟨['f'], by rw [if_neg hback, if_pos hfeed], fun _ => by rw [hc]; rfl⟩
    rw [if_neg hback, if_neg hfeed]
    by_cases hcontrol : c.toNat < 32
    · rw [if_pos hcontrol]
      exact .inr ⟨_, rfl, scanEscape_control hcontrol⟩
    · exact .inl ⟨if_neg hcontrol, hquote, hslash, hcontrol⟩

theorem scanText_skip (code cs : List Char) :
    scanText code.length (code ++ cs) = scanText 0 cs := by
  induction code with
  | nil => rfl
  | cons c code ih => exact ih

theorem scanText_escapeChar (c : Char) (cs : List Char) :
    scanText 0 (Value.escapeChar c ++ cs) = (scanText 0 cs).map (Option.map (c :: ·)) := by
  rcases escapeChar_cases c with ⟨hplain, hquote, hslash, hcontrol⟩ | ⟨code, hescaped, hread⟩
  · rw [hplain, List.singleton_append, scanText, if_neg hquote, if_neg hslash, if_neg hcontrol]
  · rw [hescaped, List.cons_append, scanText, if_neg (by decide), if_pos rfl, hread cs]
    simp only [scanText_skip]

/-- A written text is read up to its closing quote. -/
theorem scanText_flatMap (s rest : List Char) :
    scanText 0 (s.flatMap Value.escapeChar ++ '"' :: rest) = .done (some s) rest := by
  induction s with
  | nil => rfl
  | cons c s ih => rw [List.flatMap_cons, List.append_assoc, scanText_escapeChar, ih]; rfl

/-! ## Integers -/

def Numeral.ofInteger (n : Int) : Numeral := ⟨decide (n < 0), Nat.toDigits 10 n.natAbs, [], none⟩

theorem Number.text_integer (n : Int) :
    (Number.integer n).text = (if n < 0 then ['-'] else []) ++ Nat.toDigits 10 n.natAbs := by
  rcases n with m | m
  · exact Nat.toList_repr
  · rw [text, if_pos (Int.negSucc_lt_zero m)]
    exact (String.toList_append).trans (congrArg (['-'] ++ ·) Nat.toList_repr)

theorem Numeral.value?_ofInteger {n : Int} (hlow : -(Word.signedBound : Int) ≤ n)
    (hhigh : n < Word.bound) : (Numeral.ofInteger n).value? = some (.integer n) := by
  have hinteger : (Numeral.ofInteger n).integer? = some n := by
    rw [integer?, if_pos ⟨rfl, rfl⟩]
    simp only [ofInteger, Decimal.value_toDigits]
    by_cases hneg : n < 0
    · rw [if_pos (by simpa using hneg), if_pos (by omega)]
      exact congrArg some (by omega)
    · rw [if_neg (by simpa using hneg), if_pos (by omega)]
      exact congrArg some (by omega)
  rw [value?, hinteger]

theorem head?_toDigits {n : Nat} (h : 0 < n) : (Nat.toDigits 10 n).head? ≠ some '0' := by
  induction n using Nat.strongRecOn with
  | ind n ih =>
    by_cases hsmall : n < 10
    · rw [Nat.toDigits_of_lt_base hsmall]
      interval_cases n <;> decide
    · have hhead := ih (n / 10) (by omega) (by omega)
      rw [Nat.toDigits_of_base_le (by decide) (by omega)]
      rwa [List.head?_append, Option.or_of_isSome (by simp)]

theorem exists_toDigits_eq_cons (n : Nat) :
    ∃ c cs, Nat.toDigits 10 n = c :: cs ∧ c.isDigit = true := by
  obtain ⟨c, cs, hdigits⟩ := List.exists_cons_of_ne_nil (l := Nat.toDigits 10 n) Nat.toDigits_ne_nil
  exact ⟨c, cs, hdigits, Nat.isDigit_of_mem_toDigits (by decide) (by decide)
    (hdigits ▸ List.mem_cons_self)⟩

theorem isSpace_eq_false_of_isDigit {c : Char} (h : c.isDigit = true) : isSpace c = false := by
  rw [Bool.eq_false_iff]
  intro hspace
  simp only [isSpace, Bool.or_eq_true, beq_iff_eq] at hspace
  rcases hspace with ((rfl | rfl) | rfl) | rfl <;> exact absurd h (by decide)

/-- What follows a written value: nothing, the next value, or the end of its container. -/
inductive Follows : List Char → Prop
  | nothing : Follows []
  | comma (cs : List Char) : Follows (',' :: cs)
  | newline (cs : List Char) : Follows ('\n' :: cs)

theorem scanDigits_append {digits rest : List Char} (hdigits : ∀ c ∈ digits, c.isDigit = true)
    (hne : digits ≠ []) (hrest : Follows rest) :
    scanDigits (digits ++ rest) = .done digits rest := by
  have htake : (digits ++ rest).takeWhile Char.isDigit = digits := by
    rw [List.takeWhile_append_of_pos hdigits]
    cases hrest <;> simp
  have hdrop : (digits ++ rest).dropWhile Char.isDigit = rest := by
    rw [List.dropWhile_append_of_pos hdigits]
    cases hrest <;> rfl
  rw [scanDigits, htake, hdrop]
  cases digits with
  | nil => exact absurd rfl hne
  | cons c digits => rfl

/-- The digits of an integer are read up to what follows it. -/
theorem scanNumeral_toDigits (negative : Bool) (n : Nat) {rest : List Char} (hrest : Follows rest) :
    scanNumeral negative (Nat.toDigits 10 n ++ rest) =
      .done ⟨negative, Nat.toDigits 10 n, [], none⟩ rest := by
  have hdigits : scanDigits (Nat.toDigits 10 n ++ rest) = .done (Nat.toDigits 10 n) rest :=
    scanDigits_append (fun c => Nat.isDigit_of_mem_toDigits (by decide) (by decide))
      Nat.toDigits_ne_nil hrest
  have hwhole : scanWhole (Nat.toDigits 10 n ++ rest) = .done (Nat.toDigits 10 n) rest := by
    rw [scanWhole, hdigits]
    split
    · next hzero =>
      -- A zero before another digit is the first digit of no number.
      have hn : n ≠ 0 := by
        rintro rfl
        simp at hzero
      have hhead := head?_toDigits (Nat.pos_of_ne_zero hn)
      simp [(Scanned.done.inj hzero).1] at hhead
    · rfl
  rw [scanNumeral, hwhole]
  cases hrest <;> rfl

end AbapNaming.Json

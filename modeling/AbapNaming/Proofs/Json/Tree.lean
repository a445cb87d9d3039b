import AbapNaming.Json.Reader
import AbapNaming.Proofs.Json.Token

/-! # The tree of a written value

A value whose numbers are integers of 64 bits is read as the tree that has its shape. The text of
a value is long enough to be its own fuel.
-/

namespace AbapNaming.Json

namespace Value

/-- All numbers in the value are integers that 64 bits hold. -/
inductive Integral : Value → Prop
  | null : Integral .null
  | bool (b : Bool) : Integral (.bool b)
  | number {n : Int} (hlow : -(Word.signedBound : Int) ≤ n) (hhigh : n < Word.bound) :
    Integral (.number (.integer n))
  | text (s : String) : Integral (.text s)
  | array {items : List Value} (h : ∀ v ∈ items, v.Integral) : Integral (.array items)
  | object {members : List (String × Value)} (h : ∀ m ∈ members, m.2.Integral) :
    Integral (.object members)

mutual

/-- The tree of a value's text. A double has none here. -/
def node : Value → Node
  | .null => .null
  | .bool b => .bool b
  | .number (.integer n) => .number (Numeral.ofInteger n)
  | .number (.double _) => .broken .malformed
  | .text s => .text (some s)
  | .array items => .array (itemNodes items) none
  | .object members => .object (memberNodes members) none

def itemNodes : List Value → List Node
  | [] => []
  | v :: vs => node v :: itemNodes vs

def memberNodes : List (String × Value) → List (TextToken × Node)
  | [] => []
  | (k, v) :: ms => (some k, node v) :: memberNodes ms

end

/-- The text of a value starts with what is no white space and closes no array. -/
theorem exists_chars_eq_cons {v : Value} (h : v.Integral) (depth : Nat) :
    ∃ c cs, chars depth v = c :: cs ∧ isSpace c = false ∧ c ≠ ']' := by
  cases h with
  | null => exact ⟨_, _, rfl, by decide, by decide⟩
  | bool b => cases b <;> exact ⟨_, _, rfl, by decide, by decide⟩
  | @number n =>
    rw [chars, Number.text_integer]
    by_cases hneg : n < 0
    · rw [if_pos hneg]
      exact ⟨_, _, rfl, by decide, by decide⟩
    · rw [if_neg hneg, List.nil_append]
      obtain ⟨c, cs, hdigits, hc⟩ := exists_toDigits_eq_cons n.natAbs
      refine ⟨c, cs, hdigits, isSpace_eq_false_of_isDigit hc, ?_⟩
      rintro rfl
      exact absurd hc (by decide)
  | text s => exact ⟨_, _, rfl, by decide, by decide⟩
  | @array items =>
    cases items <;> exact ⟨_, _, rfl, by decide, by decide⟩
  | @object members =>
    cases members <;> exact ⟨_, _, rfl, by decide, by decide⟩

end Value

/-! ## One step of the reader -/

theorem skipSpace_append {blank : List Char} (h : ∀ c ∈ blank, isSpace c = true) (cs : List Char) :
    skipSpace (blank ++ cs) = skipSpace cs :=
  List.dropWhile_append_of_pos h

theorem skipSpace_cons {c : Char} (h : isSpace c = false) (cs : List Char) :
    skipSpace (c :: cs) = c :: cs :=
  List.dropWhile_cons_of_neg (by simp [h])

theorem isSpace_of_mem_newline {depth : Nat} {c : Char} (h : c ∈ Value.newline depth) :
    isSpace c = true := by
  rcases List.mem_cons.mp h with rfl | h
  · rfl
  · rw [List.eq_of_mem_replicate h]
    rfl

theorem readNode_append (fuel : Nat) {blank : List Char} (h : ∀ c ∈ blank, isSpace c = true)
    (cs : List Char) : readNode fuel (blank ++ cs) = readNode fuel cs := by
  cases fuel with
  | zero => rfl
  | succ fuel => rw [readNode, readNode, skipSpace_append h]

theorem readNode_digit {c : Char} (h : c.isDigit = true) (fuel : Nat) (cs : List Char) :
    readNode (fuel + 1) (c :: cs) = (scanNumeral false (c :: cs)).node .number := by
  rw [readNode, skipSpace_cons (isSpace_eq_false_of_isDigit h)]
  simp only
  split
  case h_8 => rw [if_pos h]
  all_goals exact absurd h (by decide)

theorem readNode_integer (n : Int) (fuel : Nat) {rest : List Char} (hrest : Follows rest) :
    readNode (fuel + 1) ((Number.integer n).text ++ rest) = (.number (.ofInteger n), rest) := by
  rw [Number.text_integer, Numeral.ofInteger]
  by_cases hneg : n < 0
  · have hscan := scanNumeral_toDigits true n.natAbs hrest
    rw [if_pos hneg, decide_eq_true hneg, List.singleton_append, List.cons_append]
    exact congrArg (Scanned.node .number) hscan
  · have hscan := scanNumeral_toDigits false n.natAbs hrest
    rw [if_neg hneg, decide_eq_false hneg, List.nil_append]
    obtain ⟨c, cs, hdigits, hc⟩ := exists_toDigits_eq_cons n.natAbs
    rw [hdigits, List.cons_append] at hscan ⊢
    rw [readNode_digit hc, hscan]
    rfl

theorem scanText_textChars (s : String) (rest : List Char) :
    ∃ cs, Value.textChars s ++ rest = '"' :: cs ∧ scanText 0 cs = .done (some s.toList) rest :=
  ⟨s.toList.flatMap Value.escapeChar ++ '"' :: rest, by simp [Value.textChars],
    scanText_flatMap s.toList rest⟩

theorem readNode_text (s : String) (fuel : Nat) (rest : List Char) :
    readNode (fuel + 1) (Value.textChars s ++ rest) = (.text (some s), rest) := by
  obtain ⟨cs, htext, hscan⟩ := scanText_textChars s rest
  have hnode : readNode (fuel + 1) ('"' :: cs) =
    (scanText 0 cs).node fun s => .text (s.map String.ofList) := rfl
  rw [htext, hnode, hscan, Scanned.node, Option.map_some, String.ofList_toList]

section

variable {fuel : Nat} {c : Char} {cs first rest rest' : List Char} {defect : Option Defect}

theorem readNode_array {item : Node} {items : List Node} (hfirst : skipSpace cs = c :: first)
    (hc : c ≠ ']') (hitem : readNode fuel (c :: first) = (item, rest))
    (hitems : readItems fuel rest = (items, defect, rest')) :
    readNode (fuel + 1) ('[' :: cs) = (.array (item :: items) defect, rest') := by
  rw [readNode, skipSpace_cons (by decide)]
  simp only [hfirst]
  split
  · next hnil => cases hnil
  · next hclosed => exact absurd (List.cons.inj hclosed).1 hc
  · rw [hitem]
    simp only [hitems]

theorem readNode_object {members : List (TextToken × Node)} (hfirst : skipSpace cs = c :: first)
    (hc : c ≠ '}') (hmember : readMember fuel (c :: first) = (members, defect, rest)) :
    readNode (fuel + 1) ('{' :: cs) = (.object members defect, rest) := by
  rw [readNode, skipSpace_cons (by decide)]
  simp only [hfirst]
  split
  · next hnil => cases hnil
  · next hclosed => exact absurd (List.cons.inj hclosed).1 hc
  · rw [hmember]

theorem readItems_comma {item : Node} {items : List Node} (hitem : readNode fuel cs = (item, rest))
    (hitems : readItems fuel rest = (items, defect, rest')) :
    readItems (fuel + 1) (',' :: cs) = (item :: items, defect, rest') := by
  rw [readItems, skipSpace_cons (by decide)]
  simp only [hitem, hitems]

theorem readMember_colon {k : String} {value : Node} {members : List (TextToken × Node)}
    (hvalue : readNode fuel cs = (value, rest))
    (hmembers : readMembers fuel rest = (members, defect, rest')) :
    readMember (fuel + 1) (Value.textChars k ++ ':' :: cs) =
      ((some k, value) :: members, defect, rest') := by
  obtain ⟨text, htext, hscan⟩ := scanText_textChars k (':' :: cs)
  rw [htext, readMember]
  simp only [hscan, skipSpace_cons (c := ':') (by decide), hvalue, hmembers, Option.map_some,
    String.ofList_toList]

theorem readMembers_comma {members : List (TextToken × Node)}
    (hmember : readMember fuel (skipSpace cs) = (members, defect, rest)) :
    readMembers (fuel + 1) (',' :: cs) = (members, defect, rest) := by
  rw [readMembers, skipSpace_cons (by decide)]
  exact hmember

end

/-! ## The whole text -/

namespace Value

/-- With as much fuel as it has characters, the text of the value is read up to its end. -/
def ReadsBack (v : Value) : Prop :=
  ∀ (depth : Nat) {fuel : Nat} {rest : List Char}, (v.chars depth).length ≤ fuel → Follows rest →
    readNode fuel (v.chars depth ++ rest) = (v.node, rest)

theorem follows_itemChars (depth outer : Nat) (vs : List Value) (rest : List Char) :
    Follows (itemChars depth vs ++ (newline outer ++ rest)) := by
  cases vs with
  | nil => exact .newline _
  | cons v vs => exact .comma _

theorem follows_memberChars (depth outer : Nat) (ms : List (String × Value)) (rest : List Char) :
    Follows (memberChars depth ms ++ (newline outer ++ rest)) := by
  cases ms with
  | nil => exact .newline _
  | cons m ms => exact .comma _

theorem skipSpace_newline (depth : Nat) (cs : List Char) :
    skipSpace (newline depth ++ cs) = skipSpace cs :=
  skipSpace_append (fun _ => isSpace_of_mem_newline) cs

theorem readNode_newline (fuel depth : Nat) (cs : List Char) :
    readNode fuel (newline depth ++ cs) = readNode fuel cs :=
  readNode_append fuel (fun _ => isSpace_of_mem_newline) cs

theorem readItems_itemChars {vs : List Value} (h : ∀ v ∈ vs, v.ReadsBack) (depth outer : Nat)
    {fuel : Nat} (rest : List Char) (hfuel : (itemChars depth vs).length < fuel) :
    readItems fuel (itemChars depth vs ++ (newline outer ++ ']' :: rest)) =
      (itemNodes vs, none, rest) := by
  induction vs generalizing fuel with
  | nil =>
    obtain ⟨fuel, rfl⟩ := Nat.exists_eq_add_of_lt hfuel
    rw [itemChars, List.nil_append, readItems, skipSpace_newline, skipSpace_cons (by decide)]
    rfl
  | cons v vs ih =>
    obtain ⟨fuel, rfl⟩ : ∃ f, fuel = f + 1 := Nat.exists_eq_add_one.mpr (Nat.zero_lt_of_lt hfuel)
    simp only [itemChars, List.cons_append, List.append_assoc, List.length_cons,
      List.length_append] at hfuel ⊢
    refine readItems_comma ?_ (ih (fun v hv => h v (List.mem_cons_of_mem _ hv)) (by omega))
    rw [readNode_newline]
    exact h v List.mem_cons_self depth (by omega) (follows_itemChars depth outer vs _)

theorem readMember_chars {k : String} {v : Value} {ms : List (String × Value)} (hv : v.ReadsBack)
    (depth : Nat) {fuel : Nat} {rest tail : List Char}
    (hrest : Follows (memberChars depth ms ++ rest))
    (hmembers : readMembers fuel (memberChars depth ms ++ rest) = (memberNodes ms, none, tail))
    (hfuel : (v.chars depth).length ≤ fuel) :
    readMember (fuel + 1)
        (textChars k ++ (':' :: ' ' :: (v.chars depth ++ (memberChars depth ms ++ rest)))) =
      (memberNodes ((k, v) :: ms), none, tail) := by
  refine readMember_colon ?_ hmembers
  have hblank : ∀ c ∈ [' '], isSpace c = true := List.forall_mem_singleton.mpr rfl
  exact (readNode_append fuel hblank _).trans (hv depth hfuel hrest)

theorem skipSpace_textChars (k : String) (cs : List Char) :
    skipSpace (textChars k ++ cs) = textChars k ++ cs :=
  skipSpace_cons (by decide) _

theorem readMembers_memberChars {ms : List (String × Value)} (h : ∀ m ∈ ms, m.2.ReadsBack)
    (depth outer : Nat) {fuel : Nat} (rest : List Char)
    (hfuel : (memberChars depth ms).length < fuel) :
    readMembers fuel (memberChars depth ms ++ (newline outer ++ '}' :: rest)) =
      (memberNodes ms, none, rest) := by
  induction ms generalizing fuel with
  | nil =>
    obtain ⟨fuel, rfl⟩ := Nat.exists_eq_add_of_lt hfuel
    rw [memberChars, List.nil_append, readMembers, skipSpace_newline, skipSpace_cons (by decide)]
    rfl
  | cons m ms ih =>
    obtain ⟨k, v⟩ := m
    simp only [memberChars, List.cons_append, List.append_assoc, List.length_cons,
      List.length_append] at hfuel ⊢
    obtain ⟨fuel, rfl⟩ : ∃ f, fuel = f + 1 + 1 := ⟨fuel - 2, by omega⟩
    have hmembers : readMembers fuel _ = _ :=
      ih (fun m hm => h m (List.mem_cons_of_mem _ hm)) (by omega)
    refine readMembers_comma ?_
    rw [skipSpace_newline, skipSpace_textChars]
    have hv : v.ReadsBack := h (k, v) List.mem_cons_self
    exact readMember_chars hv depth (follows_memberChars depth outer ms _) hmembers (by omega)

/-- The fuel is never empty, since no text is. -/
theorem readsBack_of_succ {v : Value} (hv : v.Integral)
    (h : ∀ depth fuel rest, (v.chars depth).length ≤ fuel + 1 → Follows rest →
      readNode (fuel + 1) (v.chars depth ++ rest) = (v.node, rest)) : v.ReadsBack := by
  intro depth fuel rest hfuel hrest
  obtain ⟨c, cs, hchars, -, -⟩ := exists_chars_eq_cons hv depth
  cases fuel with
  | zero =>
    rw [hchars] at hfuel
    exact absurd hfuel (Nat.not_succ_le_zero _)
  | succ fuel => exact h depth fuel rest hfuel hrest

theorem readsBack_array {items : List Value} (h : ∀ v ∈ items, v.Integral)
    (ih : ∀ v ∈ items, v.ReadsBack) : (array items).ReadsBack := by
  refine readsBack_of_succ (.array h) fun depth fuel rest hfuel _ => ?_
  cases items with
  | nil => rfl
  | cons v vs =>
    simp only [chars, List.cons_append, List.append_assoc, List.nil_append, List.length_cons,
      List.length_append] at hfuel ⊢
    obtain ⟨c, cs, hchars, hspace, hc⟩ := exists_chars_eq_cons (h v List.mem_cons_self) (depth + 1)
    have hv : readNode fuel _ = _ := ih v List.mem_cons_self (depth + 1) (by omega)
      (follows_itemChars (depth + 1) depth vs (']' :: rest))
    have hitems : readItems fuel _ = _ :=
      readItems_itemChars (fun v hv => ih v (List.mem_cons_of_mem _ hv)) (depth + 1) depth rest
        (by omega)
    rw [hchars] at hv ⊢
    refine readNode_array ?_ hc hv hitems
    rw [skipSpace_newline]
    exact skipSpace_cons hspace _

theorem readsBack_object {members : List (String × Value)} (h : ∀ m ∈ members, m.2.Integral)
    (ih : ∀ m ∈ members, m.2.ReadsBack) : (object members).ReadsBack := by
  refine readsBack_of_succ (.object h) fun depth fuel rest hfuel _ => ?_
  cases members with
  | nil => rfl
  | cons m ms =>
    obtain ⟨k, v⟩ := m
    simp only [chars, List.cons_append, List.append_assoc, List.nil_append, List.length_cons,
      List.length_append] at hfuel ⊢
    obtain ⟨fuel, rfl⟩ : ∃ f, fuel = f + 1 := ⟨fuel - 1, by omega⟩
    have hv : v.ReadsBack := ih (k, v) List.mem_cons_self
    have hmembers : readMembers fuel _ = _ :=
      readMembers_memberChars (fun m hm => ih m (List.mem_cons_of_mem _ hm)) (depth + 1) depth rest
        (by omega)
    refine readNode_object ?_ (by decide) (readMember_chars hv (depth + 1)
      (follows_memberChars (depth + 1) depth ms ('}' :: rest)) hmembers (by omega))
    rw [skipSpace_newline]
    exact skipSpace_textChars k _

/-- A value without doubles is read back from its text, whatever follows it. -/
theorem readsBack_of_integral {v : Value} (h : v.Integral) : v.ReadsBack := by
  induction h with
  | null => exact readsBack_of_succ .null fun _ _ _ _ _ => rfl
  | bool b => exact readsBack_of_succ (.bool b) fun _ _ _ _ _ => by cases b <;> rfl
  | number hlow hhigh =>
    exact readsBack_of_succ (.number hlow hhigh) fun _ fuel _ _ hrest =>
      readNode_integer _ fuel hrest
  | text s => exact readsBack_of_succ (.text s) fun _ fuel rest _ _ => readNode_text s fuel rest
  | array h ih => exact readsBack_array h ih
  | object h ih => exact readsBack_object h ih

end Value

theorem Document.ofText_chars {v : Value} (h : v.Integral) :
    Document.ofText (v.chars 0) = ⟨v.node, false⟩ := by
  have hfuel : (v.chars 0).length ≤ 2 * (v.chars 0).length + 2 := by omega
  have hread := Value.readsBack_of_integral h 0 hfuel .nothing
  rw [List.append_nil] at hread
  rw [ofText, hread]
  rfl

end AbapNaming.Json

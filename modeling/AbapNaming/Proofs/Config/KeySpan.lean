import Mathlib.Data.List.TakeWhile
import Mathlib.Data.String.Basic
import AbapNaming.Config.Format

/-! # The place of a key

A key is found in the first line that has it at its front, before an equals sign, and the bytes of
its span are its own. The indentation of a line is all of the white space before its first other
character, so a key that begins with white space is never found, not even where a line begins
with it.
-/

namespace AbapNaming

/-! ## Spans in bytes -/

theorem Text.utf8Length_eq_utf8ByteSize (cs : List Char) :
    Text.utf8Length cs = (String.ofList cs).utf8ByteSize := by
  rw [String.utf8ByteSize_ofList]
  induction cs with
  | nil => rfl
  | cons c cs ih => rw [Text.utf8Length, ih, String.utf8Len_cons, Nat.add_comm]

/-- The span lies within the text, it begins and ends between two characters, and its bytes are
those of the key. -/
structure Span.Covers (s : Span) (text key : String) : Prop where
  begins : (String.Pos.Raw.mk s.offset).IsValid text
  ends : (String.Pos.Raw.mk (s.offset + s.length)).IsValid text
  bytes_eq : text.toByteArray.extract s.offset (s.offset + s.length) = key.toByteArray

theorem Span.covers_of_eq_append {text front key back : String} (h : text = front ++ key ++ back) :
    (Span.mk front.utf8ByteSize key.utf8ByteSize).Covers text key where
  begins := String.Pos.Raw.isValid_iff_exists_append.mpr
    ⟨front, key ++ back, by rw [h, String.append_assoc], rfl⟩
  ends := String.Pos.Raw.isValid_iff_exists_append.mpr
    ⟨front ++ key, back, h, by rw [String.rawEndPos, String.utf8ByteSize_append]⟩
  bytes_eq := by
    have hfront : front.utf8ByteSize = front.toByteArray.size := String.size_toByteArray.symm
    have hkey : key.utf8ByteSize = key.toByteArray.size := String.size_toByteArray.symm
    calc text.toByteArray.extract front.utf8ByteSize (front.utf8ByteSize + key.utf8ByteSize)
        = (front.toByteArray ++ (key.toByteArray ++ back.toByteArray)).extract
            (front.utf8ByteSize + 0) (front.utf8ByteSize + key.utf8ByteSize) := by
          rw [h, String.append_assoc, String.toByteArray_append, String.toByteArray_append,
            Nat.add_zero]
      _ = (key.toByteArray ++ back.toByteArray).extract 0 key.utf8ByteSize :=
          ByteArray.extract_append_size_add' hfront
      _ = key.toByteArray := ByteArray.extract_append_eq_left hkey

/-! ## Lines -/

/-- The text is cut behind each of its line ends, and nowhere else. -/
structure IsLines (ls : List (List Char)) (cs : List Char) : Prop where
  flatten_eq : ls.flatten = cs
  whole : ∀ l ∈ ls, l ≠ [] ∧ '\n' ∉ l.dropLast
  ended : ∀ l ∈ ls.dropLast, l.getLast? = some '\n'

namespace IsLines

theorem singleton (c : Char) : IsLines [[c]] [c] :=
  ⟨rfl, by simp, nofun⟩

theorem cons_end {ls : List (List Char)} {cs : List Char} (h : IsLines ls cs) :
    IsLines (['\n'] :: ls) ('\n' :: cs) where
  flatten_eq := by rw [List.flatten_cons, h.flatten_eq, List.singleton_append]
  whole := by simpa using h.whole
  ended := by
    cases ls with
    | nil => nofun
    | cons l ls => simpa using h.ended

theorem cons {l : List Char} {ls : List (List Char)} {cs : List Char} {c : Char}
    (h : IsLines (l :: ls) cs) (hc : c ≠ '\n') : IsLines ((c :: l) :: ls) (c :: cs) := by
  have hl : l ≠ [] := (h.whole l List.mem_cons_self).1
  refine ⟨by rw [← h.flatten_eq]; rfl, ?_, ?_⟩
  · simpa [List.dropLast_cons_of_ne_nil hl, hc.symm, hl] using h.whole
  · cases ls with
    | nil => nofun
    | cons l' ls => simpa [List.getLast?_cons_of_ne_nil hl] using h.ended

end IsLines

theorem isLines_lines (cs : List Char) : IsLines (lines cs) cs := by
  induction cs with
  | nil => exact ⟨rfl, nofun, nofun⟩
  | cons c cs ih =>
    rw [lines]
    split_ifs with hc
    · subst hc
      exact ih.cons_end
    · cases hls : lines cs with
      | nil =>
        have hcs : cs = [] := by rw [← ih.flatten_eq, hls, List.flatten_nil]
        rw [hcs]
        exact .singleton c
      | cons l ls =>
        rw [hls] at ih
        exact ih.cons hc

/-! ## Assignments -/

/-- The line has the key behind this indentation, and behind the key an equals sign, perhaps with
white space before it. -/
structure AssignsBehind (indent key line : List Char) : Prop where
  blank : ∀ c ∈ indent, Text.isBlank c = true
  line_eq : ∃ gap back, line = indent ++ (key ++ (gap ++ '=' :: back)) ∧
    ∀ c ∈ gap, Text.isBlank c = true

/-- The key is assigned to on this line. -/
def IsAssignment (key line : List Char) : Prop :=
  ∃ indent, AssignsBehind indent key line

theorem assigns_iff_assignsBehind (key line : List Char) :
    assigns key line = true ↔ AssignsBehind (line.takeWhile Text.isBlank) key line := by
  have hline : line.takeWhile Text.isBlank ++ Text.trimStart line = line :=
    List.takeWhile_append_dropWhile
  rw [assigns, Bool.and_eq_true, List.isPrefixOf_iff_prefix, List.isPrefixOf_iff_prefix]
  constructor
  · rintro ⟨⟨rest, hrest⟩, back, hback⟩
    rw [← hrest, List.drop_left] at hback
    refine ⟨fun c => List.mem_takeWhile_imp, rest.takeWhile Text.isBlank, back, ?_,
      fun c => List.mem_takeWhile_imp⟩
    calc line = line.takeWhile Text.isBlank ++ (key ++ rest) := by rw [hrest, hline]
      _ = line.takeWhile Text.isBlank ++
          (key ++ (rest.takeWhile Text.isBlank ++ Text.trimStart rest)) := by
        rw [Text.trimStart, List.takeWhile_append_dropWhile]
      _ = _ := by rw [← hback, List.singleton_append]
  · rintro ⟨-, gap, back, heq, hgap⟩
    have htrim : Text.trimStart line = key ++ (gap ++ '=' :: back) :=
      List.append_cancel_left (hline.trans heq)
    rw [htrim, List.drop_left, Text.trimStart, List.dropWhile_append_of_pos hgap]
    exact ⟨List.prefix_append .., back, rfl⟩

/-- A key is seen on each line that assigns to it, unless it begins with white space. -/
theorem assigns_iff (key line : List Char) :
    assigns key line = true ↔
      IsAssignment key line ∧ ∀ c ∈ key.head?, Text.isBlank c = false := by
  rw [assigns_iff_assignsBehind]
  constructor
  · intro h
    refine ⟨⟨_, h⟩, fun c hc => ?_⟩
    obtain ⟨gap, back, hline, -⟩ := h.line_eq
    have hrest : line.dropWhile Text.isBlank = key ++ (gap ++ '=' :: back) :=
      List.append_cancel_left (List.takeWhile_append_dropWhile.trans hline)
    have hstop := List.head?_dropWhile_not Text.isBlank line
    rw [hrest, List.head?_append, hc] at hstop
    simpa using hstop
  · rintro ⟨⟨indent, hblank, gap, back, rfl, hgap⟩, hkey⟩
    refine ⟨fun c => List.mem_takeWhile_imp, ?_⟩
    rw [List.takeWhile_append_of_pos hblank]
    cases key with
    | nil =>
      -- without a key there is nothing to tell the indentation from the gap
      refine ⟨[], back, ?_, nofun⟩
      rw [List.nil_append, List.takeWhile_append_of_pos hgap]
      simp [Text.isBlank]
    | cons c key =>
      refine ⟨gap, back, ?_, hgap⟩
      rw [List.cons_append, List.takeWhile_cons_of_neg (by simp [hkey c rfl]), List.append_nil]

theorem not_isAssignment {key line : List Char} (h : assigns key line = false)
    (hkey : ∀ c ∈ key.head?, Text.isBlank c = false) : ¬ IsAssignment key line := by
  intro hassigns
  rw [(assigns_iff key line).mpr ⟨hassigns, hkey⟩] at h
  cases h

/-! ## The search -/

theorem findKeyFrom_append {key : List Char} {before : List (List Char)}
    (h : ∀ l ∈ before, assigns key l = false) (offset : Nat) (rest : List (List Char)) :
    findKeyFrom key offset (before ++ rest) =
      findKeyFrom key (offset + Text.utf8Length before.flatten) rest := by
  induction before generalizing offset with
  | nil => rfl
  | cons l before ih =>
    rw [List.forall_mem_cons] at h
    rw [List.cons_append, findKeyFrom, if_neg (by simp [h.1]), ih h.2, List.flatten_cons,
      Text.utf8Length_append, Nat.add_assoc]

theorem findKeyFrom_eq_none {key : List Char} {ls : List (List Char)}
    (h : ∀ l ∈ ls, assigns key l = false) (offset : Nat) : findKeyFrom key offset ls = none := by
  rw [← List.append_nil ls, findKeyFrom_append h, findKeyFrom]

/-- The span is that of a key on the first line which assigns to it. -/
def Span.IsFirst (s : Span) (text key : String) : Prop :=
  ∃ before line after indent, lines text.toList = before ++ line :: after ∧
    (∀ l ∈ before, ¬ IsAssignment key.toList l) ∧ AssignsBehind indent key.toList line ∧
    s.offset = Text.utf8Length (before.flatten ++ indent)

theorem findKey_cases (text key : String) :
    (findKey text key = none ∧ ∀ l ∈ lines text.toList, assigns key.toList l = false) ∨
    ∃ before line after, lines text.toList = before ++ line :: after ∧
      (∀ l ∈ before, assigns key.toList l = false) ∧ assigns key.toList line = true ∧
      findKey text key = some ⟨Text.utf8Length (before.flatten ++ line.takeWhile Text.isBlank),
        Text.utf8Length key.toList⟩ := by
  cases hfind : (lines text.toList).find? (assigns key.toList) with
  | none =>
    have hnone : ∀ l ∈ lines text.toList, assigns key.toList l = false := by
      simpa using List.find?_eq_none.mp hfind
    exact .inl ⟨findKeyFrom_eq_none hnone 0, hnone⟩
  | some line =>
    obtain ⟨hline, before, after, hlines, hbefore⟩ := List.find?_eq_some_iff_append.mp hfind
    have hbefore : ∀ l ∈ before, assigns key.toList l = false := by simpa using hbefore
    refine .inr ⟨before, line, after, hlines, hbefore, hline, ?_⟩
    rw [findKey, hlines, findKeyFrom_append hbefore, findKeyFrom, if_pos hline, Nat.zero_add,
      Text.utf8Length_append]

theorem Span.covers_of_line {text key : String} {before after : List (List Char)}
    {line indent : List Char} (hlines : lines text.toList = before ++ line :: after)
    (hline : AssignsBehind indent key.toList line) :
    (Span.mk (Text.utf8Length (before.flatten ++ indent)) (Text.utf8Length key.toList)).Covers
      text key := by
  obtain ⟨gap, back, rfl, -⟩ := hline.line_eq
  have htext : text.toList = before.flatten ++ indent ++ key.toList ++
      (gap ++ '=' :: back ++ after.flatten) := by
    rw [← (isLines_lines text.toList).flatten_eq, hlines, List.flatten_append, List.flatten_cons]
    simp only [List.append_assoc]
  rw [Text.utf8Length_eq_utf8ByteSize, Text.utf8Length_eq_utf8ByteSize, String.ofList_toList]
  have hparts : text = String.ofList (before.flatten ++ indent) ++ key ++
      String.ofList (gap ++ '=' :: back ++ after.flatten) := by
    rw [← String.toList_inj, htext]
    simp
  exact covers_of_eq_append hparts

/-- A span that is found covers the key on the first line that assigns to it. Nothing is found
where no line assigns to the key, and where the key itself begins with white space. -/
theorem findKey_spec (text key : String) :
    IsLines (lines text.toList) text.toList ∧
    (∀ s, findKey text key = some s → s.Covers text key ∧ s.IsFirst text key) ∧
    (findKey text key = none ↔
      (∃ c ∈ key.toList.head?, Text.isBlank c = true) ∨
        ∀ l ∈ lines text.toList, ¬ IsAssignment key.toList l) := by
  refine ⟨isLines_lines _, ?_⟩
  obtain ⟨hnone, hall⟩ | ⟨before, line, after, hlines, hbefore, hline, hsome⟩ :=
    findKey_cases text key
  · refine ⟨fun s hs => by simp [hnone] at hs, iff_of_true hnone ?_⟩
    by_cases hkey : ∃ c ∈ key.toList.head?, Text.isBlank c = true
    · exact .inl hkey
    · exact .inr fun l hl => not_isAssignment (hall l hl) (by simpa using hkey)
  · obtain ⟨hassigns, hkey⟩ := (assigns_iff _ line).mp hline
    have hbehind := (assigns_iff_assignsBehind _ line).mp hline
    refine ⟨fun s hs => ?_, iff_of_false (by simp [hsome]) ?_⟩
    · rw [hsome, Option.some.injEq] at hs
      subst hs
      exact ⟨Span.covers_of_line hlines hbehind, before, line, after, _, hlines,
        fun l hl => not_isAssignment (hbefore l hl) hkey, hbehind, rfl⟩
    · rintro (⟨c, hc, hblank⟩ | hnone)
      · rw [hkey c hc] at hblank
        cases hblank
      · exact hnone line (by simp [hlines]) hassigns

theorem findKey_spec_indented :
    let text := "[naming]\nmax_length = 30\n  trim_length = 27\n"
    findKey text "trim_length" = some ⟨27, 11⟩ ∧
    (Span.mk 27 11).Covers text "trim_length" ∧ (Span.mk 27 11).IsFirst text "trim_length" := by
  intro text
  have hfound : findKey text "trim_length" = some ⟨27, 11⟩ := by decide +kernel
  exact ⟨hfound, (findKey_spec text "trim_length").2.1 _ hfound⟩

/-- The last line begins with the key, and an equals sign is behind it. To the search it is the
indentation and the key of another assignment, so the problem with the key has no place. -/
theorem findKey_blankInFront :
    let text := "[naming.reserved_mappings]\n\" a\" = ''\n a = 'b'\n"
    Config.ofToml text = .error (.invalid (.emptyReplacement " a") none) ∧
    ¬ (findKey text " a" = none ↔ ∀ l ∈ lines text.toList, ¬ IsAssignment " a".toList l) := by
  intro text
  let c : Config := { naming := { replacements := [(" a", ""), ("a", "b")] } }
  have hread : (Toml.parse text).bind Config.ofEntries? = some c := by decide +kernel
  have hsorted : sortedByKey c.naming.replacements = c.naming.replacements :=
    List.mergeSort_of_pairwise (by decide +kernel)
  have hproblem : c.naming.problem? = .ok (some (.emptyReplacement " a")) := by
    rw [NamingSettings.problem?, hsorted]
    decide +kernel
  have hunfound : findKey text " a" = none := by decide +kernel
  have hline : " a = 'b'\n".toList ∈ lines text.toList := by decide +kernel
  refine ⟨?_, fun h => h.mp hunfound _ hline ⟨[], nofun, [' '], " 'b'\n".toList, rfl, ?_⟩⟩
  · simp only [Config.ofToml, hread, hproblem, Problem.span?, Problem.keys, List.findSome?_cons,
      hunfound, List.findSome?_nil]
  · simp [Text.isBlank]

end AbapNaming

import Mathlib.Data.List.Basic
import AbapNaming.PathTemplate
import AbapNaming.Text.Utf8

/-! # What a path template is made of

A template is a lead and then slots: a pair of braces, the text between them and the text behind.
Its own texts have no braces. Texts that are put into the slots may have some, so a layout alone
says nothing about its texts.
-/

namespace AbapNaming.PathTemplate

/-- No brace stands in the text. -/
def IsPlain (cs : List Char) : Prop := openBrace ∉ cs ∧ closeBrace ∉ cs

instance (cs : List Char) : Decidable (IsPlain cs) := inferInstanceAs (Decidable (_ ∧ _))

/-- The text between two braces and the one behind them. -/
structure Slot where
  inside : List Char
  after : List Char
deriving DecidableEq, Repr

namespace Slot

def render (s : Slot) : List Char := openBrace :: (s.inside ++ closeBrace :: s.after)

def renderSpaced (s : Slot) : List Char :=
  openBrace :: ' ' :: (s.inside ++ ' ' :: closeBrace :: s.after)

def token (s : Slot) : String := String.ofList s.inside

end Slot

structure Layout where
  lead : List Char
  slots : List Slot
deriving DecidableEq, Repr

namespace Layout

def render (l : Layout) : List Char := l.lead ++ l.slots.flatMap Slot.render

def renderSpaced (l : Layout) : List Char := l.lead ++ l.slots.flatMap Slot.renderSpaced

def map (f : List Char → List Char) (l : Layout) : Layout :=
  ⟨f l.lead, l.slots.map fun s => ⟨f s.inside, f s.after⟩⟩

/-- Changes the texts between braces. -/
def fill (f : String → String) (l : Layout) : Layout :=
  ⟨l.lead, l.slots.map fun s => ⟨(f s.token).toList, s.after⟩⟩

/-- The distinct texts between braces, in the order in which they first occur. -/
def tokens (l : Layout) : List String := (l.slots.map Slot.token).eraseDups

/-- The texts between braces, each with the number of bytes in front of its opening brace. -/
def found (l : Layout) : List Placeholder :=
  l.slots.mapIdx fun i s =>
    ⟨s.token, Text.utf8Length (l.lead ++ (l.slots.take i).flatMap Slot.render)⟩

theorem length_found (l : Layout) : l.found.length = l.slots.length := by
  simp [found]

theorem map_map (f g : List Char → List Char) (l : Layout) :
    (l.map f).map g = l.map fun cs => g (f cs) := by
  simp only [map, List.map_map, Function.comp_def]

theorem map_id (l : Layout) : l.map (fun cs => cs) = l := by
  simp [map]

end Layout

/-- A layout whose texts have no braces and whose slots are not empty. -/
structure Template extends Layout where
  lead_plain : IsPlain lead := by decide
  inside_plain : ∀ s ∈ slots, IsPlain s.inside := by decide
  inside_ne_nil : ∀ s ∈ slots, s.inside ≠ [] := by decide
  after_plain : ∀ s ∈ slots, IsPlain s.after := by decide

def Template.path (t : Template) : String := String.ofList t.render

theorem isPlain_cons {c : Char} {cs : List Char} :
    IsPlain (c :: cs) ↔ c ≠ openBrace ∧ c ≠ closeBrace ∧ IsPlain cs := by
  simp only [IsPlain, List.mem_cons, not_or, ne_eq, eq_comm]
  tauto

theorem scanFrom_outside {cs : List Char} (h : IsPlain cs) (pos : Nat) (rest : List Char) :
    scanFrom pos none (cs ++ rest) = scanFrom (pos + Text.utf8Length cs) none rest := by
  induction cs generalizing pos with
  | nil => rfl
  | cons c cs ih =>
    obtain ⟨hopen, hclose, hplain⟩ := isPlain_cons.mp h
    rw [List.cons_append, scanFrom, if_neg hopen, if_neg hclose, ih hplain, Text.utf8Length,
      Nat.add_assoc]

theorem scanFrom_inside {cs : List Char} (h : IsPlain cs) (pos : Nat) (o : Opening)
    (rest : List Char) :
    scanFrom pos (some o) (cs ++ rest) =
      scanFrom (pos + Text.utf8Length cs) (some ⟨o.offset, cs.reverse ++ o.since⟩) rest := by
  induction cs generalizing pos o with
  | nil => rfl
  | cons c cs ih =>
    obtain ⟨hopen, hclose, hplain⟩ := isPlain_cons.mp h
    rw [List.cons_append, scanFrom, if_neg hopen, if_neg hclose, ih hplain, Text.utf8Length,
      Nat.add_assoc, List.reverse_cons, List.append_assoc, List.singleton_append]

theorem scanFrom_slot {s : Slot} (hinside : IsPlain s.inside) (hne : s.inside ≠ [])
    (hafter : IsPlain s.after) (pos : Nat) (rest : List Char) :
    scanFrom pos none (s.render ++ rest) =
      (scanFrom (pos + Text.utf8Length s.render) none rest).map (⟨s.token, pos⟩ :: ·) := by
  have hopen : scanFrom pos none (s.render ++ rest) =
      scanFrom (pos + openBrace.utf8Size) (some ⟨pos, []⟩)
        (s.inside ++ closeBrace :: (s.after ++ rest)) := by
    rw [Slot.render, List.cons_append, scanFrom, if_pos rfl, List.append_assoc, List.cons_append]
  have hlength : Text.utf8Length s.render = openBrace.utf8Size + (Text.utf8Length s.inside +
      (closeBrace.utf8Size + Text.utf8Length s.after)) := by
    rw [Slot.render, Text.utf8Length, Text.utf8Length_append, Text.utf8Length]
  have hnotEmpty : s.inside.reverse.isEmpty = false := by simp [hne]
  rw [hopen, scanFrom_inside hinside, List.append_nil, scanFrom, if_neg (by decide), if_pos rfl,
    hnotEmpty, if_neg Bool.false_ne_true, scanFrom_outside hafter, List.reverse_reverse, hlength]
  simp only [Nat.add_assoc, Slot.token]

def foundFrom (pos : Nat) : List Slot → List Placeholder
  | [] => []
  | s :: slots => ⟨s.token, pos⟩ :: foundFrom (pos + Text.utf8Length s.render) slots

theorem map_text_foundFrom (pos : Nat) (slots : List Slot) :
    (foundFrom pos slots).map Placeholder.text = slots.map Slot.token := by
  induction slots generalizing pos with
  | nil => rfl
  | cons s slots ih => rw [foundFrom, List.map_cons, ih, List.map_cons]

theorem foundFrom_eq_mapIdx (pos : Nat) (slots : List Slot) :
    foundFrom pos slots = slots.mapIdx fun i s =>
      ⟨s.token, pos + Text.utf8Length ((slots.take i).flatMap Slot.render)⟩ := by
  induction slots generalizing pos with
  | nil => rfl
  | cons s slots ih =>
    simp [foundFrom, ih, List.mapIdx_cons, Text.utf8Length, Text.utf8Length_append, Nat.add_assoc]

theorem nodup_eraseDups (names : List String) : names.eraseDups.Nodup := by
  -- What is left behind the first name is shorter, but no tail of the list.
  induction hlength : names.length using Nat.strongRecOn generalizing names with
  | ind n ih =>
    cases names with
    | nil => exact List.nodup_nil
    | cons name names =>
      rw [List.eraseDups_cons, List.nodup_cons]
      constructor
      · simp [List.mem_eraseDups]
      · apply ih _ _ _ rfl
        have hfilter := List.length_filter_le (fun other => !other == name) names
        rw [List.length_cons] at hlength
        omega

theorem Layout.nodup_tokens (l : Layout) : l.tokens.Nodup := nodup_eraseDups _

theorem Layout.found_eq (l : Layout) : l.found = foundFrom (Text.utf8Length l.lead) l.slots := by
  simp only [found, foundFrom_eq_mapIdx, Text.utf8Length_append]

theorem Layout.map_text_found (l : Layout) :
    l.found.map Placeholder.text = l.slots.map Slot.token := by
  rw [found_eq, map_text_foundFrom]

theorem scanFrom_slots {slots : List Slot} (hinside : ∀ s ∈ slots, IsPlain s.inside)
    (hne : ∀ s ∈ slots, s.inside ≠ []) (hafter : ∀ s ∈ slots, IsPlain s.after) (pos : Nat)
    (rest : List Char) :
    scanFrom pos none (slots.flatMap Slot.render ++ rest) =
      (scanFrom (pos + Text.utf8Length (slots.flatMap Slot.render)) none rest).map
        (foundFrom pos slots ++ ·) := by
  induction slots generalizing pos with
  | nil =>
    change scanFrom pos none rest = (scanFrom pos none rest).map _
    cases scanFrom pos none rest <;> rfl
  | cons s slots ih =>
    simp only [List.forall_mem_cons] at hinside hne hafter
    rw [List.flatMap_cons, List.append_assoc, scanFrom_slot hinside.1 hne.1 hafter.1,
      ih hinside.2 hne.2 hafter.2, Text.utf8Length_append, Nat.add_assoc]
    cases scanFrom (pos + (Text.utf8Length s.render +
      Text.utf8Length (slots.flatMap Slot.render))) none rest <;> rfl

namespace Template

variable (t : Template)

/-- The scan goes through a template and finds its slots, whatever stands behind it. -/
theorem scanFrom_render (rest : List Char) :
    scanFrom 0 none (t.render ++ rest) =
      (scanFrom (Text.utf8Length t.render) none rest).map (t.found ++ ·) := by
  rw [Layout.render, List.append_assoc, scanFrom_outside t.lead_plain, Nat.zero_add, t.found_eq,
    scanFrom_slots t.inside_plain t.inside_ne_nil t.after_plain, Text.utf8Length_append]

theorem placeholders_path : placeholders t.path = .ok t.found := by
  have hscan := t.scanFrom_render []
  rw [List.append_nil, scanFrom, Except.map, List.append_nil] at hscan
  rw [placeholders, path, String.toList_ofList, hscan]

theorem tokens_found : PathTemplate.tokens t.found = t.tokens := by
  rw [PathTemplate.tokens, t.map_text_found, Layout.tokens]

theorem exists_slot {token : String} (h : token ∈ t.tokens) : ∃ s ∈ t.slots, s.token = token :=
  List.mem_map.mp (List.mem_eraseDups.mp h)

theorem token_mem {s : Slot} (h : s ∈ t.slots) : s.token ∈ t.tokens :=
  List.mem_eraseDups.mpr (List.mem_map_of_mem h)

theorem fill_congr {f g : String → String} (h : ∀ q ∈ t.tokens, f q = g q) :
    t.fill f = t.fill g := by
  have hslots : ∀ s ∈ t.slots,
      (⟨(f s.token).toList, s.after⟩ : Slot) = ⟨(g s.token).toList, s.after⟩ :=
    fun s hs => by rw [h s.token (t.token_mem hs)]
  rw [Layout.fill, List.map_congr_left hslots, Layout.fill]

theorem token_plain {token : String} (h : token ∈ t.tokens) : IsPlain token.toList := by
  obtain ⟨s, hs, rfl⟩ := t.exists_slot h
  rw [Slot.token, String.toList_ofList]
  exact t.inside_plain s hs

theorem token_ne_nil {token : String} (h : token ∈ t.tokens) : token.toList ≠ [] := by
  obtain ⟨s, hs, rfl⟩ := t.exists_slot h
  rw [Slot.token, String.toList_ofList]
  exact t.inside_ne_nil s hs

end Template

end AbapNaming.PathTemplate

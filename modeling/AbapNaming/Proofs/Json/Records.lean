import AbapNaming.Json.Record
import AbapNaming.Proofs.Json.Values

/-! # Codecs read what they wrote

A record is written field by field. Reading goes through the fields that were written, and each of
them gives the record the value it had; one that was left out has no value in a blank record.
-/

namespace AbapNaming.Json

variable {α σ : Type}

/-- The thing is written without doubles, and is read back with this much room. -/
structure Codec.Restores (c : Codec α) (room : Nat) (a : α) : Prop where
  integral : (c.write a).Integral
  read : c.read room (c.write a).node = .ok a

theorem Codec.Restores.ofText {c : Codec α} {a : α} (h : c.Restores maxDepth a) :
    c.ofText ((c.write a).chars 0) = .ok a := by
  rw [Codec.ofText, Document.ofText_chars h.integral]
  simp only [h.read]
  rfl

/-- The entries of a bag that was read: no key comes twice, and all values fit. -/
structure EntriesFit (room : Nat) (entries : KeyedList Value) : Prop where
  keys_nodup : entries.keys.Nodup
  values : ∀ e ∈ entries, e.2.Fits room

theorem EntriesFit.nil (room : Nat) : EntriesFit room [] := ⟨.nil, nofun⟩

theorem EntriesFit.insert {room : Nat} {entries : KeyedList Value} (h : EntriesFit room entries)
    (k : String) {v : Value} (hv : v.Fits room) : EntriesFit room (entries.insert k v) := by
  refine ⟨KeyedList.nodup_keys_insert h.keys_nodup k v, fun e he => ?_⟩
  rcases KeyedList.mem_of_mem_insert he with rfl | he
  · exact hv
  · exact h.values e he

namespace Codec

theorem restores_text (room : Nat) (s : String) : text.Restores room s := ⟨.text s, rfl⟩

theorem restores_flag (room : Nat) (b : Bool) : flag.Restores room b := ⟨.bool b, rfl⟩

theorem restores_list {item : Codec α} {room : Nat} {xs : List α}
    (h : ∀ x ∈ xs, item.Restores room x) : item.list.Restores (room + 1) xs := by
  have hread : (Value.itemNodes (xs.map item.write)).mapM (item.read room) = .ok xs := by
    induction xs with
    | nil => rfl
    | cons x xs ih =>
      obtain ⟨hx, hxs⟩ := List.forall_mem_cons.mp h
      rw [List.map_cons, Value.itemNodes, List.mapM_cons, hx.read, ih hxs]
      rfl
  constructor
  · refine .array fun v hv => ?_
    obtain ⟨x, hx, rfl⟩ := List.mem_map.mp hv
    exact (h x hx).integral
  · rw [list, Value.node]
    simp only [hread]
    rfl

theorem restores_bag {room : Nat} {entries : KeyedList Value} (hfit : EntriesFit room entries)
    (hintegral : ∀ e ∈ entries, e.2.Integral) : bag.Restores (room + 1) entries := by
  have hread : decodeMembers room (Value.memberNodes entries) = .ok entries :=
    decodeMembers_memberNodes fun e he => decodeValue_node (hintegral e he) (hfit.values e he)
  refine ⟨.object hintegral, ?_⟩
  rw [bag, Value.node]
  simp only [hread]
  exact congrArg Except.ok (KeyedList.foldl_insert_of_nodup hfit.keys_nodup)

theorem entriesFit_of_read {room : Nat} {node : Node} {entries : KeyedList Value}
    (h : bag.read (room + 1) node = .ok entries) : EntriesFit room entries := by
  rw [bag] at h
  cases node with
  | object members defect =>
    simp only [bind_eq_ok_iff] at h
    obtain ⟨ms, hms, -, -, hentries⟩ := h
    cases hentries
    have hvalues := fits_of_decodeMembers hms
    refine List.foldlRecOn ms _ (motive := EntriesFit room) (.nil room) fun entries h m hm => ?_
    exact h.insert m.1 (hvalues m hm)
  | number n =>
    simp only [wrongShape] at h
    split at h <;> cases h
  | text s => cases s <;> cases h
  | _ => cases h

end Codec

namespace Field

/-- Reading the field of `s` as it was written takes the record `acc` to the last one. -/
inductive Carries (f : Field σ) (room : Nat) (s acc : σ) : σ → Prop
  | leftOut (hdispensable : f.required = false) (hwrite : f.write s = none) :
    Carries f room s acc acc
  | written {v : Value} {set : σ → σ} (hwrite : f.write s = some v) (hintegral : v.Integral)
    (hread : f.read room v.node = .ok set) : Carries f room s acc (set acc)

inductive CarryAll (room : Nat) (s : σ) : List (Field σ) → σ → σ → Prop
  | nil {acc : σ} : CarryAll room s [] acc acc
  | cons {f : Field σ} {fs : List (Field σ)} {acc next last : σ} (h : f.Carries room s acc next)
    (hrest : CarryAll room s fs next last) : CarryAll room s (f :: fs) acc last

section

variable {name : String} {room : Nat} {s acc : σ}

theorem carries_of_restores {f : Field σ} {c : Codec α} {get : σ → α} {set : σ → α → σ}
    (hwrite : f.write s = some (c.write (get s)))
    (hread : f.read room = fun node => (c.read room node).map fun a s' => set s' a)
    (h : c.Restores room (get s)) : f.Carries room s acc (set acc (get s)) := by
  have hset : f.read room (c.write (get s)).node = .ok fun s' => set s' (get s) := by
    rw [hread]
    exact congrArg (Except.map fun a s' => set s' a) h.read
  exact .written hwrite h.integral hset

theorem carries_plain {c : Codec α} {get : σ → α} {set : σ → α → σ}
    (h : c.Restores room (get s)) : (plain name c get set).Carries room s acc (set acc (get s)) :=
  carries_of_restores rfl rfl h

theorem carries_mandatory {c : Codec α} {get : σ → α} {set : σ → α → σ}
    (h : c.Restores room (get s)) :
    (mandatory name c get set).Carries room s acc (set acc (get s)) :=
  carries_of_restores rfl rfl h

/-- A text that may be missing. The record has none before it is read. -/
theorem carries_optional {get : σ → Option String} {set : σ → Option String → σ}
    (hblank : set acc none = acc) :
    (optional name .text get set).Carries room s acc (set acc (get s)) := by
  have hwrite : (optional name .text get set).write s = (get s).map Codec.text.write := rfl
  cases hs : get s with
  | none =>
    rw [hblank]
    exact .leftOut rfl (by rw [hwrite, hs, Option.map_none])
  | some a =>
    have hread : (optional name .text get set).read room (Value.text a).node =
      .ok fun s' => set s' (some a) := rfl
    exact .written (by rw [hwrite, hs]; rfl) (.text a) hread

theorem exists_of_read_plain {c : Codec α} {get : σ → α} {set : σ → α → σ} {node : Node} {g : σ → σ}
    (h : (plain name c get set).read room node = .ok g) :
    ∃ a, c.read room node = .ok a ∧ g = fun s => set s a := by
  change (c.read room node).map _ = .ok g at h
  cases hread : c.read room node with
  | error e =>
    rw [hread] at h
    cases h
  | ok a =>
    rw [hread] at h
    exact ⟨a, rfl, (Except.ok.inj h).symm⟩

end

end Field

namespace RecordType

variable {t : RecordType σ} {room : Nat} {s : σ}

def members (fs : List (Field σ)) (s : σ) : List (String × Value) :=
  fs.filterMap fun f => (f.write s).map fun v => (f.name, v)

theorem members_leftOut {f : Field σ} (h : f.write s = none) (fs : List (Field σ)) :
    members (f :: fs) s = members fs s := by
  rw [members, List.filterMap_cons, h]
  rfl

theorem members_written {f : Field σ} {v : Value} (h : f.write s = some v) (fs : List (Field σ)) :
    members (f :: fs) s = (f.name, v) :: members fs s := by
  rw [members, List.filterMap_cons, h]
  rfl

theorem integral_of_carryAll {fs : List (Field σ)} {acc last : σ}
    (h : Field.CarryAll room s fs acc last) : ∀ m ∈ members fs s, m.2.Integral := by
  induction h with
  | nil => exact nofun
  | cons hf _ ih =>
    cases hf with
    | leftOut _ hwrite => rwa [members_leftOut hwrite]
    | written hwrite hintegral _ =>
      rw [members_written hwrite]
      exact List.forall_mem_cons.mpr ⟨hintegral, ih⟩

theorem find?_name {fs : List (Field σ)} (hnames : (fs.map (·.name)).Nodup) {f : Field σ}
    (hf : f ∈ fs) : fs.find? (·.name == f.name) = some f := by
  induction fs with
  | nil => cases hf
  | cons g fs ih =>
    obtain ⟨hhead, hnames⟩ := List.nodup_cons.mp hnames
    rcases List.mem_cons.mp hf with rfl | hf
    · exact List.find?_cons_of_pos (beq_self_eq_true _)
    · have hne : g.name ≠ f.name := fun h => hhead (List.mem_map.mpr ⟨f, hf, h.symm⟩)
      rw [List.find?_cons_of_neg (by simpa using hne), ih hnames hf]

/-- All fields that were written are found by their names, and each is found once. -/
theorem readMembers_members (hnames : (t.fields.map (·.name)).Nodup) {fs : List (Field σ)}
    (hfs : ∀ f ∈ fs, f ∈ t.fields) (hnodup : (fs.map (·.name)).Nodup) {seen : List String}
    (hseen : ∀ f ∈ fs, f.name ∉ seen) {acc last : σ} (h : Field.CarryAll room s fs acc last) :
    ∃ seen', t.readMembers room acc seen (Value.memberNodes (members fs s)) = .ok (last, seen') ∧
      (∀ name ∈ seen, name ∈ seen') ∧ ∀ f ∈ fs, f.required = true → f.name ∈ seen' := by
  induction h generalizing seen with
  | nil => exact ⟨seen, rfl, fun _ => id, nofun⟩
  | @cons f fs acc next last hf hrest ih =>
    obtain ⟨hhead, hnodup⟩ := List.nodup_cons.mp hnodup
    obtain ⟨hmem, hfs⟩ := List.forall_mem_cons.mp hfs
    obtain ⟨hnew, hseen⟩ := List.forall_mem_cons.mp hseen
    cases hf with
    | leftOut hdispensable hwrite =>
      obtain ⟨seen', hread, hkept, hrequired⟩ := ih hfs hnodup hseen
      rw [members_leftOut hwrite]
      refine ⟨seen', hread, hkept, List.forall_mem_cons.mpr ⟨fun h => ?_, hrequired⟩⟩
      exact absurd (hdispensable.symm.trans h) (by decide)
    | @written v set hwrite hintegral hset =>
      have hseen' : ∀ g ∈ fs, g.name ∉ f.name :: seen := by
        intro g hg hmem
        rcases List.mem_cons.mp hmem with hsame | hmem
        · exact hhead (List.mem_map.mpr ⟨g, hg, hsame⟩)
        · exact hseen g hg hmem
      obtain ⟨seen', hread, hkept, hrequired⟩ := ih hfs hnodup hseen'
      obtain ⟨hname, hkept⟩ := List.forall_mem_cons.mp hkept
      refine ⟨seen', ?_, hkept, List.forall_mem_cons.mpr ⟨fun _ => hname, hrequired⟩⟩
      rw [members_written hwrite, Value.memberNodes, readMembers, find?_name hnames hmem]
      simp only [if_neg hnew, hset]
      exact hread

/-- A record is restored if its fields are, one after the other, from the blank record on. -/
theorem restores (hnames : (t.fields.map (·.name)).Nodup)
    (h : Field.CarryAll room s t.fields t.blank s) : t.codec.Restores (room + 1) s := by
  have hfresh : ∀ f ∈ t.fields, f.name ∉ [] := fun _ _ => List.not_mem_nil
  obtain ⟨seen, hread, -, hrequired⟩ := readMembers_members hnames (fun _ => id) hnames hfresh h
  have hmissing : t.missing? seen = none := by
    rw [missing?, Option.map_eq_none_iff, List.find?_eq_none]
    intro f hf hmissed
    simp only [Bool.and_eq_true, decide_eq_true_eq] at hmissed
    exact hmissed.2 (hrequired f hf hmissed.1)
  refine ⟨.object (integral_of_carryAll h), ?_⟩
  change t.read (room + 1) (.object (Value.memberNodes (members t.fields s)) none) = .ok s
  rw [read]
  refine bind_eq_ok_iff.mpr ⟨(s, seen), hread, bind_eq_ok_iff.mpr ⟨(), rfl, ?_⟩⟩
  simp only [hmissing]
  rfl

/-! ## What every record that was read has -/

section

variable (p : σ → Prop)

theorem readMembers_induction
    (hset : ∀ f ∈ t.fields, ∀ node set, f.read room node = .ok set → ∀ s, p s → p (set s))
    {nodes : List (TextToken × Node)} {acc last : σ} {seen seen' : List String}
    (h : t.readMembers room acc seen nodes = .ok (last, seen')) (hacc : p acc) : p last := by
  induction nodes generalizing acc seen with
  | nil =>
    cases h
    exact hacc
  | cons m nodes ih =>
    obtain ⟨key, node⟩ := m
    cases key with
    | none => cases h
    | some key =>
      rw [readMembers] at h
      split at h
      · obtain ⟨-, -, h⟩ := bind_eq_ok_iff.mp h
        exact ih h hacc
      · next f hf =>
        split at h
        · cases h
        · obtain ⟨set, hread, h⟩ := bind_eq_ok_iff.mp h
          exact ih h (hset f (List.mem_of_find?_eq_some hf) node set hread acc hacc)

theorem readPositions_induction {fs : List (Field σ)}
    (hset : ∀ f ∈ fs, ∀ node set, f.read room node = .ok set → ∀ s, p s → p (set s))
    {nodes : List Node} {defect : Option Defect} {index : Nat} {acc last : σ}
    (h : t.readPositions room defect acc index fs nodes = .ok last) (hacc : p acc) : p last := by
  induction fs generalizing acc index nodes with
  | nil =>
    cases nodes with
    | nil =>
      obtain ⟨-, -, h⟩ := bind_eq_ok_iff.mp h
      cases h
      exact hacc
    | cons node nodes => cases h
  | cons f fs ih =>
    obtain ⟨hf, hfs⟩ := List.forall_mem_cons.mp hset
    cases nodes with
    | nil =>
      rw [readPositions] at h
      obtain ⟨-, -, h⟩ := bind_eq_ok_iff.mp h
      split at h
      · cases h
      · exact ih hfs h hacc
    | cons node nodes =>
      rw [readPositions] at h
      obtain ⟨set, hread, h⟩ := bind_eq_ok_iff.mp h
      exact ih hfs h (hf node set hread acc hacc)

/-- A record that was read, whether by names or by positions, has what the blank one has and every
field keeps. -/
theorem read_induction (hblank : p t.blank)
    (hset : ∀ f ∈ t.fields, ∀ node set, f.read room node = .ok set → ∀ s, p s → p (set s))
    {node : Node} (h : t.read (room + 1) node = .ok s) : p s := by
  cases node with
  | object members defect =>
    simp only [read, bind_eq_ok_iff] at h
    obtain ⟨⟨last, seen⟩, hread, -, -, h⟩ := h
    split at h
    · cases h
    · cases h
      exact readMembers_induction p hset hread hblank
  | array items defect => exact readPositions_induction p hset h hblank
  | number n =>
    simp only [read, wrongShape] at h
    split at h <;> cases h
  | text s => cases s <;> cases h
  | _ => cases h

end

end RecordType

end AbapNaming.Json

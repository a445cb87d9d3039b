import Mathlib.Data.List.Basic
import AbapNaming.Proofs.Identifier.Suffix
import AbapNaming.Proofs.KeyedList
import AbapNaming.Proofs.TypeCodes.Table

/-! # What a table answers

A table is asked to give names their codes under any tags, and to find codes. Each name keeps the
tag of the first request for it and the number of names that came before. So all requests for a name
have one answer, and finding gives what was given so far. Codes with one tag differ by their
numbers. Under different tags they differ as long as all numbers are equally wide, and no longer.
-/

namespace AbapNaming.TypeCodes

open KeyedList

inductive Request
  /-- The code of this name, which gets one under the tag if it has none. -/
  | assign (name tag : String)
  /-- The code that this name has. -/
  | find (name : String)
deriving DecidableEq, Repr

def Request.assigned? : Request → Option (String × String)
  | .assign name tag => some (name, tag)
  | .find _ => none

/-- What a request gives back, and the table after it. -/
def respond (t : TypeCodes) : Request → Option String × TypeCodes
  | .assign name tag => (some (t.assign name tag).1, (t.assign name tag).2)
  | .find name => (t.code? name, t)

def after (t : TypeCodes) (requests : List Request) : TypeCodes :=
  requests.foldl (fun t r => (t.respond r).2) t

/-- The names that were to get codes, with their tags. -/
def assigned (requests : List Request) : KeyedList String := requests.filterMap Request.assigned?

/-- The tag of the first request for the name. -/
def firstTag (asked : KeyedList String) (name : String) : String := (asked.get? name).getD ""

/-- The code that requests in this order give the name. -/
def coded (asked : KeyedList String) (name : String) : String :=
  firstTag asked name ++ suffix ((keys asked).eraseDups.idxOf name)

def ofRequests (asked : KeyedList String) : TypeCodes :=
  ⟨(keys asked).eraseDups.mapIdx fun i name => (name, firstTag asked name ++ suffix i)⟩

theorem eraseDups_concat_of_mem {names : List String} {name : String} (h : name ∈ names) :
    (names ++ [name]).eraseDups = names.eraseDups := by
  rw [List.eraseDups_append]
  simp [List.removeAll, h]

theorem eraseDups_concat_of_notMem {names : List String} {name : String} (h : name ∉ names) :
    (names ++ [name]).eraseDups = names.eraseDups ++ [name] := by
  rw [List.eraseDups_append]
  simp [List.removeAll, h, List.eraseDups_cons]

theorem get?_mapIdx (value : Nat → String → String) (names : List String) (name : String) :
    get? (names.mapIdx fun i other => (other, value i other)) name =
      if name ∈ names then some (value (names.idxOf name) name) else none := by
  induction names generalizing value with
  | nil => rfl
  | cons other names ih =>
    rw [List.mapIdx_cons, get?_cons]
    by_cases h : other = name
    · simp [h]
    · rw [if_neg h, ih (fun i => value (i + 1)), List.idxOf_cons_ne names h]
      simp [Ne.symm h]

section

variable {asked : KeyedList String} {name tag : String}

theorem keys_concat : keys (asked ++ [(name, tag)]) = keys asked ++ [name] := List.map_append

theorem firstTag_append (h : name ∈ keys asked) (later : KeyedList String) :
    firstTag (asked ++ later) name = firstTag asked name := by
  obtain ⟨first, hfirst⟩ := exists_get?_of_mem_keys h
  rw [firstTag, firstTag, get?_append, hfirst, Option.some_or]

theorem firstTag_concat_of_notMem (h : name ∉ keys asked) :
    firstTag (asked ++ [(name, tag)]) name = tag := by
  rw [firstTag, get?_append, get?_eq_none_iff.mpr h]
  simp

/-- A name keeps its code whatever is asked for later. -/
theorem coded_append (h : name ∈ keys asked) (later : KeyedList String) :
    coded (asked ++ later) name = coded asked name := by
  have hkeys : keys (asked ++ later) = keys asked ++ keys later := List.map_append
  rw [coded, coded, firstTag_append h, hkeys, List.eraseDups_append,
    List.idxOf_append_of_mem (List.mem_eraseDups.mpr h)]

theorem code?_ofRequests (asked : KeyedList String) (name : String) :
    (ofRequests asked).code? name =
      if name ∈ keys asked then some (coded asked name) else none := by
  rw [code?, ofRequests, get?_mapIdx fun i name => firstTag asked name ++ suffix i]
  simp only [List.mem_eraseDups]
  rfl

theorem size_ofRequests (asked : KeyedList String) :
    (ofRequests asked).size = (keys asked).eraseDups.length := by
  rw [size, ofRequests, List.length_mapIdx]

/-- Names that have a code keep the tags that they were asked for first. -/
theorem mapIdx_firstTag_append (asked later : KeyedList String) :
    ((keys asked).eraseDups.mapIdx fun i name =>
      (name, firstTag (asked ++ later) name ++ suffix i)) = (ofRequests asked).entries := by
  refine List.mapIdx_eq_mapIdx_iff.mpr fun i hi => ?_
  rw [firstTag_append (List.mem_eraseDups.mp (List.getElem_mem hi))]

theorem ofRequests_concat_of_mem (h : name ∈ keys asked) :
    ofRequests (asked ++ [(name, tag)]) = ofRequests asked := by
  rw [ofRequests, keys_concat, eraseDups_concat_of_mem h, mapIdx_firstTag_append]

theorem ofRequests_concat_of_notMem (h : name ∉ keys asked) :
    ofRequests (asked ++ [(name, tag)]) =
      ⟨(ofRequests asked).entries ++ [(name, tag ++ suffix (ofRequests asked).size)]⟩ := by
  rw [ofRequests, keys_concat, eraseDups_concat_of_notMem h, List.mapIdx_concat,
    mapIdx_firstTag_append, firstTag_concat_of_notMem h, size_ofRequests]

theorem coded_concat_of_notMem (h : name ∉ keys asked) :
    coded (asked ++ [(name, tag)]) name = tag ++ suffix (ofRequests asked).size := by
  have hnew : name ∉ (keys asked).eraseDups := fun hm => h (List.mem_eraseDups.mp hm)
  rw [coded, firstTag_concat_of_notMem h, keys_concat, eraseDups_concat_of_notMem h,
    List.idxOf_append_of_notMem hnew, size_ofRequests]
  simp

end

/-- Asking for one more name is the list of requests with that name behind it. -/
theorem assign_ofRequests (asked : KeyedList String) (name tag : String) :
    (ofRequests asked).assign name tag =
      (coded (asked ++ [(name, tag)]) name, ofRequests (asked ++ [(name, tag)])) := by
  rw [assign, code?_ofRequests]
  by_cases h : name ∈ keys asked
  · rw [if_pos h, coded_append h, ofRequests_concat_of_mem h]
  · rw [if_neg h, coded_concat_of_notMem h, ofRequests_concat_of_notMem h]

theorem respond_ofRequests (asked : KeyedList String) (r : Request) :
    ((ofRequests asked).respond r).2 = ofRequests (asked ++ r.assigned?.toList) := by
  cases r with
  | assign name tag => exact congrArg Prod.snd (assign_ofRequests asked name tag)
  | find name => exact congrArg ofRequests (List.append_nil asked).symm

theorem assigned_cons (r : Request) (requests : List Request) :
    assigned (r :: requests) = r.assigned?.toList ++ assigned requests := by
  cases r <;> rfl

theorem assigned_append (requests later : List Request) :
    assigned (requests ++ later) = assigned requests ++ assigned later := List.filterMap_append

/-- A run only depends on the names that were to get codes. -/
theorem after_ofRequests (asked : KeyedList String) (requests : List Request) :
    (ofRequests asked).after requests = ofRequests (asked ++ assigned requests) := by
  induction requests generalizing asked with
  | nil => exact congrArg ofRequests (List.append_nil asked).symm
  | cons r requests ih =>
    have hstep : (ofRequests asked).after (r :: requests) =
        ((ofRequests asked).respond r).2.after requests := rfl
    rw [hstep, respond_ofRequests, ih, List.append_assoc, assigned_cons]

theorem after_empty (requests : List Request) :
    empty.after requests = ofRequests (assigned requests) := after_ofRequests [] requests

/-- Codes whose numbers are equally wide are told apart by them, whatever their tags. -/
theorem eq_of_append_suffix_eq {tag tag' : String} {m n : Nat} (hm : m < 10 ^ suffixWidth)
    (hn : n < 10 ^ suffixWidth) (h : tag ++ suffix m = tag' ++ suffix n) : m = n := by
  have hlist := congrArg String.toList h
  rw [String.toList_append, String.toList_append] at hlist
  have hwidth := (length_suffix_of_lt hm).trans (length_suffix_of_lt hn).symm
  rw [← String.length_toList, ← String.length_toList] at hwidth
  exact suffix_inj.mp (String.toList_inj.mp (List.append_inj_right' hlist hwidth))

/-- Different names have different codes if they were first asked for under one tag, or if there are
no more of them than a suffix counts in its least width. -/
theorem coded_inj {asked : KeyedList String}
    (h : (∃ tag, ∀ name ∈ keys asked, firstTag asked name = tag) ∨
      (keys asked).eraseDups.length ≤ 10 ^ suffixWidth)
    {name other : String} (hname : name ∈ keys asked) (hother : other ∈ keys asked)
    (hcode : coded asked name = coded asked other) : name = other := by
  have hname' := List.mem_eraseDups.mpr hname
  have hother' := List.mem_eraseDups.mpr hother
  refine (List.idxOf_inj hname').mp ?_
  rcases h with ⟨tag, htag⟩ | hfew
  · rw [coded, coded, htag name hname, htag other hother, String.append_right_inj] at hcode
    exact suffix_inj.mp hcode
  · exact eq_of_append_suffix_eq
      (Nat.lt_of_lt_of_le (List.idxOf_lt_length_of_mem hname') hfew)
      (Nat.lt_of_lt_of_le (List.idxOf_lt_length_of_mem hother') hfew) hcode

theorem eraseDups_of_nodup {names : List String} (h : names.Nodup) : names.eraseDups = names := by
  induction names with
  | nil => rfl
  | cons name names ih =>
    obtain ⟨hnew, hrest⟩ := List.nodup_cons.mp h
    have hkept : names.filter (fun other => !other == name) = names := by
      refine List.filter_eq_self.mpr fun other hother => ?_
      simpa using ne_of_mem_of_not_mem hother hnew
    rw [List.eraseDups_cons, hkept, ih hrest]

/-- One name more is enough for a shared code: a digit at the end of one tag stands where another
tag has the first digit of a wider number. -/
theorem coded_eq_of_wider {first last : String} {between : List String} (tag : String)
    (hnames : (first :: between ++ [last]).Nodup) (hcount : between.length + 1 = 10 ^ suffixWidth) :
    let asked := (first, tag ++ "1") :: between.map (·, tag) ++ [(last, tag)]
    coded asked first = coded asked last := by
  intro asked
  have hbefore : keys ((first, tag ++ "1") :: between.map (·, tag)) = first :: between := by
    simp [keys, Function.comp_def]
  have hkeys : keys asked = first :: between ++ [last] := by
    rw [keys_concat, hbefore]
  have hlast : last ∉ first :: between := fun hmem =>
    (List.nodup_append.mp hnames).2.2 last hmem last List.mem_cons_self rfl
  have hfirstTag : firstTag asked first = tag ++ "1" := by simp [firstTag, asked]
  have hlastTag : firstTag asked last = tag := firstTag_concat_of_notMem (hbefore ▸ hlast)
  have hplace : (first :: between ++ [last]).idxOf last = 10 ^ suffixWidth := by
    rw [List.idxOf_append_of_notMem hlast, ← hcount]
    simp
  rw [coded, coded, hkeys, eraseDups_of_nodup hnames, hplace, hfirstTag, hlastTag, List.cons_append,
    List.idxOf_cons_self, String.append_assoc]
  rfl

section

variable (earlier later : List Request) (name : String)

theorem respond_assign_eq (tag : String) :
    ∃ code, (empty.after (earlier ++ .assign name tag :: later)).code? name = some code ∧
      ((empty.after earlier).respond (.assign name tag)).1 = some code := by
  have hasked : assigned (earlier ++ .assign name tag :: later) =
      assigned earlier ++ [(name, tag)] ++ assigned later := by
    rw [assigned_append, assigned_cons, ← List.append_assoc]
    rfl
  have hmem : name ∈ keys (assigned earlier ++ [(name, tag)]) := by
    rw [keys_concat]
    exact List.mem_append_right _ List.mem_cons_self
  refine ⟨coded (assigned earlier ++ [(name, tag)]) name, ?_, ?_⟩
  · rw [after_empty, hasked, code?_ofRequests, if_pos, coded_append hmem]
    rw [keys, List.map_append]
    exact List.mem_append_left _ hmem
  · rw [after_empty, respond, assign_ofRequests]

theorem respond_find_eq :
    ((empty.after earlier).respond (.find name)).1 =
      if name ∈ keys (assigned earlier) then
        (empty.after (earlier ++ .find name :: later)).code? name
      else none := by
  have hasked : assigned (earlier ++ .find name :: later) = assigned earlier ++ assigned later :=
    assigned_append _ _
  rw [after_empty, after_empty, hasked, respond, code?_ofRequests]
  by_cases h : name ∈ keys (assigned earlier)
  · have hlater : name ∈ keys (assigned earlier ++ assigned later) := by
      rw [keys, List.map_append]
      exact List.mem_append_left _ h
    rw [if_pos h, if_pos h, code?_ofRequests, if_pos hlater, coded_append h]
  · rw [if_neg h, if_neg h]

end

theorem mem_keys_of_code? {asked : KeyedList String} {name code : String}
    (h : (ofRequests asked).code? name = some code) :
    name ∈ keys asked ∧ coded asked name = code := by
  rw [code?_ofRequests] at h
  split at h
  · rename_i hmem
    exact ⟨hmem, Option.some.inj h⟩
  · cases h

/-- Whatever is asked of a new table, it ends up with the distinct names in the order in which codes
were asked for, each under its first tag and numbered from zero. Every request for a name was
answered with the code that it has in the end, and finding gave that code from the first such
request on. Different names never share a code under one tag, and under any tags as long as there
are no more of them than a suffix counts in its least width. -/
theorem respond_after_empty (requests : List Request) :
    let asked := assigned requests
    let names := (keys asked).eraseDups
    let t := empty.after requests
    t.entries = names.mapIdx (fun i name => (name, firstTag asked name ++ suffix i)) ∧
    (∀ earlier name tag later, requests = earlier ++ .assign name tag :: later →
      ∃ code, t.code? name = some code ∧
        ((empty.after earlier).respond (.assign name tag)).1 = some code) ∧
    (∀ earlier name later, requests = earlier ++ .find name :: later →
      ((empty.after earlier).respond (.find name)).1 =
        if name ∈ keys (assigned earlier) then t.code? name else none) ∧
    ((∃ tag, ∀ name ∈ names, firstTag asked name = tag) ∨ names.length ≤ 10 ^ suffixWidth →
      ∀ name other code, t.code? name = some code → t.code? other = some code → name = other) := by
  intro asked names t
  have ht : t = ofRequests asked := after_empty requests
  refine ⟨congrArg entries ht, ?_, ?_, ?_⟩
  · rintro earlier name tag later hrequests
    rw [show t = _ from congrArg empty.after hrequests]
    exact respond_assign_eq earlier later name tag
  · rintro earlier name later hrequests
    rw [show t = _ from congrArg empty.after hrequests]
    exact respond_find_eq earlier later name
  · intro h name other code hname hother
    rw [ht] at hname hother
    obtain ⟨hname, hcode⟩ := mem_keys_of_code? hname
    obtain ⟨hother, hcode'⟩ := mem_keys_of_code? hother
    simp only [names, List.mem_eraseDups] at h
    exact coded_inj h hname hother (hcode.trans hcode'.symm)

/-- A type that is asked for under two tags, one under a tag of its own, and what is found before
and after its first request. -/
theorem respond_after_empty_pets :
    let requests : List Request :=
      [.assign "Pet" "ty_", .find "Order", .assign "Order" "zz_", .assign "Pet" "zz_",
        .find "Order"]
    let t := empty.after requests
    t.entries = [("Pet", "ty_000"), ("Order", "zz_001")] ∧
    ((empty.after (requests.take 3)).respond (.assign "Pet" "zz_")).1 = some "ty_000" ∧
    ((empty.after (requests.take 1)).respond (.find "Order")).1 = none ∧
    ((empty.after (requests.take 4)).respond (.find "Order")).1 = some "zz_001" ∧
    ∀ name, t.code? name = some "zz_001" → name = "Order" := by
  intro requests t
  obtain ⟨hentries, hassign, hfind, hinj⟩ := respond_after_empty requests
  have hcode : t.code? "Order" = some "zz_001" := by decide +kernel
  obtain ⟨code, hpet, hagain⟩ := hassign (requests.take 3) "Pet" "zz_" [.find "Order"] rfl
  have hpetCode : code = "ty_000" := by
    rw [show empty.after requests = t from rfl] at hpet
    exact Option.some.inj (hpet.symm.trans (by decide +kernel))
  refine ⟨hentries.trans (by decide +kernel), hpetCode ▸ hagain, ?_, ?_,
    fun name hname => hinj (.inr (by decide)) name "Order" _ hname hcode⟩
  · exact (hfind (requests.take 1) "Order" (requests.drop 2) rfl).trans (if_neg (by decide))
  · exact (hfind (requests.take 4) "Order" [] rfl).trans ((if_pos (by decide)).trans hcode)

end AbapNaming.TypeCodes

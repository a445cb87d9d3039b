import AbapNaming.Proofs.Naming.Paths

/-! # Runs of calls

A run asks its naming state for identifiers, type codes and paths, in any order and any number.
Every state it passes through comes of the first by edits and codes alone, so what all of those
keep holds to the end. An edit made on the way, in a call of its own or for a placeholder of a
path, is one that the last state would make the same.
-/

namespace AbapNaming

inductive Call
  | edit (name tag : String)
  | intern (name tag : String)
  | path (path : String)
deriving DecidableEq, Repr

/-- The distinct placeholder texts of a path; a malformed path has none. -/
def PathTemplate.pathTokens (path : String) : List String :=
  match placeholders path with
  | .ok found => tokens found
  | .error _ => []

/-- An edit with the state that it meets. -/
structure Editing where
  state : Naming
  name : String
  tag : String
deriving DecidableEq, Repr

namespace Editing

def whole (x : Editing) : String := Naming.candidate x.name x.tag

/-- The candidate cut to length, before it is escaped. -/
def short (x : Editing) : String := x.state.fitted x.whole

def outcome (x : Editing) : Edited := (x.state.edit x.name x.tag).1

def next (x : Editing) : Naming := (x.state.edit x.name x.tag).2

end Editing

namespace Naming

/-- The state after a call. A malformed path changes nothing. -/
def call (n : Naming) : Call → Naming
  | .edit name tag => (n.edit name tag).2
  | .intern name tag => (n.intern name tag).2
  | .path path =>
    match n.renderPath path with
    | .ok (_, n') => n'
    | .error _ => n

/-- The state after calls in order. -/
def after (n : Naming) (calls : List Call) : Naming := calls.foldl call n

def tokenEditings (n : Naming) : List String → List Editing
  | [] => []
  | token :: tokens =>
    let x : Editing := ⟨n, token, Role.pathValue.tag⟩
    x :: x.next.tokenEditings tokens

/-- The edits that a call makes, in order. -/
def editingsOf (n : Naming) : Call → List Editing
  | .edit name tag => [⟨n, name, tag⟩]
  | .intern _ _ => []
  | .path path => n.tokenEditings (PathTemplate.pathTokens path)

def editings (n : Naming) : List Call → List Editing
  | [] => []
  | c :: calls => n.editingsOf c ++ (n.call c).editings calls

theorem after_cons (n : Naming) (c : Call) (calls : List Call) :
    n.after (c :: calls) = (n.call c).after calls := rfl

theorem after_append (n : Naming) (calls later : List Call) :
    n.after (calls ++ later) = (n.after calls).after later :=
  List.foldl_append

theorem call_path (n : Naming) (path : String) :
    n.call (.path path) = n.afterTokens (PathTemplate.pathTokens path) := by
  rw [call, PathTemplate.pathTokens]
  cases hfound : PathTemplate.placeholders path with
  | error e =>
    simp only [renderPath, hfound]
    rfl
  | ok found => rw [n.renderPath_of_found hfound]

section

variable {P : Naming → Prop}

theorem afterTokens_keeps (hedit : ∀ n name tag, P n → P (n.edit name tag).2)
    (tokens : List String) {n : Naming} (h : P n) : P (n.afterTokens tokens) := by
  induction tokens generalizing n with
  | nil => exact h
  | cons token tokens ih =>
    rw [afterTokens_cons]
    exact ih (hedit n token _ h)

/-- What edits and codes keep, every call keeps. -/
theorem call_keeps (hedit : ∀ n name tag, P n → P (n.edit name tag).2)
    (hintern : ∀ n name tag, P n → P (n.intern name tag).2) (c : Call) {n : Naming} (h : P n) :
    P (n.call c) := by
  cases c with
  | edit name tag => exact hedit n name tag h
  | intern name tag => exact hintern n name tag h
  | path path =>
    rw [call_path]
    exact afterTokens_keeps hedit _ h

theorem after_keeps (hedit : ∀ n name tag, P n → P (n.edit name tag).2)
    (hintern : ∀ n name tag, P n → P (n.intern name tag).2) (calls : List Call) {n : Naming}
    (h : P n) : P (n.after calls) := by
  induction calls generalizing n with
  | nil => exact h
  | cons c calls ih => exact ih (call_keeps hedit hintern c h)

end

theorem extends_intern (n : Naming) (name tag : String) : n.Extends (n.intern name tag).2 :=
  ⟨rfl, rfl, Buckets.Extends.refl _⟩

theorem extends_after (n : Naming) (calls : List Call) : n.Extends (n.after calls) :=
  after_keeps (fun n' name tag h => h.trans (n'.extends_edit name tag))
    (fun n' name tag h => h.trans (n'.extends_intern name tag)) calls (Extends.refl n)

/-- What was edited on the way has its place at the end. -/
theorem holds_after {n : Naming} {calls : List Call} {name tag : String}
    (h : .edit name tag ∈ calls) : (n.after calls).Holds (candidate name tag) := by
  obtain ⟨earlier, later, rfl⟩ := List.append_of_mem h
  rw [after_append, after_cons]
  exact (extends_after _ later).holds (holds_edit _ name tag)

theorem keyed_edit {n : Naming} (h : n.buckets.Keyed) (name tag : String) :
    (n.edit name tag).2.buckets.Keyed := by
  rw [buckets_edit]
  cases hlong : n.isLong (candidate name tag) with
  | true =>
    rw [bucketsWith_of_long hlong]
    exact h.add _
  | false =>
    rw [bucketsWith_of_short hlong]
    exact h

/-- In every state that a run reaches the names of a bucket begin with its key. -/
theorem keyed_after_start (limits : Limits) (reserved : Reserved) (calls : List Call) :
    ((start limits reserved).after calls).buckets.Keyed :=
  after_keeps (P := fun n => n.buckets.Keyed) (fun _ name tag h => keyed_edit h name tag)
    (fun _ _ _ h => h) calls (Buckets.keyed_empty limits.trimLength)

theorem extends_of_mem_tokenEditings {n : Naming} {tokens : List String} {x : Editing}
    (hx : x ∈ n.tokenEditings tokens) : x.next.Extends (n.afterTokens tokens) := by
  induction tokens generalizing n with
  | nil => exact absurd hx List.not_mem_nil
  | cons token tokens ih =>
    rw [afterTokens_cons]
    rcases List.mem_cons.mp hx with rfl | hx
    · exact extends_afterTokens _ tokens
    · exact ih hx

theorem extends_of_mem_editingsOf {n : Naming} {c : Call} {x : Editing} (hx : x ∈ n.editingsOf c) :
    x.next.Extends (n.call c) := by
  cases c with
  | edit name tag =>
    rw [List.mem_singleton.mp hx]
    exact Extends.refl _
  | intern name tag => exact absurd hx List.not_mem_nil
  | path path =>
    rw [call_path]
    exact extends_of_mem_tokenEditings hx

theorem extends_of_mem_editings {n : Naming} {calls : List Call} {x : Editing}
    (hx : x ∈ n.editings calls) : x.next.Extends (n.after calls) := by
  induction calls generalizing n with
  | nil => exact absurd hx List.not_mem_nil
  | cons c calls ih =>
    rcases List.mem_append.mp hx with hx | hx
    · exact (extends_of_mem_editingsOf hx).trans (extends_after _ calls)
    · exact ih hx

section

variable {n : Naming} {x : Editing}

theorem outcome_of_extends (h : x.next.Extends n) : (n.edit x.name x.tag).1 = x.outcome :=
  h.edit_eq_of_edited

theorem holds_of_extends (h : x.next.Extends n) : n.Holds x.whole :=
  h.holds (x.state.holds_edit x.name x.tag)

theorem fitted_of_extends (h : x.next.Extends n) : n.fitted x.whole = x.short :=
  (h.fitted_eq (x.state.holds_edit x.name x.tag)).trans (x.state.fitted_edit x.name x.tag)

end

end Naming

end AbapNaming

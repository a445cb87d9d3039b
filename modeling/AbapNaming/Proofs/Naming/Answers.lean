import AbapNaming.Proofs.Lint.Errors
import AbapNaming.Proofs.Naming.Collisions
import AbapNaming.Proofs.Naming.WellFormed

/-! # Answers stay the same

Once a call was made, all that it asks for has its place. So whatever is called in between, the same
call gets the same answer again and leaves the state as it is. A type is found under any tag.
-/

namespace AbapNaming

open PathTemplate

inductive Answer
  | identifier (edited : Edited)
  | code (code : String)
  | path (filled : Except PathError String)
deriving DecidableEq, Repr

/-- The same call once more, where only the tag of a type may be another one. -/
inductive Call.Repeats : Call → Call → Prop
  | edit (name tag : String) : Repeats (.edit name tag) (.edit name tag)
  | intern (type tag tag' : String) : Repeats (.intern type tag) (.intern type tag')
  | path (path : String) : Repeats (.path path) (.path path)

namespace Naming

/-- What a call gives back in this state. -/
def answer (n : Naming) : Call → Answer
  | .edit name tag => .identifier (n.edit name tag).1
  | .intern type tag => .code (n.intern type tag).1
  | .path path => .path ((n.renderPath path).map Prod.fst)

/-- All that the call asks for has its place. -/
def Settles (n : Naming) : Call → Prop
  | .edit name tag => n.Holds (candidate name tag)
  | .intern type _ => ∃ code, n.types.code? type = some code
  | .path path => ∀ token ∈ pathTokens path, n.Holds (candidate token Role.pathValue.tag)

def rendered (n : Naming) (path : String) : String :=
  String.ofList (padBraces (replaceEach (n.identifier .pathValue) (pathTokens path) path.toList))

/-- A rendered path is what every later state makes of it. -/
theorem Extends.renderPath_eq {n n' : Naming} {path : String} (haccepted : Accepts path)
    (h : (n.call (.path path)).Extends n') :
    n.renderPath path = .ok (n'.rendered path, n.call (.path path)) := by
  obtain ⟨found, hfound⟩ := haccepted
  have htokens : pathTokens path = tokens found := by rw [pathTokens, hfound]
  rw [call_path, htokens] at h ⊢
  rw [renderPath, hfound]
  simp only [n.substitute_eq (tokens found) path.toList h, rendered, htokens]
  rfl

theorem accepts_of_renderPath {n : Naming} {path : String} {rendered : String × Naming}
    (h : n.renderPath path = .ok rendered) : Accepts path := by
  rw [renderPath] at h
  cases hfound : placeholders path with
  | error error =>
    rw [hfound] at h
    cases h
  | ok found => exact ⟨found, hfound⟩

theorem afterTokens_eq_after (n : Naming) (tokens : List String) :
    n.afterTokens tokens = n.after (tokens.map fun token => .edit token Role.pathValue.tag) := by
  rw [after, List.foldl_map]
  rfl

theorem settles_call (n : Naming) (c : Call) : (n.call c).Settles c := by
  cases c with
  | edit name tag => exact n.holds_edit name tag
  | intern type tag => exact ⟨_, n.types.code?_assign type tag⟩
  | path path =>
    intro token htoken
    rw [call_path, afterTokens_eq_after]
    exact holds_after (List.mem_map_of_mem htoken)

section

variable {n n' : Naming} {c c' : Call}

theorem Grows.settles (h : n.Grows n') (hc : n.Settles c) : n'.Settles c := by
  cases c with
  | edit name tag => exact h.holds hc
  | intern type tag =>
    obtain ⟨code, hcode⟩ := hc
    exact ⟨code, TypeCodes.code?_of_prefix h.codes_prefix hcode⟩
  | path path => exact fun token htoken => h.holds (hc token htoken)

theorem edit_of_holds {name tag : String} (h : n.Holds (candidate name tag)) :
    (n.edit name tag).2 = n := by
  change { n with buckets := n.bucketsWith (candidate name tag) } = n
  cases hlong : n.isLong (candidate name tag) with
  | false => rw [bucketsWith_of_short hlong]
  | true => rw [bucketsWith_of_long hlong, (h hlong).add_eq]

theorem afterTokens_of_holds {tokens : List String}
    (h : ∀ token ∈ tokens, n.Holds (candidate token Role.pathValue.tag)) :
    n.afterTokens tokens = n := by
  induction tokens with
  | nil => rfl
  | cons token tokens ih =>
    rw [afterTokens_cons, edit_of_holds (h token List.mem_cons_self)]
    exact ih fun other hother => h other (List.mem_cons_of_mem token hother)

/-- What has its place is not put anywhere else. -/
theorem Settles.call_eq (h : n.Settles c) (hrepeats : c.Repeats c') : n.call c' = n := by
  cases hrepeats with
  | edit name tag => exact edit_of_holds h
  | intern type tag tag' =>
    obtain ⟨code, hcode⟩ := h
    change { n with types := (n.types.assign type tag').2 } = n
    rw [TypeCodes.assign_of_known hcode]
  | path path =>
    rw [call_path]
    exact afterTokens_of_holds h

/-- A state that goes on from the call answers it the same way. -/
theorem Grows.answer_eq (h : (n.call c).Grows n') (hrepeats : c.Repeats c') :
    n'.answer c' = n.answer c := by
  have hsame := (h.settles (n.settles_call c)).call_eq hrepeats
  cases hrepeats with
  | edit name tag => exact congrArg Answer.identifier h.edit_eq_of_edited
  | intern type tag tag' =>
    have hcode : n'.types.code? type = some (n.types.assign type tag).1 :=
      TypeCodes.code?_of_prefix h.codes_prefix (n.types.code?_assign type tag)
    have hagain := congrArg Prod.fst (TypeCodes.assign_of_known hcode tag')
    exact congrArg Answer.code hagain
  | path path =>
    refine congrArg Answer.path ?_
    cases hfound : placeholders path with
    | error error => rw [renderPath, renderPath, hfound]
    | ok found =>
      -- Both are what the later state makes of the path.
      have hagain : (n'.call (.path path)).Extends n' := hsame.symm ▸ Extends.refl n'
      rw [hagain.renderPath_eq ⟨found, hfound⟩, h.toExtends.renderPath_eq ⟨found, hfound⟩]
      rfl

end

/-- Whatever is called after a call, the same call gets the same answer again and changes nothing,
a path that is malformed and a type under another tag included. -/
theorem answer_again (n : Naming) {c c' : Call} (h : c.Repeats c') (between : List Call) :
    let n' := (n.call c).after between
    n'.answer c' = n.answer c ∧ n'.call c' = n' := by
  intro n'
  have hgrows : (n.call c).Grows n' := grows_after _ between
  exact ⟨hgrows.answer_eq h, (hgrows.settles (n.settles_call c)).call_eq h⟩

/-- A name that is cut, a type under a second tag and a path, each answered as before the other
calls. -/
theorem answer_again_rooms :
    let later (c : Call) := (twoOfFive.call c).after roomCalls
    let name : Call := .edit "bedtime" ""
    let path : Call := .path "/rooms/\x7bbedtime\x7d"
    (later name).answer name = .identifier ⟨"be000", true, false⟩ ∧
    (later (.intern "Bed" "ty_")).answer (.intern "Bed" "it_") = .code "ty_000" ∧
    (later path).answer path = .path (.ok "/rooms/\x7b iv000 \x7d") ∧
    (later path).call path = later path := by
  intro later name path
  have hname := answer_again twoOfFive (.edit "bedtime" "") roomCalls
  have htype := answer_again twoOfFive (.intern "Bed" "ty_" "it_") roomCalls
  have hpath := answer_again twoOfFive (.path "/rooms/\x7bbedtime\x7d") roomCalls
  refine ⟨hname.1.trans ?_, htype.1.trans ?_, hpath.1.trans ?_, hpath.2⟩ <;> decide +kernel

end Naming

end AbapNaming

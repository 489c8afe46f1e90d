import Mathlib.Tactic.Common
import ClientGen.Api.Grouping

/-!
# The choice among responses

A method returns one of the declared responses, or a text if none of them offers more. The chosen
response is updated in its place and nothing else changes. So a second choice from the responses
that the first one leaves gives the same again.
-/

namespace ClientGen.Proofs

/-- Stands for any status. -/
def ForAny (r : Response) : Prop := r.code = "default" ∨ r.code = "0"

/-- A success with a body that is no primitive. -/
structure Offers (r : Response) : Prop where
  success : r.code.toList.head? = some '2'
  body : ∃ type, r.dataType = some type
  notPrimitive : r.isPrimitive = false

/-- The response chosen from a list, and the list with that response updated in its place. -/
inductive Chosen (stringType : String) : List Response → Response → List Response → Prop
  | any {only chosen : Response} (hany : ForAny only)
    (h : chosen = { only with
      dataType := some stringType
      isListContainer := decide (only.container = .list) }) :
    Chosen stringType [only] chosen [chosen]
  | body {before after : List Response} {r chosen : Response} (hfirst : ∀ b ∈ before, ¬Offers b)
    (hr : Offers r) (h : chosen = { r with isListContainer := decide (r.container = .list) }) :
    Chosen stringType (before ++ r :: after) chosen (before ++ chosen :: after)
  | text {responses : List Response} (hlone : ∀ only, responses = [only] → ¬ForAny only)
    (hnone : ∀ r ∈ responses, ¬Offers r) :
    Chosen stringType responses (.generic stringType) responses

variable {stringType : String} {responses : List Response} {r : Response}

lemma isWildcard_iff : r.isWildcard = true ↔ ForAny r := by
  simp [Response.isWildcard, ForAny]

lemma hasModelBody_iff : r.hasModelBody = true ↔ Offers r := by
  rw [Response.hasModelBody, Bool.and_eq_true, Bool.and_eq_true, Option.isSome_iff_exists,
    Bool.not_eq_true', Response.isSuccess, Response.isSuccessCode, beq_iff_eq]
  exact ⟨fun h => ⟨h.1.1, h.1.2, h.2⟩, fun h => ⟨⟨h.success, h.body⟩, h.notPrimitive⟩⟩

instance (r : Response) : Decidable (Offers r) := decidable_of_iff _ hasModelBody_iff

/-- A code for any status is no success. -/
lemma Offers.not_forAny (h : Offers r) : ¬ForAny r := by
  have hcode := h.success
  rintro (hany | hany)
  · rw [hany] at hcode
    exact absurd hcode (by decide)
  · rw [hany] at hcode
    exact absurd hcode (by decide)

/-! ### The first body -/

lemma firstModelBody_append {before after : List Response}
    (h : ∀ b ∈ before, b.hasModelBody = false) (hr : r.hasModelBody = true) :
    firstModelBody stringType (before ++ r :: after) =
      (r.markList, before ++ r.markList :: after) := by
  have hplace : (before ++ r :: after).findIdx? (·.hasModelBody) = some before.length := by
    rw [List.findIdx?_append, List.findIdx?_eq_none_iff.2 h]
    simp [List.findIdx?_cons, hr]
  have hmarked : (before ++ r :: after).modify before.length Response.markList =
      before ++ r.markList :: after := by
    rw [List.modify_eq_take_drop]
    simp
  simp [firstModelBody, hplace, hmarked]

lemma firstModelBody_of_none (h : ∀ r ∈ responses, r.hasModelBody = false) :
    firstModelBody stringType responses = (.generic stringType, responses) := by
  rw [firstModelBody, List.findIdx?_eq_none_iff.2 h]

lemma selectResponse_wildcard {only : Response} (h : only.isWildcard = true) :
    selectResponse stringType [only] =
      ({ only with dataType := some stringType }.markList,
        [{ only with dataType := some stringType }.markList]) := by
  simp only [selectResponse, h, if_true]

lemma selectResponse_of_not_lone (h : ∀ only, responses = [only] → only.isWildcard = false) :
    selectResponse stringType responses = firstModelBody stringType responses := by
  unfold selectResponse
  split
  · rename_i only
    simp only [h only rfl, Bool.false_eq_true, if_false]
  · rfl

/-! ### The choice -/

namespace Chosen

variable {chosen : Response} {after : List Response}

/-- From a list no other response can be chosen, -/
lemma selectResponse_eq (h : Chosen stringType responses chosen after) :
    selectResponse stringType responses = (chosen, after) := by
  cases h with
  | any hany h =>
    rw [selectResponse_wildcard (isWildcard_iff.2 hany), h]
    rfl
  | @body before after r chosen hfirst hr h =>
    have hbefore : ∀ b ∈ before, b.hasModelBody = false := by
      intro b hb
      rw [← Bool.not_eq_true, hasModelBody_iff]
      exact hfirst b hb
    have hlone : ∀ only, before ++ r :: after = [only] → only.isWildcard = false := by
      intro only honly
      have hmem : r ∈ [only] := honly ▸ List.mem_append_right _ List.mem_cons_self
      rw [← Bool.not_eq_true, isWildcard_iff, ← List.mem_singleton.1 hmem]
      exact hr.not_forAny
    rw [selectResponse_of_not_lone hlone, firstModelBody_append hbefore (hasModelBody_iff.2 hr), h]
    rfl
  | text hlone hnone =>
    rw [selectResponse_of_not_lone, firstModelBody_of_none]
    · intro r hr
      rw [← Bool.not_eq_true, hasModelBody_iff]
      exact hnone r hr
    · intro only honly
      rw [← Bool.not_eq_true, isWildcard_iff]
      exact hlone only honly

/-- and one always is. -/
lemma exists_chosen (stringType : String) (responses : List Response) :
    ∃ chosen after, Chosen stringType responses chosen after := by
  by_cases hlone : ∃ only, responses = [only] ∧ ForAny only
  · obtain ⟨only, rfl, hany⟩ := hlone
    exact ⟨_, _, .any hany rfl⟩
  cases hfind : responses.find? fun r => decide (Offers r) with
  | none =>
    have hnone : ∀ r ∈ responses, ¬Offers r := by simpa using hfind
    exact ⟨_, _, .text (fun only honly hany => hlone ⟨only, honly, hany⟩) hnone⟩
  | some r =>
    obtain ⟨hr, before, after, rfl, hfirst⟩ := List.find?_eq_some_iff_append.1 hfind
    exact ⟨_, _, .body (by simpa using hfirst) (of_decide_eq_true hr) rfl⟩

lemma dataType_eq_some (h : Chosen stringType responses chosen after) :
    ∃ type, chosen.dataType = some type := by
  cases h with
  | any _ h => exact ⟨stringType, by rw [h]⟩
  | body _ hr h =>
    rw [h]
    exact hr.body
  | text => exact ⟨stringType, rfl⟩

/-- The update leaves the reason of the choice in place. -/
lemma again (h : Chosen stringType responses chosen after) :
    Chosen stringType after chosen after := by
  cases h with
  | any hany h =>
    rw [h]
    exact .any hany rfl
  | body hfirst hr h =>
    rw [h]
    exact .body hfirst ⟨hr.success, hr.body, hr.notPrimitive⟩ rfl
  | text hlone hnone => exact .text hlone hnone

end Chosen

lemma chosen_selectResponse (stringType : String) (responses : List Response) :
    Chosen stringType responses (selectResponse stringType responses).1
      (selectResponse stringType responses).2 := by
  obtain ⟨chosen, after, h⟩ := Chosen.exists_chosen stringType responses
  rw [h.selectResponse_eq]
  exact h

/-- What the updates leave alone, the choice leaves alone. -/
lemma map_selectResponse {γ : Type} {f : Response → γ} (hmark : ∀ r, f r.markList = f r)
    (htext : ∀ r type, f { r with dataType := type } = f r) (stringType : String)
    (responses : List Response) :
    (selectResponse stringType responses).2.map f = responses.map f := by
  have h := chosen_selectResponse stringType responses
  generalize (selectResponse stringType responses).1 = chosen at h
  generalize (selectResponse stringType responses).2 = after at h
  cases h with
  | @any only _ _ h =>
    have hf : f chosen = f only := by
      calc f chosen = f { only with dataType := some stringType }.markList := by rw [h]; rfl
        _ = f only := by rw [hmark, htext]
    rw [List.map_singleton, List.map_singleton, hf]
  | @body _ _ r _ _ _ h =>
    have hf : f chosen = f r := by
      calc f chosen = f r.markList := by rw [h]; rfl
        _ = f r := hmark r
    rw [List.map_append, List.map_append, List.map_cons, List.map_cons, hf]
  | text => rfl

/-- The choice among responses is the one that `Chosen` tells: a single response for any status, else
the first success with a body that is no primitive, else a text. Only the chosen response changes,
in the fields that the choice sets. It always has a type, and a second choice gives it again and
changes nothing. -/
theorem response_choice (stringType : String) (responses : List Response) :
    (∀ chosen after, Chosen stringType responses chosen after ↔
      selectResponse stringType responses = (chosen, after)) ∧
    (∃ type, (selectResponse stringType responses).1.dataType = some type) ∧
    selectResponse stringType (selectResponse stringType responses).2 =
      selectResponse stringType responses := by
  have hchosen := chosen_selectResponse stringType responses
  refine ⟨fun chosen after => ⟨Chosen.selectResponse_eq, fun h => ?_⟩, hchosen.dataType_eq_some,
    hchosen.again.selectResponse_eq⟩
  rw [h] at hchosen
  exact hchosen

end ClientGen.Proofs

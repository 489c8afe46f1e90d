import ClientGen.Proofs.Grouping
import ClientGen.Proofs.ResponseChoice

/-!
# Responses of an operation

A method returns the first success whose body is more than a built-in type of the target, else a
text. Whether it is more is asked of the type inside all containers: a list or a map of built-in
types counts as a primitive, and so does a model whose name a type table turns into one.
-/

namespace ClientGen.Proofs

variable {p : Profile} {t : Target} {d : Document} {c : Config}

/-- The declared type of the body of a response. -/
def bodyType? (e : String × ResponseDecl) : Option SchemaType := e.2.schema.map Schema.type

/-- A single response that stands for any status. -/
def LoneWildcard (responses : Entries ResponseDecl) : Prop :=
  ∃ e, responses = [e] ∧ (e.1 = "default" ∨ e.1 = "0")

section

variable (p t)

/-- Inside its containers the type is built into the target. -/
def holdsBuiltIn (type : SchemaType) : Bool :=
  t.spec.classes.isPrimitive (p.resolveType t type.innermost)

/-- A success whose body holds more than a built-in type. -/
def Returnable (e : String × ResponseDecl) : Prop :=
  Response.isSuccessCode e.1 = true ∧
    ∃ type, bodyType? e = some type ∧ holdsBuiltIn p t type = false

/-- What the declared responses make a method return. -/
inductive Returns (responses : Entries ResponseDecl) (r : Response) : Prop
  | wildcard {e : String × ResponseDecl} (h : responses = [e])
    (hany : e.1 = "default" ∨ e.1 = "0") (code : r.code = e.1)
    (dataType : r.dataType = some t.spec.stringType)
  | body {before after : Entries ResponseDecl} {e : String × ResponseDecl} {type : SchemaType}
    (h : responses = before ++ e :: after) (hfirst : ∀ b ∈ before, ¬Returnable p t b)
    (he : Returnable p t e) (htype : bodyType? e = some type) (code : r.code = e.1)
    (dataType : r.dataType = some (p.resolveType t type))
    (baseType : r.baseType = some (p.resolveType t type.innermost))
    (container : r.container = type.container) (isPrimitive : r.isPrimitive = false)
    (isListContainer : r.isListContainer = true ↔ type.container = .list)
    (description : r.description = e.2.description)
  | text (hlone : ¬LoneWildcard responses) (hnone : ∀ e ∈ responses, ¬Returnable p t e)
    (h : r = .generic t.spec.stringType)

end

/-! ### One response -/

lemma build_response (e : String × ResponseDecl) :
    Response.build p t e.1 e.2 =
      { code := e.1
        dataType := (bodyType? e).map (p.resolveType t)
        baseType := (bodyType? e).map fun type => p.resolveType t type.innermost
        container := ((bodyType? e).map SchemaType.container).getD .scalar
        isPrimitive := (bodyType? e).all (holdsBuiltIn p t)
        description := e.2.description } := by
  unfold Response.build bodyType?
  cases e.2.schema <;> rfl

lemma offers_build (e : String × ResponseDecl) :
    Offers (Response.build p t e.1 e.2) ↔ Returnable p t e := by
  rw [← hasModelBody_iff, build_response]
  unfold Response.hasModelBody Response.isSuccess Returnable
  cases bodyType? e <;> simp

instance (e : String × ResponseDecl) : Decidable (Returnable p t e) :=
  decidable_of_iff _ (offers_build e)

lemma forAny_build (e : String × ResponseDecl) :
    ForAny (Response.build p t e.1 e.2) ↔ e.1 = "default" ∨ e.1 = "0" := by
  rw [ForAny, build_response]

/-! ### Responses of a finished operation -/

/-- The responses of an operation as the build phase leaves them. -/
abbrev builtResponses (p : Profile) (t : Target) (responses : Entries ResponseDecl) :
    List Response :=
  responses.map fun e => Response.build p t e.1 e.2

/-- What the choice leaves alone, an operation has from its declaration. -/
lemma map_responses_finishedOperation {γ : Type} {f : Response → γ}
    (hmark : ∀ r, f r.markList = f r) (htext : ∀ r type, f { r with dataType := type } = f r)
    (resource : Option String) (site : OperationSite) :
    (finishedOperation p t resource (.build p t site)).responses.map f =
      site.decl.responses.map fun e => f (.build p t e.1 e.2) := by
  have hchosen : (finishedOperation p t resource (.build p t site)).responses =
      (selectResponse t.spec.stringType (builtResponses p t site.decl.responses)).2 := rfl
  rw [hchosen, map_selectResponse hmark htext, List.map_map]
  rfl

lemma successfulResponse_finishedOperation (resource : Option String) (site : OperationSite) :
    (finishedOperation p t resource (.build p t site)).successfulResponse =
      some (selectResponse t.spec.stringType (builtResponses p t site.decl.responses)).1 := rfl

theorem returns_selectResponse (responses : Entries ResponseDecl) :
    Returns p t responses
      (selectResponse t.spec.stringType (builtResponses p t responses)).1 := by
  have hchosen := chosen_selectResponse t.spec.stringType (builtResponses p t responses)
  generalize hbuilt : builtResponses p t responses = built at hchosen ⊢
  generalize (selectResponse t.spec.stringType built).1 = chosen at hchosen ⊢
  generalize (selectResponse t.spec.stringType built).2 = after at hchosen
  cases hchosen with
  | any hany h =>
    obtain ⟨e, rfl, rfl⟩ := List.map_eq_singleton_iff.1 hbuilt
    refine .wildcard rfl ((forAny_build e).1 hany) ?_ (by rw [h])
    rw [h, build_response]
  | body hfirst hr h =>
    obtain ⟨before, rest, rfl, rfl, hrest⟩ := List.map_eq_append_iff.1 hbuilt
    obtain ⟨e, after, rfl, rfl, rfl⟩ := List.map_eq_cons_iff.1 hrest
    have hfirst : ∀ b ∈ before, ¬Returnable p t b := fun b hb =>
      mt (offers_build b).2 (hfirst _ (List.mem_map_of_mem hb))
    obtain ⟨hcode, type, htype, hbody⟩ := (offers_build e).1 hr
    refine .body rfl hfirst ⟨hcode, type, htype, hbody⟩ htype ?_ ?_ ?_ ?_ ?_ ?_ ?_
    all_goals simp [h, build_response, htype, hbody]
  | text hlone hnone =>
    rw [← hbuilt] at hlone hnone
    refine .text ?_ (fun e he => mt (offers_build e).2 (hnone _ (List.mem_map_of_mem he))) rfl
    rintro ⟨e, rfl, hany⟩
    exact hlone _ rfl ((forAny_build e).2 hany)

/-- Every operation of a finished run returns what its declared responses say. A response counts as
primitive exactly when it has no body or its body holds a built-in type, in whatever containers: a
method passes such a success over, and returns a text if there is no other. -/
theorem returns_of_run (hp : p ∈ Registry.builtin.profiles) {run : Run}
    (h : generate p d c = .ok run) :
    ∃ api, run.api = some api ∧ ∀ o ∈ api.operations, ∃ site ∈ d.sites,
      o.rawPath = site.path ∧ o.method = site.method ∧
      (o.responses.map fun r => (r.code, r.isPrimitive)) =
        (site.decl.responses.map fun e =>
          (e.1, (bodyType? e).all (holdsBuiltIn p (p.configure c)))) ∧
      ∃ r, o.successfulResponse = some r ∧ Returns p (p.configure c) site.decl.responses r := by
  obtain ⟨-, rfl⟩ := generate_eq_ok_iff.1 h
  refine ⟨finishedApi p (p.configure c) d, rfl, fun o ho => ?_⟩
  obtain ⟨site, hsite, resource, rfl⟩ := exists_site_of_mem_operations hp ho
  refine ⟨site, hsite, rfl, rfl, ?_, _, successfulResponse_finishedOperation resource site,
    returns_selectResponse _⟩
  rw [map_responses_finishedOperation (fun _ => rfl) fun _ _ => rfl]
  refine List.map_congr_left fun e _ => ?_
  rw [build_response]

/-- A list of texts, the same before a model, and a response for any status. -/
def taggedPaths : Document where
  definitions := [("Tag", {})]
  paths :=
    [("/tags",
      { get := some { id := some "names", responses := [("200", { schema := some names })] }
        post := some
          { id := some "create"
            responses := [("200", { schema := some names }), ("201", { schema := some tag })] }
        delete := some { id := some "clear", responses := [("default", { schema := some tag })] } })]
where
  names : Schema := { kind := some "array", items := some { kind := some "string" } }
  tag : Schema := { reference := some "#/definitions/Tag" }

theorem returns_of_run_taggedPaths :
    generate Plain.profile taggedPaths {} = .ok (finishedRun Plain.profile taggedPaths {}) ∧
      ∃ api, (finishedRun Plain.profile taggedPaths {}).api = some api ∧
        (api.operations.map fun o => o.successfulResponse.map fun r => (r.code, r.dataType)) =
          [some ("", some "String"), some ("201", some "Tag"), some ("default", some "String")] ∧
        ∀ o ∈ api.operations, ∃ site ∈ taggedPaths.sites, ∃ r, o.successfulResponse = some r ∧
          Returns Plain.profile (Plain.profile.configure {}) site.decl.responses r := by
  have hrun : generate Plain.profile taggedPaths {} =
      .ok (finishedRun Plain.profile taggedPaths {}) := generate_of_accepted (by decide +kernel)
  obtain ⟨api, hapi, hops⟩ := returns_of_run (mem_builtin_iff.2 (by simp)) hrun
  refine ⟨hrun, api, hapi, ?_, fun o ho => ?_⟩
  · obtain rfl := Option.some.inj hapi
    decide +kernel
  · obtain ⟨site, hsite, -, -, -, r, hr, hreturns⟩ := hops o ho
    exact ⟨site, hsite, r, hr, hreturns⟩

end ClientGen.Proofs

import ClientGen.Proofs.FinishedModels

/-!
# Ids and raw data of finished models

The phase for models chooses the id and lists the raw properties by their places. Later phases
change types, flags and names of types, but neither the order of the properties nor what the phase
has said about them.
-/

namespace ClientGen.Proofs

variable {p : Profile} {t : Target} {d : Document} {c : Config}

/-! ### Places of raw properties -/

lemma mem_rawPlaces {qs : List Property} {i : Nat} :
    i ∈ rawPlaces qs ↔ ∃ q, qs[i]? = some q ∧ q.isRaw = true := by
  unfold rawPlaces
  constructor
  · intro h
    obtain ⟨⟨q, j⟩, hmem, hj⟩ := List.mem_filterMap.1 h
    have hq : qs[j]? = some q := List.mem_zipIdx_iff_getElem?.1 hmem
    by_cases hraw : q.isRaw = true
    · obtain rfl : j = i := by simpa [hraw] using hj
      exact ⟨q, hq, hraw⟩
    · simp [hraw] at hj
  · rintro ⟨q, hq, hraw⟩
    exact List.mem_filterMap.2 ⟨(q, i), List.mem_zipIdx_iff_getElem?.2 hq, by simp [hraw]⟩

lemma pairwise_rawPlaces (qs : List Property) : (rawPlaces qs).Pairwise (· < ·) := by
  have hplaces : (qs.zipIdx.map Prod.snd).Pairwise (· < ·) := by
    rw [List.zipIdx_map_snd]
    exact List.pairwise_lt_range'
  unfold rawPlaces
  refine List.Pairwise.filterMap _ ?_ (List.pairwise_map.1 hplaces)
  rintro ⟨q, i⟩ ⟨r, j⟩ hlt i' hi j' hj
  dsimp only at hlt hi hj
  split_ifs at hi hj
  obtain rfl := Option.some.inj hi
  obtain rfl := Option.some.inj hj
  exact hlt

/-- The places listed give the raw properties in their order. -/
lemma filterMap_rawPlaces (qs : List Property) :
    (rawPlaces qs).filterMap (qs[·]?) = qs.filter (·.isRaw) := by
  have hplaces : ∀ x ∈ qs.zipIdx, (if x.1.isRaw then some x.2 else none).bind (qs[·]?) =
      if x.1.isRaw then some x.1 else none := by
    rintro ⟨q, i⟩ hmem
    have hq : qs[i]? = some q := List.mem_zipIdx_iff_getElem?.1 hmem
    split_ifs
    · rw [Option.bind_some, hq]
    · rfl
  have hfirst : qs.zipIdx.map Prod.fst = qs := List.zipIdx_map_fst 0 qs
  calc (rawPlaces qs).filterMap (qs[·]?)
      = qs.zipIdx.filterMap fun x => if x.1.isRaw then some x.1 else none := by
        rw [rawPlaces, List.filterMap_filterMap]
        exact List.filterMap_congr hplaces
    _ = (qs.zipIdx.map Prod.fst).filterMap (Option.guard (·.isRaw)) := by
        rw [List.filterMap_map]
        rfl
    _ = qs.filter (·.isRaw) := by rw [hfirst, List.filterMap_eq_filter]

lemma any_drop_iff {α : Type} {f : α → Bool} {xs : List α} {i : Nat} :
    (xs.drop (i + 1)).any f = true ↔ ∃ j x, i < j ∧ xs[j]? = some x ∧ f x = true := by
  rw [List.any_eq_true]
  constructor
  · rintro ⟨x, hx, hf⟩
    obtain ⟨k, hk⟩ := List.mem_iff_getElem?.1 hx
    rw [List.getElem?_drop] at hk
    exact ⟨i + 1 + k, x, by omega, hk, hf⟩
  · rintro ⟨j, x, hj, hx, hf⟩
    refine ⟨x, List.mem_iff_getElem?.2 ⟨j - (i + 1), ?_⟩, hf⟩
    rw [List.getElem?_drop, show i + 1 + (j - (i + 1)) = j by omega]
    exact hx

/-! ### The place of the id -/

lemma idIndex?_eq_some_iff {m : Model} {i : Nat} :
    m.idIndex? = some i ↔ ∃ q, m.properties[i]? = some q ∧ m.id = some q.name ∧ q.name ≠ "" ∧
      ∀ j r, j < i → m.properties[j]? = some r → r.name ≠ q.name := by
  constructor
  · intro h
    unfold Model.idIndex? at h
    split at h
    · cases h
    · rename_i id hid
      split_ifs at h with hempty
      obtain ⟨hi, hname, hfirst⟩ := List.findIdx?_eq_some_iff_getElem.1 h
      have hname : m.properties[i].name = id := by simpa using hname
      refine ⟨m.properties[i], List.getElem?_eq_getElem hi, by rw [hname, hid], ?_, ?_⟩
      · rw [hname]
        simpa using hempty
      · intro j r hj hr
        obtain ⟨hlt, rfl⟩ := List.getElem?_eq_some_iff.1 hr
        rw [hname]
        simpa using hfirst j hj
  · rintro ⟨q, hq, hid, hempty, hfirst⟩
    obtain ⟨hi, rfl⟩ := List.getElem?_eq_some_iff.1 hq
    simp only [Model.idIndex?, hid]
    rw [if_neg (by simpa using hempty), List.findIdx?_eq_some_iff_getElem]
    refine ⟨hi, beq_self_eq_true _, fun j hj => ?_⟩
    have hlt : j < m.properties.length := Nat.lt_trans hj hi
    simpa using hfirst j _ hj (List.getElem?_eq_getElem hlt)

/-- Only the names decide which property is the id. -/
lemma idIndex?_congr {m n : Model} (hid : m.id = n.id)
    (hnames : m.properties.map (·.name) = n.properties.map (·.name)) :
    m.idIndex? = n.idIndex? := by
  have hplace : ∀ (qs : List Property) (id : String),
      qs.findIdx? (·.name == id) = (qs.map (·.name)).findIdx? (· == id) := by
    intro qs id
    rw [List.findIdx?_map]
    rfl
  unfold Model.idIndex?
  simp only [hid, hplace, hnames]

/-- The place that was chosen before the last phases is the place by the names in the end. -/
lemma idIndex?_finishedModel (hp : p ∈ Registry.builtin.profiles) (name : String) (s : Schema) :
    (finishedModel p t name s).idIndex? = idPlace p t s := by
  refine idIndex?_congr (finishedModel_fields hp name s).2.2 ?_
  rw [map_finishedModel hp name s fun e q hq => hq.name]
  simp only [Model.build, Model.refreshFlags, List.map_map]
  rfl

/-! ### Properties of a model together -/

lemma isId_finishedModel (hp : p ∈ Registry.builtin.profiles) {name : String} {s : Schema}
    {i : Nat} {q : Property} (h : (finishedModel p t name s).properties[i]? = some q) :
    q.isId = true ↔ (finishedModel p t name s).idIndex? = some i := by
  rw [getElem?_finishedModel hp] at h
  obtain ⟨e, -, rfl⟩ := Option.map_eq_some_iff.1 h
  rw [idIndex?_finishedModel hp, finish_eq hp, placed_eq]
  simp [undefaulted, Property.build]

/-- The name of the id, as the settings give it; an empty text names nothing. -/
def NamesId (t : Target) (name : String) : Prop :=
  t.settings.get? primaryKeyOption = some (.str name) ∧ name ≠ ""

lemma primaryKey_eq_some_iff {id : String} :
    primaryKey t = some id ↔ t.settings.get? primaryKeyOption = some (.str id) := by
  unfold primaryKey Settings.string?
  cases t.settings.get? primaryKeyOption with
  | none => simp
  | some value => cases value <;> simp [Json.string?]

/-- Ids and raw data of a model, told from its properties as they are. -/
structure Arranged (t : Target) (m : Model) : Prop where
  increasing : m.rawIndices.Pairwise (· < ·)
  rawIndices : ∀ i, i ∈ m.rawIndices ↔ ∃ q, m.properties[i]? = some q ∧ q.isRaw = true
  isRaw : ∀ q ∈ m.properties, q.isRaw = t.spec.classes.isRaw q.dataType
  hasMoreRaw : ∀ (i : Nat) (q : Property), m.properties[i]? = some q →
    (q.hasMoreRaw = true ↔
      q.isRaw = true ∧ ∃ j r, i < j ∧ m.properties[j]? = some r ∧ r.isRaw = true)
  isId : ∀ (i : Nat) (q : Property), m.properties[i]? = some q →
    (q.isId = true ↔
      NamesId t q.name ∧ ∀ j r, j < i → m.properties[j]? = some r → r.name ≠ q.name)

/-- The types of ids are not raw, neither before nor after the profile has changed them. -/
lemma isRaw_idType (hp : p ∈ Registry.builtin.profiles) (c : Config) (type : String) :
    (p.configure c).spec.classes.isRaw (p.idType (p.configure c) type) =
      (p.configure c).spec.classes.isRaw type := by
  rw [classes_configure hp, idType_builtin hp]
  split_ifs with h
  · obtain ⟨hn, rfl⟩ := h
    obtain rfl := (isLoopBack_iff hp).1 hn
    rfl
  · rfl

lemma Settled.isRaw_dataType (hp : p ∈ Registry.builtin.profiles) {mandatory : Bool}
    {declared : String} {s : Schema} {q : Property}
    (h : Settled p (p.configure c) mandatory declared s q) :
    q.isRaw = (p.configure c).spec.classes.isRaw q.dataType := by
  rw [h.isRaw, h.dataType]
  split_ifs
  · rw [isRaw_idType hp]
  · rfl

lemma rawIndices_finishedModel (hp : p ∈ Registry.builtin.profiles) (name : String) (s : Schema) :
    (finishedModel p t name s).rawIndices = rawPlaces (identified p t name s).properties := by
  rw [finishedModel_eq hp]
  rfl

lemma rawPlaces_congr {qs rs : List Property} (h : qs.map (·.isRaw) = rs.map (·.isRaw)) :
    rawPlaces qs = rawPlaces rs := by
  have hplaces : ∀ qs : List Property, rawPlaces qs =
      (qs.map (·.isRaw)).zipIdx.filterMap fun (raw, i) => if raw then some i else none := by
    intro qs
    unfold rawPlaces
    rw [List.zipIdx_map, List.filterMap_map]
    rfl
  rw [hplaces, hplaces, h]

lemma isRaws_finishedModel (hp : p ∈ Registry.builtin.profiles) (name : String) (s : Schema) :
    (finishedModel p t name s).properties.map (·.isRaw) =
      (identified p t name s).properties.map (·.isRaw) := by
  rw [isRaw_identified, map_finishedModel hp name s fun e q hq => hq.isRaw]

/-- The places that were listed before the last phases are those of the raw properties in the end. -/
lemma rawIndices_eq_rawPlaces (hp : p ∈ Registry.builtin.profiles) (name : String) (s : Schema) :
    (finishedModel p t name s).rawIndices = rawPlaces (finishedModel p t name s).properties := by
  rw [rawIndices_finishedModel hp, rawPlaces_congr (isRaws_finishedModel hp name s)]

lemma rawProperties_of_mem (hp : p ∈ Registry.builtin.profiles) {m : Model}
    (hm : m ∈ (finishedApi p t d).models) : m.rawProperties = m.properties.filter (·.isRaw) := by
  rw [finishedApi_models] at hm
  obtain ⟨e, -, rfl⟩ := List.mem_map.1 hm
  rw [Model.rawProperties, rawIndices_eq_rawPlaces hp, filterMap_rawPlaces]

lemma hasMoreRaw_finishedModel (hp : p ∈ Registry.builtin.profiles) {name : String} {s : Schema}
    {i : Nat} {q : Property} (h : (finishedModel p t name s).properties[i]? = some q) :
    q.hasMoreRaw =
      (q.isRaw && ((finishedModel p t name s).properties.drop (i + 1)).any (·.isRaw)) := by
  have hafter : ((finishedModel p t name s).properties.drop (i + 1)).any (·.isRaw) =
      rawAfter p t s i :=
    any_drop_congr (map_finishedModel hp name s fun e q hq => hq.isRaw) (i + 1)
  rw [hafter]
  rw [getElem?_finishedModel hp] at h
  obtain ⟨e, -, rfl⟩ := Option.map_eq_some_iff.1 h
  rw [finish_eq hp, placed_eq]
  simp only [undefaulted, Property.build]
  by_cases hraw : t.spec.classes.isRaw (p.resolveType t e.2.type) = true <;> simp [hraw]

theorem arranged_finishedModel (hp : p ∈ Registry.builtin.profiles) (c : Config) (name : String)
    (s : Schema) : Arranged (p.configure c) (finishedModel p (p.configure c) name s) := by
  have hplaces := rawIndices_eq_rawPlaces (t := p.configure c) hp name s
  constructor
  case increasing =>
    rw [hplaces]
    exact pairwise_rawPlaces _
  case rawIndices =>
    intro i
    rw [hplaces, mem_rawPlaces]
  case isRaw =>
    intro q hq
    obtain ⟨e, -, hsettled⟩ := settled_of_mem hp hq
    exact hsettled.isRaw_dataType hp
  case hasMoreRaw =>
    intro i q hq
    rw [hasMoreRaw_finishedModel hp hq, Bool.and_eq_true, any_drop_iff]
  case isId =>
    intro i q hq
    have hkey := (finishedModel_fields (t := p.configure c) hp name s).2.2
    rw [isId_finishedModel hp hq, idIndex?_eq_some_iff, hkey, NamesId]
    constructor
    · rintro ⟨r, hr, hid, hne, hfirst⟩
      obtain rfl : r = q := Option.some.inj (hr.symm.trans hq)
      exact ⟨⟨primaryKey_eq_some_iff.1 hid, hne⟩, hfirst⟩
    · rintro ⟨⟨hid, hne⟩, hfirst⟩
      exact ⟨q, hq, primaryKey_eq_some_iff.2 hid, hne, hfirst⟩

/-! ### Models without an id -/

/-- The report about a model that is no enumeration and has no id. -/
def missingId (m : Model) : Diagnostic :=
  ⟨.info, modelPhase, "model has no id property", some ("definitions." ++ m.name)⟩

/-- A model that is no enumeration and has no property that is its id. -/
def unidentified (m : Model) : Bool := !m.isEnumType && !m.properties.any (·.isId)

lemma lacksId_build (hp : p ∈ Registry.builtin.profiles) (name : String) (s : Schema) :
    (Model.build p t name s).lacksId (primaryKey t) =
      ((primaryKey t).isSome && unidentified (finishedModel p t name s)) := by
  have hplace : ({ Model.build p t name s with id := primaryKey t } : Model).idIndex? =
      (finishedModel p t name s).idIndex? := (idIndex?_finishedModel hp name s).symm
  have hany : (finishedModel p t name s).properties.any (·.isId) =
      (finishedModel p t name s).idIndex?.isSome := by
    rw [Bool.eq_iff_iff, List.any_eq_true, Option.isSome_iff_exists]
    constructor
    · rintro ⟨q, hq, hid⟩
      obtain ⟨i, hi⟩ := List.mem_iff_getElem?.1 hq
      exact ⟨i, (isId_finishedModel hp hi).1 hid⟩
    · rintro ⟨i, hi⟩
      obtain ⟨q, hq, -⟩ := idIndex?_eq_some_iff.1 hi
      exact ⟨q, List.mem_of_getElem? hq, (isId_finishedModel hp hq).2 hi⟩
  have henum : (finishedModel p t name s).isEnumType = (Model.build p t name s).isEnumType :=
    (finishedModel_fields hp name s).2.1
  unfold Model.lacksId unidentified
  rw [hplace, hany, henum, Bool.and_assoc]
  cases (finishedModel p t name s).idIndex? <;> rfl

lemma identifyDiagnostics_builtApi (hp : p ∈ Registry.builtin.profiles) :
    (builtApi p t d).identifyDiagnostics t =
      if (primaryKey t).isSome then
        ((finishedApi p t d).models.filter unidentified).map missingId
      else [] := by
  have hreport : (builtApi p t d).identifyDiagnostics t =
      (d.definitions.filter fun e => (Model.build p t e.1 e.2).lacksId (primaryKey t)).map
        fun e => missingId (finishedModel p t e.1 e.2) := by
    simp only [Api.identifyDiagnostics, builtApi, List.filter_map, List.map_map]
    refine List.map_congr_left fun e _ => ?_
    simp only [Function.comp_apply, missingId, (finishedModel_fields hp e.1 e.2).1]
    rfl
  rw [hreport, finishedApi_models, List.filter_map, List.map_map]
  simp only [lacksId_build hp]
  cases (primaryKey t).isSome
  · simp
  · simp only [Bool.true_and, if_true]
    rfl

lemma phase_unknownType {type : SchemaType} {location : String} {x : Diagnostic}
    (h : x ∈ unknownType t type location) : x.phase = buildPhase := by
  unfold unknownType at h
  split at h
  · split_ifs at h
    · cases h
    · obtain rfl := List.mem_singleton.1 h
      rfl
  · cases h

lemma phase_modelDiagnostics {name : String} {s : Schema} {x : Diagnostic}
    (h : x ∈ Model.diagnostics t name s) : x.phase = buildPhase := by
  obtain ⟨e, -, hx⟩ := List.mem_flatMap.1 h
  exact phase_unknownType hx

lemma phase_operationDiagnostics {site : OperationSite} {x : Diagnostic}
    (h : x ∈ Operation.diagnostics t site) : x.phase = buildPhase := by
  rcases List.mem_append.1 h with hbrace | hparam
  · split_ifs at hbrace
    · obtain rfl := List.mem_singleton.1 hbrace
      rfl
    · cases hbrace
  · obtain ⟨q, -, hx⟩ := List.mem_flatMap.1 hparam
    exact phase_unknownType hx

/-- The phase for models reports what it misses, and no other phase speaks in its name. -/
lemma filter_finishedDiagnostics :
    (finishedDiagnostics p t d).filter (·.phase == modelPhase) =
      (builtApi p t d).identifyDiagnostics t := by
  have hbuild : ∀ xs : List Diagnostic, (∀ x ∈ xs, x.phase = buildPhase) →
      xs.filter (·.phase == modelPhase) = [] := by
    intro xs hxs
    refine List.filter_eq_nil_iff.2 fun x hx => ?_
    rw [hxs x hx]
    decide
  have hgroups : ((((builtApi p t d).identify p t).finishModels p t).groupDiagnostics).filter
      (·.phase == modelPhase) = [] := by
    refine List.filter_eq_nil_iff.2 fun x hx => ?_
    obtain ⟨g, -, rfl⟩ := List.mem_map.1 hx
    exact (by decide : ¬(groupPhase == modelPhase) = true)
  have hown : ((builtApi p t d).identifyDiagnostics t).filter (·.phase == modelPhase) =
      (builtApi p t d).identifyDiagnostics t := by
    refine List.filter_eq_self.2 fun x hx => ?_
    obtain ⟨m, -, rfl⟩ := List.mem_map.1 hx
    rfl
  unfold finishedDiagnostics
  rw [List.filter_append, List.filter_append, List.filter_append, hgroups, hown, hbuild, hbuild,
    List.nil_append, List.nil_append, List.append_nil]
  · intro x hx
    obtain ⟨site, -, hx⟩ := List.mem_flatMap.1 hx
    exact phase_operationDiagnostics hx
  · intro x hx
    obtain ⟨e, -, hx⟩ := List.mem_flatMap.1 hx
    exact phase_modelDiagnostics hx

/-- A finished run has a model for each definition, with the declared properties in their order.
Every model lists its raw properties and knows its id by its final properties alone, and the phase
for models has reported the models without an id, in their order, if the settings name one. -/
theorem arranged_of_run (hp : p ∈ Registry.builtin.profiles) {run : Run}
    (h : generate p d c = .ok run) :
    ∃ api, run.api = some api ∧
      (api.models.map fun m => (m.name, m.properties.map (·.baseName))) =
        (d.definitions.map fun e => (e.1, e.2.properties.map (·.1))) ∧
      (∀ m ∈ api.models, Arranged (p.configure c) m) ∧
      (∀ id, (p.configure c).settings.get? primaryKeyOption = some (.str id) →
        run.diagnostics.filter (·.phase == modelPhase) =
          (api.models.filter unidentified).map missingId) ∧
      ((∀ id, (p.configure c).settings.get? primaryKeyOption ≠ some (.str id)) →
        run.diagnostics.filter (·.phase == modelPhase) = []) := by
  obtain ⟨-, rfl⟩ := generate_eq_ok_iff.1 h
  have hreport : (finishedRun p d c).diagnostics.filter (·.phase == modelPhase) =
      (builtApi p (p.configure c) d).identifyDiagnostics (p.configure c) :=
    filter_finishedDiagnostics
  rw [hreport, identifyDiagnostics_builtApi hp]
  refine ⟨finishedApi p (p.configure c) d, rfl, ?_, ?_, ?_, ?_⟩
  · rw [finishedApi_models, List.map_map]
    refine List.map_congr_left fun e _ => ?_
    rw [Function.comp_apply, (finishedModel_fields hp e.1 e.2).1, baseNames_finishedModel hp]
  · intro m hm
    rw [finishedApi_models] at hm
    obtain ⟨e, -, rfl⟩ := List.mem_map.1 hm
    exact arranged_finishedModel hp c e.1 e.2
  · intro id hid
    rw [primaryKey_eq_some_iff.2 hid, Option.isSome_some, if_pos rfl]
  · intro hnone
    have hkey : primaryKey (p.configure c) = none := by
      refine Option.eq_none_iff_forall_not_mem.2 fun id hid => ?_
      exact hnone id (primaryKey_eq_some_iff.1 hid)
    rw [hkey]
    rfl

/-- Two properties of one name, the raw ones apart, and a model and an enumeration without id. -/
def scattered : Document where
  definitions :=
    [("Blob",
      { properties :=
          [("head", { kind := some "string", format := some "binary" }),
           ("id", { kind := some "string", format := some "binary" }),
           ("size", { kind := some "integer" }),
           ("Id", { kind := some "string", format := some "binary" })] }),
     ("Color", { kind := some "string", allowed := [.str "red"] }),
     ("Empty", {})]

theorem arranged_of_run_scattered :
    generate Plain.profile scattered {} = .ok (finishedRun Plain.profile scattered {}) ∧
      ∃ api, (finishedRun Plain.profile scattered {}).api = some api ∧
        (api.models.flatMap fun m => m.properties.map fun q =>
          (q.name, q.isId, q.isRaw, q.hasMoreRaw)) =
            [("head", false, true, true), ("id", true, true, true), ("size", false, false, false),
             ("id", false, true, false)] ∧
        api.models.map (·.rawIndices) = [[0, 1, 3], [], []] ∧
        (∀ m ∈ api.models, Arranged (Plain.profile.configure {}) m) ∧
        (finishedRun Plain.profile scattered {}).diagnostics.filter (·.phase == modelPhase) =
          (api.models.filter unidentified).map missingId ∧
        (api.models.filter unidentified).map (·.name) = ["Empty"] := by
  have hrun : generate Plain.profile scattered {} =
      .ok (finishedRun Plain.profile scattered {}) := generate_of_accepted (by decide +kernel)
  obtain ⟨api, hapi, -, hmodels, hreport, -⟩ := arranged_of_run (mem_builtin_iff.2 (by simp)) hrun
  have hid : (Plain.profile.configure {}).settings.get? primaryKeyOption = some (.str "id") :=
    primaryKey_eq_some_iff.1 (by decide +kernel)
  refine ⟨hrun, api, hapi, ?_, ?_, hmodels, hreport "id" hid, ?_⟩
  all_goals obtain rfl := Option.some.inj hapi
  all_goals decide +kernel

end ClientGen.Proofs

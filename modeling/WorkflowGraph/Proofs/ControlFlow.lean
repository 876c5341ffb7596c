import WorkflowGraph.Proofs.Canonical

/-!
# Control flow and the details of edges

The edges of a spec are one for each target of its groups, in order, and where they lead and when
they are followed is told by the groups alone. The details that a spec keeps of edges have no part in
it: two documents that differ in these details only have edges of the same ids and routes, and the
same backend document, whatever the details are. Main statement: `control_flow_of_spec`.
-/

namespace WorkflowGraph

/-! ## Fields that agree -/

namespace Json

/-- The fields are the same, but for one key. -/
def Fields.AgreeBut (key : String) (a b : Fields) : Prop :=
  ∀ k, k ≠ key → a.get? k = b.get? k

/-- The fields of the object under a key; none if there is no object. -/
def Fields.inner (fields : Fields) (key : String) : Fields :=
  (fields.getD key).fields?.getD []

/-- The documents are the same, but for the details of edges in their metadata. -/
inductive AgreeButDetails : Json → Json → Prop where
  | intro {a b : Fields} (fields_agree : a.AgreeBut "metadata" b)
      (metadata_agree : (a.inner "metadata").AgreeBut "edge_details" (b.inner "metadata")) :
      AgreeButDetails (.obj a) (.obj b)

end Json

namespace Schema

variable {α : Type} {fields fields' : Json.Fields} {key : String}

theorem optional_congr (h : fields.get? key = fields'.get? key) (default : α)
    (check : Json → Checked α) :
    optional fields [key] default check = optional fields' [key] default check := by
  simp only [optional, lookup?, h]

end Schema

namespace Spec

/-! ## Specs that agree -/

/-- What is kept besides where nothing is kept. -/
def Metadata.blank : Metadata := ⟨none, none, .empty, [], []⟩

/-- What is kept besides, without the details of edges. -/
def Metadata.withoutDetails (m : Metadata) : Metadata :=
  { m with edgeDetails := [] }

/-- The spec without the details of edges. -/
def withoutDetails (spec : Spec) : Spec :=
  { spec with metadata := some (spec.metadata.getD .blank).withoutDetails }

/-- Metadata that is not there is read as if it were empty. -/
theorem ofFields_inner_metadata {fields : Json.Fields} {m? : Option Metadata}
    (h : Schema.optional fields ["metadata"] none
      (Schema.nullable (Schema.record "SpecMetadata" Metadata.ofFields)) = .valid m?) :
    Metadata.ofFields (fields.inner "metadata") = .valid (m?.getD .blank) := by
  have hblank : Metadata.ofFields [] = .valid .blank := rfl
  unfold Schema.optional Schema.lookup? at h
  rw [Json.Fields.inner, Json.Fields.getD]
  cases hget : fields.get? "metadata" with
  | none =>
    rw [hget] at h
    obtain rfl : none = m? := Checked.valid.inj h
    exact hblank
  | some value =>
    rw [hget] at h
    have h := Checked.eq_valid_of_under h
    cases value with
    | null =>
      obtain rfl : none = m? := Checked.valid.inj h
      exact hblank
    | obj inner =>
      obtain ⟨m, hm, rfl⟩ := Checked.exists_of_map h
      exact hm
    | _ => cases h

theorem Metadata.withoutDetails_congr {a b : Json.Fields} {m m' : Metadata}
    (hagree : a.AgreeBut "edge_details" b) (h : ofFields a = .valid m)
    (h' : ofFields b = .valid m') : m.withoutDetails = m'.withoutDetails := by
  have hkey : ∀ {α : Type} (key : String) (default : α) (check : Json → Checked α),
      key ≠ "edge_details" → Schema.optional a [key] default check =
        Schema.optional b [key] default check :=
    fun key default check hne => Schema.optional_congr (hagree key hne) default check
  rw [ofFields, hkey "exported_at" _ _ (by decide), hkey "original_workflow_id" _ _ (by decide),
    hkey "node_positions" _ _ (by decide), hkey "terminal_nodes" _ _ (by decide)] at h
  rw [ofFields] at h'
  obtain ⟨kept, details, hkept, -, rfl⟩ := Checked.exists_of_seq h
  obtain ⟨kept', details', hkept', -, rfl⟩ := Checked.exists_of_seq h'
  obtain rfl := Checked.valid.inj (hkept.symm.trans hkept')
  -- what is read before the details does not depend on them
  obtain ⟨_, terminals, hpositions, -, rfl⟩ := Checked.exists_of_seq hkept
  obtain ⟨_, positions, hid, -, rfl⟩ := Checked.exists_of_seq hpositions
  obtain ⟨_, id, htime, -, rfl⟩ := Checked.exists_of_seq hid
  obtain ⟨time, -, rfl⟩ := Checked.exists_of_map htime
  rfl

theorem withoutDetails_congr_fields {a b : Json.Fields} {spec spec' : Spec}
    (hfields : a.AgreeBut "metadata" b)
    (hmetadata : (a.inner "metadata").AgreeBut "edge_details" (b.inner "metadata"))
    (h : ofFields a = .valid spec) (h' : ofFields b = .valid spec') :
    spec.withoutDetails = spec'.withoutDetails := by
  have hkey : ∀ {α : Type} (key : String) (default : α) (check : Json → Checked α),
      key ≠ "metadata" → Schema.optional a [key] default check =
        Schema.optional b [key] default check :=
    fun key default check hne => Schema.optional_congr (hfields key hne) default check
  rw [ofFields, hkey "version" _ _ (by decide), hkey "id" _ _ (by decide),
    hkey "name" _ _ (by decide), hkey "description" _ _ (by decide), hkey "nodes" _ _ (by decide),
    hkey "edges" _ _ (by decide)] at h
  rw [ofFields] at h'
  -- the metadata are read last; all fields before them are read alike
  obtain ⟨rest, m?, hrest, hm, rfl⟩ := Checked.exists_of_seq h
  obtain ⟨rest', m?', hrest', hm', rfl⟩ := Checked.exists_of_seq h'
  obtain rfl := Checked.valid.inj (hrest.symm.trans hrest')
  have hkept := Metadata.withoutDetails_congr hmetadata (ofFields_inner_metadata hm)
    (ofFields_inner_metadata hm')
  obtain ⟨_, groups, hnodes, -, rfl⟩ := Checked.exists_of_seq hrest
  obtain ⟨_, nodes, hdescription, -, rfl⟩ := Checked.exists_of_seq hnodes
  obtain ⟨_, description, hname, -, rfl⟩ := Checked.exists_of_seq hdescription
  obtain ⟨_, name, hid, -, rfl⟩ := Checked.exists_of_seq hname
  obtain ⟨_, id, hversion, -, rfl⟩ := Checked.exists_of_seq hid
  obtain ⟨version, -, rfl⟩ := Checked.exists_of_map hversion
  simp only [withoutDetails, hkept]

theorem exists_fields_of_ofDocument {document : Json} {spec : Spec}
    (h : ofDocument document = .ok spec) :
    ∃ fields, document = .obj fields ∧ ofFields fields = .valid spec := by
  unfold ofDocument at h
  split at h
  · next fields =>
    split at h
    · cases h
    · split at h
      · next hread => exact ⟨fields, rfl, Except.ok.inj h ▸ hread⟩
      · cases h
  · cases h

/-- Documents that are the same but for the details of edges are read as specs that are. -/
theorem withoutDetails_congr {document document' : Json} {spec spec' : Spec}
    (hagree : document.AgreeButDetails document') (h : ofDocument document = .ok spec)
    (h' : ofDocument document' = .ok spec') : spec.withoutDetails = spec'.withoutDetails := by
  obtain ⟨a, rfl, ha⟩ := exists_fields_of_ofDocument h
  obtain ⟨b, rfl, hb⟩ := exists_fields_of_ofDocument h'
  cases hagree with
  | intro hfields hmetadata => exact withoutDetails_congr_fields hfields hmetadata ha hb

theorem restoreNodes_withoutDetails (spec : Spec) :
    spec.withoutDetails.restoreNodes = spec.restoreNodes := by
  have hpositions : spec.withoutDetails.positions = spec.positions := by
    unfold positions withoutDetails
    cases spec.metadata <;> rfl
  have hterminals : spec.withoutDetails.keptTerminals = spec.keptTerminals := by
    unfold keptTerminals withoutDetails
    cases spec.metadata <;> rfl
  rw [restoreNodes, hpositions, hterminals]
  rfl

/-! ## The edges of a spec -/

/-- The routes that the targets of a group are in a workflow. -/
def routesOf (w : Workflow) (g : Group) : List Route :=
  let source := resolveSentinel startSentinel (w.start?.map (·.id)) g.source
  let target := resolveSentinel endSentinel (w.finish?.map (·.id))
  ((g.targets.nodes.getD []).map fun id => ⟨source, target id, false, none⟩) ++
    ((g.targets.branches.getD []).map fun b => ⟨source, target b.node, true, some b.condition⟩) ++
    match g.targets.fallback with
    | some id => if id = "" ∨ id = endSentinel then [] else [⟨source, target id, false, none⟩]
    | none => []

theorem map_route_arrows (w : Workflow) (g : Group) :
    (g.targets.arrows.map fun a => a.route w.terminals g.source) = routesOf w g := by
  have hfinish : (endIds w).head? = w.finish?.map (·.id) := List.head?_map
  rw [Targets.arrows, routesOf, List.map_append, List.map_append, List.map_map, List.map_map,
    List.map_map]
  congr 1
  · simp only [Function.comp_def, Arrow.route, Workflow.terminals, hfinish]
    rfl
  · cases g.targets.fallback with
    | none => rfl
    | some id =>
      by_cases hid : id = "" ∨ id = endSentinel
      · have hno : (id != "" && id != endSentinel) = false := by
          rcases hid with rfl | rfl <;> rfl
        simp only [Option.filter_some, hno, if_pos hid]
        rfl
      · have hyes : (id != "" && id != endSentinel) = true := by
          rw [not_or] at hid
          rw [Bool.and_eq_true, bne_iff_ne, bne_iff_ne]
          exact hid
        simp only [Option.filter_some, hyes, if_neg hid, ite_true]
        simp [Arrow.route, Workflow.terminals, hfinish]
        rfl

theorem id_restoreAll (settings : Settings) (terminals : Terminals) (arrows : List (String × Arrow))
    (index : Nat) (details : List EdgeDetail) :
    (restoreAll settings terminals index details arrows).map (·.id) =
      (List.range' index arrows.length).map fun i => s!"{settings.edgeIdPrefix}-{i}" := by
  induction arrows generalizing index details with
  | nil => rfl
  | cons x arrows ih =>
    obtain ⟨source, a⟩ := x
    rw [restoreAll, List.map_cons, ih, List.length_cons, List.range'_succ, List.map_cons]
    rfl

end Spec

namespace Workflow

theorem routes_toWorkflow (s : Surroundings) (settings : Settings) (spec : Spec) :
    (spec.toWorkflow s settings).value.edges.map Edge.route =
      spec.groups.flatMap (Spec.routesOf (spec.toWorkflow s settings).value) := by
  rw [route_toWorkflow, Spec.wireArrows, List.map_flatMap]
  refine List.flatMap_congr fun g _ => ?_
  rw [List.map_map, ← Spec.map_route_arrows]
  rfl

theorem ids_toWorkflow (s : Surroundings) (settings : Settings) (spec : Spec) :
    (spec.toWorkflow s settings).value.edgeIds =
      (List.range' 1 (spec.toWorkflow s settings).value.edges.length).map fun i =>
        s!"{settings.edgeIdPrefix}-{i}" := by
  have hlength := congrArg List.length (route_toWorkflow s settings spec)
  rw [List.length_map, List.length_map] at hlength
  rw [hlength, edgeIds, edges_toWorkflow, Spec.id_restoreAll]

/-! ## Workflows of the same control flow -/

/-- The groups of a workflow follow from its nodes and the routes of its edges, if these state all
conditions. -/
theorem groupsOf_congr_routes {w r : Workflow} (hw : Spec.ResolvesStart w)
    (hr : Spec.ResolvesStart r) (hcond : ∀ e ∈ w.edges, e.isConditional = e.condition.isSome)
    (hcond' : ∀ e ∈ r.edges, e.isConditional = e.condition.isSome) (hnodes : w.nodes = r.nodes)
    (hroutes : w.edges.map Edge.route = r.edges.map Edge.route) (shape : Shape)
    (settings : Settings) :
    Spec.groupsOf shape settings w = Spec.groupsOf shape settings r := by
  have hstart : Spec.startId? w = Spec.startId? r := by
    rw [Spec.startId?, Spec.startId?, start?, start?, starts, starts, hnodes]
  have hends : Spec.endIds w = Spec.endIds r := by
    rw [Spec.endIds, Spec.endIds, ends, ends, hnodes]
  have hwire : w.edges.map (Spec.wireArrow settings w) = r.edges.map (Spec.wireArrow settings r) := by
    have hroute : wireOfRoute settings w = wireOfRoute settings r := by
      funext x
      rw [wireOfRoute, wireOfRoute, hstart, hends]
    have hmap := congrArg (List.map (wireOfRoute settings r)) hroutes
    rw [List.map_map, List.map_map] at hmap
    rw [List.map_congr_left fun e he => wireArrow_eq_wireOfRoute (hcond e he),
      List.map_congr_left fun e he => wireArrow_eq_wireOfRoute (hcond' e he), hroute]
    exact hmap
  have hsources : Spec.sources w = Spec.sources r := by
    have hmap := congrArg (List.map Route.source) hroutes
    rw [List.map_map, List.map_map] at hmap
    exact congrArg List.eraseDups hmap
  have hordered : Spec.orderedSources w = Spec.orderedSources r := by
    have hfirst : Spec.startSource? w = Spec.startSource? r := by
      rw [Spec.startSource?, Spec.startSource?, hsources]
      exact congrArg (Option.filter _) hstart
    rw [Spec.orderedSources, Spec.orderedSources, hfirst, hsources]
  rw [Spec.groupsOf_eq_groupNamed (Spec.hasDistinctNames_of_resolvesStart hw),
    Spec.groupsOf_eq_groupNamed (Spec.hasDistinctNames_of_resolvesStart hr), Spec.groupNames,
    Spec.groupNames, hordered, hstart, hwire]

/-- The backend spec of a workflow, or the fault of the first node that cannot be compiled. -/
theorem result_ofWorkflow_backend (now : Timestamp) (settings : Settings) (w : Workflow) :
    (Spec.ofWorkflow now settings .backend w).result =
      (Attempt.mapList (Spec.Node.ofNode w.nodes false) w.inner).result.map fun nodes =>
        { version := settings.specVersion
          id := none
          name := w.name
          description := some w.description
          nodes
          groups := Spec.groupsOf .backend settings w
          metadata := none } := by
  have hlisted : Spec.listedNodes .backend w = w.inner := rfl
  have hpositions : Shape.backend.keepsPositions = false := rfl
  have hmetadata : Shape.backend.keepsMetadata = false := rfl
  rw [Spec.ofWorkflow, Attempt.result_bind, hlisted, hpositions, hmetadata]
  cases (Attempt.mapList (Spec.Node.ofNode w.nodes false) w.inner).result with
  | error fault => rfl
  | ok nodes =>
    rfl

theorem result_toSpecDocument_congr {w r : Workflow} {settings : Settings} (now later : Timestamp)
    (hname : w.name = r.name) (hdescription : w.description = r.description)
    (hnodes : w.nodes = r.nodes)
    (hgroups : Spec.groupsOf .backend settings w = Spec.groupsOf .backend settings r) :
    (w.toSpecDocument now settings .backend).result =
      (r.toSpecDocument later settings .backend).result := by
  have hinner : w.inner = r.inner := by rw [inner, inner, hnodes]
  rw [toSpecDocument, toSpecDocument, Attempt.result_bind, Attempt.result_bind,
    result_ofWorkflow_backend, result_ofWorkflow_backend, hname, hdescription, hnodes, hinner,
    hgroups]

/-- Two workflows cannot be told apart by where runs go: their edges have the same ids and routes,
and they have the same backend document at all times, or the same fault in its place. -/
structure SameControlFlow (w r : Workflow) : Prop where
  ids_eq : w.edgeIds = r.edgeIds
  routes_eq : w.edges.map Edge.route = r.edges.map Edge.route
  backend_eq : ∀ now later settings, (w.toSpecDocument now settings .backend).result =
    (r.toSpecDocument later settings .backend).result

/-- Specs that are the same but for the details of edges have the same control flow. -/
theorem sameControlFlow_toWorkflow {spec spec' : Spec}
    (h : spec.withoutDetails = spec'.withoutDetails) (s s' : Surroundings) (settings : Settings) :
    SameControlFlow (spec'.toWorkflow s' settings).value (spec.toWorkflow s settings).value := by
  have hnodes : (spec'.toWorkflow s' settings).value.nodes =
      (spec.toWorkflow s settings).value.nodes := by
    show spec'.restoreNodes.value = spec.restoreNodes.value
    rw [← Spec.restoreNodes_withoutDetails spec', ← h, Spec.restoreNodes_withoutDetails]
  -- the sentinels stand for the same nodes, so that the same groups have the same routes
  have hterminals : (spec'.toWorkflow s' settings).value.terminals =
      (spec.toWorkflow s settings).value.terminals := by
    rw [terminals, terminals, Spec.startId?, Spec.startId?, Spec.endIds, Spec.endIds, start?, start?,
      starts, starts, ends, ends, hnodes]
  have hgroups : spec'.withoutDetails.groups = spec.withoutDetails.groups := by rw [h]
  have hgroups : spec'.groups = spec.groups := hgroups
  have hname : spec'.withoutDetails.name = spec.withoutDetails.name := by rw [h]
  have hdescription : spec'.withoutDetails.description.getD "" =
      spec.withoutDetails.description.getD "" := by rw [h]
  have hroutes : (spec'.toWorkflow s' settings).value.edges.map Edge.route =
      (spec.toWorkflow s settings).value.edges.map Edge.route := by
    rw [route_toWorkflow, route_toWorkflow, hterminals, hgroups]
  have hlength := congrArg List.length hroutes
  rw [List.length_map, List.length_map] at hlength
  refine ⟨?_, hroutes, fun now later other => ?_⟩
  · rw [ids_toWorkflow, ids_toWorkflow, hlength]
  · refine result_toSpecDocument_congr now later hname hdescription hnodes ?_
    exact groupsOf_congr_routes (resolvesStart_toWorkflow s' settings spec')
      (resolvesStart_toWorkflow s settings spec) (fun _ => isConditional_toWorkflow)
      (fun _ => isConditional_toWorkflow) hnodes hroutes .backend other

/-- The edges of a document are one for each target of its groups, in order, and they are numbered.
Documents that are the same but for the details of edges have the same control flow. -/
theorem control_flow_of_spec (s : Surroundings) (settings : Settings) {document : Json} {spec : Spec}
    (h : Spec.ofDocument document = .ok spec) :
    ∃ w, (ofSpecDocument s (.ok settings) document).result = .ok w ∧
      w.edges.map Edge.route = spec.groups.flatMap (Spec.routesOf w) ∧
      w.edgeIds =
        (List.range' 1 w.edges.length).map (fun i => s!"{settings.edgeIdPrefix}-{i}") ∧
      ∀ s' document' spec', Spec.ofDocument document' = .ok spec' →
        document.AgreeButDetails document' →
        ∃ w', (ofSpecDocument s' (.ok settings) document').result = .ok w' ∧
          SameControlFlow w' w := by
  refine ⟨_, result_ofSpecDocument_eq_ok_iff.2 ⟨spec, h, rfl⟩, routes_toWorkflow s settings spec,
    ids_toWorkflow s settings spec, fun s' document' spec' h' hagree => ?_⟩
  exact ⟨_, result_ofSpecDocument_eq_ok_iff.2 ⟨spec', h', rfl⟩,
    sameControlFlow_toWorkflow (Spec.withoutDetails_congr hagree h h') s s' settings⟩

/-- Details that fit no edge, or fit one that they tell something else of. -/
def forgedDetails : List Spec.EdgeDetail := [
  ⟨"ask", "answer", "conditional", none, some [("condition", .str "false")], false, []⟩,
  ⟨"ask", "answer", "looping", some "again", some [("max_iterations", .str "many")], true, []⟩,
  ⟨"ask", "begin", "conditional", none, some [("condition", .str "false")], false, []⟩,
  ⟨"__start__", "nowhere", "teleport", none, none, false, []⟩]

/-- What is written by hand, with some details. -/
def annotated (details : List Spec.EdgeDetail) : Spec :=
  { handwritten with metadata := some { Spec.Metadata.blank with edgeDetails := details } }

theorem agreeButDetails_annotated (details details' : List Spec.EdgeDetail) :
    (annotated details).toJson.AgreeButDetails (annotated details').toJson := by
  refine .intro (fun key hkey => ?_) fun key hkey => ?_
  · simp [Spec.toFields, annotated, hkey.symm]
  · have hinner : ∀ details, (annotated details).toFields.inner "metadata" =
        { Spec.Metadata.blank with edgeDetails := details }.toFields := fun _ => rfl
    rw [hinner, hinner]
    simp [Spec.Metadata.toFields, hkey.symm]

/-- Runs go where the document by hand says, whatever details are told. -/
theorem control_flow_of_spec_forged :
    ∃ w w', (ofSpecDocument ⟨noon, "0001"⟩ (.ok {}) (annotated []).toJson).result = .ok w ∧
      (ofSpecDocument ⟨noon, "0002"⟩ (.ok {}) (annotated forgedDetails).toJson).result = .ok w' ∧
      w.edges.map Edge.route = handwritten.groups.flatMap (Spec.routesOf w) ∧
      SameControlFlow w' w := by
  obtain ⟨w, hw, hroutes, -, hsame⟩ :=
    control_flow_of_spec ⟨noon, "0001"⟩ {} (Spec.ofDocument_toJson (annotated []))
  obtain ⟨w', hw', hflow⟩ := hsame ⟨noon, "0002"⟩ _ _
    (Spec.ofDocument_toJson (annotated forgedDetails)) (agreeButDetails_annotated _ _)
  exact ⟨w, w', hw, hw', hroutes, hflow⟩

end Workflow

end WorkflowGraph

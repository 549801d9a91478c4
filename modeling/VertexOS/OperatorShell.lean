import VertexOS.ByteStrings
import VertexOS.FailingCalls

/-!
# What the operator shell reads off a report

The kernel describes itself in lines of fields `key=value`.  The operator shell searches them:
the first line of a kind, and in it the first place where the key stands.
-/

namespace VertexOS.OperatorShell

open ByteStrings FailingCalls

variable (report : Bytes)

def lines : List Bytes :=
  report.splitOn 10

def findLineWhere (predicate : Bytes → Bool) : Option Bytes :=
  (lines report).find? predicate

def startsWith (value : Bytes) (start : String) : Bool :=
  (utf8 start).isPrefixOf value

def behindFirst (needle : Bytes) : Bytes → Option Bytes
  | [] => if needle = [] then some [] else none
  | byte :: rest =>
    if needle.isPrefixOf (byte :: rest) then some ((byte :: rest).drop needle.length)
    else behindFirst needle rest

def containsAll (line : Bytes) (needles : List String) : Bool :=
  needles.all fun needle => (behindFirst (utf8 needle) line).isSome

def fieldSlice (line : Bytes) (key : String) : Option Bytes :=
  (behindFirst (utf8 key) line).map (·.takeWhile fun byte => byte ≠ 32 ∧ byte ≠ 10)

def fieldEq (line : Bytes) (key : String) (expected : Bytes) : Bool :=
  fieldSlice line key = some expected

def requiredField (line : Bytes) (key message : String) : Except String Bytes :=
  known (fieldSlice line key) message

def wordAt (command : Bytes) (requested : Nat) : Option Bytes :=
  ((command.splitOn 32).filter (· ≠ []))[requested]?

def wordOrError (command : Bytes) (index : Nat) (message : String) : Except String Bytes :=
  known (wordAt command index) message

def rightPresent (rights right : Bytes) : Bool :=
  right ∈ rights.splitOn 124

def rightsCover (available required : Bytes) : Bool :=
  required == utf8 "none" ||
    (required.splitOn 124).all fun right => right ≠ [] && rightPresent available right

def operatorReportLine : Except String Bytes :=
  known (findLineWhere report (containsAll · ["operator-report v=1", "active="]))
    "operator report missing"

def activeGeneration : Except String Bytes := do
  requiredField (← operatorReportLine report) "active=" "operator report missing active generation"

def activePolicyHash : Except String Bytes := do
  requiredField (← operatorReportLine report) "policy_hash=" "operator report missing policy hash"

def requirementLineMatches (generation service capability line : Bytes) : Bool :=
  startsWith line "operator-requirement[" && fieldEq line "generation=" generation &&
    fieldEq line "service=" service && fieldEq line "capability=" capability

def requireOperatorRequirement (report generation service capability : Bytes) :
    Except String Bytes :=
  known (findLineWhere report (requirementLineMatches generation service capability))
    "operator rejected: missing policy requirement"

def capabilityLineMatches (generation capability line : Bytes) : Bool :=
  startsWith line "operator-capability[" && fieldEq line "generation=" generation &&
    fieldEq line "id=" capability

def requireOperatorCapability (report generation capability : Bytes) : Except String Bytes :=
  known (findLineWhere report (capabilityLineMatches generation capability))
    "operator rejected: missing policy capability"

/-- The service that an edge leaves plays no part. -/
def operatorEdgeLineMatches (generation object requiredRights line : Bytes) : Bool :=
  startsWith line "operator-edge[" && fieldEq line "generation=" generation &&
    fieldEq line "kind=" (utf8 "capability") && fieldEq line "to=" object &&
    (fieldSlice line "rights=").any (rightsCover · requiredRights)

def requireOperatorEdge (report generation object requiredRights : Bytes) : Except String Bytes :=
  known (findLineWhere report (operatorEdgeLineMatches generation object requiredRights))
    "operator rejected: missing graph capability edge"

def serviceLineMatches (generation service line : Bytes) : Bool :=
  startsWith line "operator-service[" && fieldEq line "generation=" generation &&
    fieldEq line "id=" service

def operatorServiceProcess (report generation service : Bytes) : Except String Bytes := do
  let line ← known (findLineWhere report (serviceLineMatches generation service))
    "operator rejected: unknown service"
  requiredField line "process=" "operator service missing process"

def liveLineMatches (generation process service object requiredRights line : Bytes) : Bool :=
  startsWith line "space=" && fieldEq line "proc=" process &&
    fieldEq line "generation=" generation && fieldEq line "graph_from=" service &&
    fieldEq line "graph_target=" object && fieldEq line "revoked=" (utf8 "no") &&
    (fieldSlice line "rights=").any (rightsCover · requiredRights)

def liveCapabilityMatches (report generation process service object requiredRights : Bytes) :
    Bool :=
  (lines report).any (liveLineMatches generation process service object requiredRights)

def requireLiveCapability (report process service object requiredRights : Bytes) :
    Except String Unit := do
  let generation ← activeGeneration report
  if liveCapabilityMatches report generation process service object requiredRights then pure ()
  else .error "operator rejected: live capability missing or insufficient"

structure WhyProof where
  service : Bytes
  capability : Bytes
  provider : Bytes
  rights : Bytes
  edge : Bytes
  generation : Bytes
  policyHash : Bytes
deriving DecidableEq

def why (report command : Bytes) : Except String WhyProof := do
  let service ← wordOrError command 1 "operator why missing service"
  let capability ← wordOrError command 2 "operator why missing capability"
  refuseIf ((wordAt command 3).isSome) "operator why rejected: too many arguments"
  let generation ← activeGeneration report
  let requirement ← requireOperatorRequirement report generation service capability
  let capabilityLine ← requireOperatorCapability report generation capability
  let requirementRights ← requiredField requirement "rights="
    "operator why missing requirement rights"
  let capabilityRights ← requiredField capabilityLine "rights="
    "operator why missing capability rights"
  refuseIf (¬rightsCover capabilityRights requirementRights)
    "operator why rejected: requirement rights exceed capability rights"
  let object ← requiredField capabilityLine "object=" "operator why missing capability object"
  let edge ← requireOperatorEdge report generation object requirementRights
  let process ← operatorServiceProcess report generation service
  requireLiveCapability report process service object requirementRights
  let provider ← requiredField capabilityLine "provider="
    "operator why missing capability provider"
  let edgeId ← requiredField edge "id=" "operator why missing edge id"
  let policyHash ← activePolicyHash report
  return { service, capability, provider, rights := requirementRights, edge := edgeId, generation,
           policyHash }

/-- What the report says of a service and a capability: the rights that the first requirement
asks for, and the object of the first capability line. -/
structure Describes (report generation service capability rights object : Bytes) : Prop where
  active : activeGeneration report = .ok generation
  requirement : ∃ line, fieldSlice line "rights=" = some rights ∧
    findLineWhere report (requirementLineMatches generation service capability) = some line
  capability : ∃ line, fieldSlice line "object=" = some object ∧
    findLineWhere report (capabilityLineMatches generation capability) = some line

/-- The report bears an explanation out: it has the requirement and the capability, an edge of
the service with the named id, which is no edge of another service, and a live capability. -/
def BearsOut (proof : WhyProof) : Prop :=
  ∃ object, Describes report proof.generation proof.service proof.capability proof.rights object ∧
    (∃ edge ∈ lines report, operatorEdgeLineMatches proof.generation object proof.rights edge ∧
      fieldSlice edge "id=" = some proof.edge ∧ fieldSlice edge "from=" = some proof.service) ∧
    (∀ edge ∈ lines report, operatorEdgeLineMatches proof.generation object proof.rights edge →
      fieldSlice edge "id=" = some proof.edge → fieldSlice edge "from=" = some proof.service) ∧
    ∃ live ∈ lines report, ∃ process,
      liveLineMatches proof.generation process proof.service object proof.rights live

/-- Whatever edge shares its id with the first one to the object leaves the service. -/
def FirstEdgeOwn (report service capability : Bytes) : Prop :=
  ∀ generation rights object, Describes report generation service capability rights object →
    ∀ first, findLineWhere report (operatorEdgeLineMatches generation object rights) = some first →
      ∀ edge ∈ lines report, operatorEdgeLineMatches generation object rights edge →
        fieldSlice edge "id=" = fieldSlice first "id=" → fieldSlice edge "from=" = some service

theorem Describes.unique {report service capability : Bytes}
    {generation rights object generation' rights' object' : Bytes}
    (one : Describes report generation service capability rights object)
    (other : Describes report generation' service capability rights' object') :
    generation = generation' ∧ rights = rights' ∧ object = object' := by
  obtain rfl := Except.ok.inj (one.active.symm.trans other.active)
  obtain ⟨line, hasRights, found⟩ := one.requirement
  obtain ⟨line', hasRights', found'⟩ := other.requirement
  obtain ⟨capabilityLine, hasObject, isCapability⟩ := one.capability
  obtain ⟨capabilityLine', hasObject', isCapability'⟩ := other.capability
  obtain rfl := Option.some.inj (found.symm.trans found')
  obtain rfl := Option.some.inj (isCapability.symm.trans isCapability')
  exact ⟨rfl, Option.some.inj (hasRights.symm.trans hasRights'),
    Option.some.inj (hasObject.symm.trans hasObject')⟩

theorem why_ok {report command : Bytes} {proof : WhyProof}
    (answers : why report command = .ok proof) :
    ∃ object first process,
      Describes report proof.generation proof.service proof.capability proof.rights object ∧
      findLineWhere report (operatorEdgeLineMatches proof.generation object proof.rights) =
        some first ∧ fieldSlice first "id=" = some proof.edge ∧
      liveCapabilityMatches report proof.generation process proof.service object proof.rights := by
  unfold why at answers
  simp only [outcome_bind_ok] at answers
  obtain ⟨service, -, capability, -, -, -, generation, isActive, requirement, isRequirement,
    capabilityLine, isCapability, rights, hasRights, -, -, -, -, object, hasObject, first, isFirst,
    process, -, _, live, provider, -, edge, hasId, policyHash, -, answers⟩ := answers
  cases answers
  refine ⟨object, first, process, ⟨isActive, ⟨requirement, known_ok.mp hasRights,
    known_ok.mp isRequirement⟩, capabilityLine, known_ok.mp hasObject, known_ok.mp isCapability⟩,
    known_ok.mp isFirst, known_ok.mp hasId, ?_⟩
  obtain ⟨again, isAgain, live⟩ := outcome_bind_ok.mp live
  obtain rfl := Except.ok.inj (isActive.symm.trans isAgain)
  by_contra dead
  rw [if_neg dead] at live
  cases live

/-- An answer of `why` is borne out exactly when the first edge to the object, and whatever
shares its id, leaves the service that was asked about. -/
theorem bearsOut_iff_of_why {report command : Bytes} {proof : WhyProof}
    (answers : why report command = .ok proof) :
    BearsOut report proof ↔ FirstEdgeOwn report proof.service proof.capability := by
  obtain ⟨object, first, process, describes, isFirst, hasId, live⟩ := why_ok answers
  constructor
  · rintro ⟨object', describes', -, alone, -⟩
    intro generation rights object'' described again isAgain edge inReport isEdge sameId
    obtain ⟨-, -, rfl⟩ := describes.unique describes'
    obtain ⟨rfl, rfl, rfl⟩ := describes.unique described
    obtain rfl := Option.some.inj (isFirst.symm.trans isAgain)
    exact alone edge inReport isEdge (sameId.trans hasId)
  · intro own
    have leaves := own _ _ _ describes first isFirst
    have inReport : first ∈ lines report := List.mem_of_find?_eq_some isFirst
    have isEdge := List.find?_some isFirst
    obtain ⟨liveLine, inLines, isLive⟩ := List.any_eq_true.mp live
    refine ⟨object, describes, ⟨first, inReport, isEdge, hasId, leaves first inReport isEdge rfl⟩,
      ?_, liveLine, inLines, process, isLive⟩
    intro edge inReport isEdge sameId
    exact leaves edge inReport isEdge (sameId.trans hasId.symm)

def reportLine (head : String) (fields : List (String × String)) : String :=
  head ++ String.join (fields.map fun field => " " ++ field.1 ++ "=" ++ field.2) ++ "\n"

def operatorServiceLine (index : Nat) (generation id process restart mountRoot : String) : String :=
  reportLine s!"operator-service[0.{index}]" [("generation", generation), ("id", id),
    ("process", process), ("restart", restart), ("mount_root", mountRoot)]

def operatorEdgeLine (index : Nat) (generation kind id fromNode toNode rights : String) : String :=
  reportLine s!"operator-edge[0.{index}]" [("generation", generation), ("kind", kind), ("id", id),
    ("from", fromNode), ("to", toNode), ("rights", rights)]

def operatorCapabilityLine (index : Nat)
    (generation id provider objectKind object rights : String) : String :=
  reportLine s!"operator-capability[0.{index}]" [("generation", generation), ("id", id),
    ("provider", provider), ("object_kind", objectKind), ("object", object), ("rights", rights)]

def operatorRequirementLine (index : Nat) (generation service capability rights : String) :
    String :=
  reportLine s!"operator-requirement[0.{index}]" [("generation", generation),
    ("service", service), ("capability", capability), ("rights", rights)]

def capabilitySpaceLine (space process endpoint rights generation fromNode : String)
    (slot id grant pid : Nat) : String :=
  reportLine s!"space={space} proc={process} cap[{slot}] endpoint={endpoint}" [("rights", rights),
    ("cap_id", s!"{id}"), ("parent_cap_id", "0"), ("generation", generation),
    ("graph_from", fromNode), ("graph_target", endpoint), ("graph_edge", s!"grant:{grant}"),
    ("owner_pid", s!"{pid}"), ("owner", process), ("delegated_by_pid", "1"),
    ("delegated_by", "vertex-init"), ("revoked", "no")]

/-- Two services that may send to one log; the edge of `first` comes first. -/
def sharedLogReport (first second : String) : Bytes :=
  utf8 (reportLine "operator-report v=1" [("active", "gen:a"), ("registered", "1"),
      ("policy_hash", "0a"), ("graph_hash", "0b")] ++
    operatorServiceLine 0 "gen:a" "svc:echo" "echo" "never" "/" ++
    operatorServiceLine 1 "gen:a" "svc:ping" "ping" "never" "/" ++
    operatorEdgeLine 0 "gen:a" "capability" s!"edge:{first}" s!"svc:{first}" "log-sink" "send" ++
    operatorEdgeLine 1 "gen:a" "capability" s!"edge:{second}" s!"svc:{second}" "log-sink" "send" ++
    operatorCapabilityLine 0 "gen:a" "cap:log" "svc:logd" "endpoint" "log-sink" "send" ++
    operatorRequirementLine 0 "gen:a" "svc:echo" "cap:log" "send" ++
    operatorRequirementLine 1 "gen:a" "svc:ping" "cap:log" "send" ++
    capabilitySpaceLine "current" "echo" "log-sink" "send" "gen:a" "svc:echo" 0 1 0 2 ++
    capabilitySpaceLine "current" "ping" "log-sink" "send" "gen:a" "svc:ping" 0 2 1 3)

def echoProof (edge : String) : WhyProof where
  service := utf8 "svc:echo"
  capability := utf8 "cap:log"
  provider := utf8 "svc:logd"
  rights := utf8 "send"
  edge := utf8 edge
  generation := utf8 "gen:a"
  policyHash := utf8 "0a"

/-- Asked about `echo`, the shell names the edge of `ping`. -/
theorem not_bearsOut_sharedLog :
    why (sharedLogReport "ping" "echo") (utf8 "why svc:echo cap:log") =
        .ok (echoProof "edge:ping") ∧
      ¬BearsOut (sharedLogReport "ping" "echo") (echoProof "edge:ping") := by
  refine ⟨by decide +kernel, ?_⟩
  rintro ⟨object, -, ⟨edge, inReport, -, hasId, leaves⟩, -⟩
  have apart : ∀ line ∈ lines (sharedLogReport "ping" "echo"),
      fieldSlice line "id=" = some (utf8 "edge:ping") →
        fieldSlice line "from=" ≠ some (utf8 "svc:echo") := by
    decide +kernel
  exact apart edge inReport hasId leaves

theorem bearsOut_iff_sharedLog :
    why (sharedLogReport "echo" "ping") (utf8 "why svc:echo cap:log") =
        .ok (echoProof "edge:echo") ∧
      (BearsOut (sharedLogReport "echo" "ping") (echoProof "edge:echo") ↔
        FirstEdgeOwn (sharedLogReport "echo" "ping") (utf8 "svc:echo") (utf8 "cap:log")) := by
  have answers : why (sharedLogReport "echo" "ping") (utf8 "why svc:echo cap:log") =
      .ok (echoProof "edge:echo") := by decide +kernel
  exact ⟨answers, bearsOut_iff_of_why answers⟩

end VertexOS.OperatorShell

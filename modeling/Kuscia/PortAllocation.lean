import Kuscia.PortProvider

namespace Kuscia.PortFlake

/-!
# Handing allocated ports out to parties

`AllocatePort` (`port_provider.go`) asks the provider of each namespace for a
number of ports.  The KusciaTask pending handler and the KusciaDeployment
controller both sum the ports their self parties need per domain, call it, and
then record, party by party, which port each port key gets.  Both start every
party at index 0 of its domain's ports, so two parties of one domain (one
domain playing two roles) are handed the same ports.
-/

/-- `ProviderManager`: the providers created so far, by namespace. -/
structure ProviderManager where
  providers : Go.Map String Provider

namespace ProviderManager

/-- `GetPortProvider`: the namespace's provider, created on first use. -/
def GetPortProvider (pm : ProviderManager) (namespaceName : String) : Provider :=
  (pm.providers.lookup namespaceName).getD (newProvider namespaceName)

/-- The loop of `AllocatePort` over the requested namespaces; `intn ns` are the
draws the namespace's `Allocate` call takes. -/
def allocatePortLoop
    (intn : String → Nat → Int)
    (now : Int) :
    List (String × Int) → ProviderManager → Go.Map String (List Int32) →
      Except String (Go.Map String (List Int32)) × ProviderManager
  | [], pm, ret => (.ok ret, pm)
  | (ns, count) :: rest, pm, ret =>
      let (allocated, provider) := (pm.GetPortProvider ns).Allocate count (intn ns) now
      let pm := { providers := pm.providers.insert ns provider }
      match allocated with
      | .error err => (.error s!"failed to allocate ports for namespace \"{ns}\", detail-> {err}", pm)
      | .ok ports => allocatePortLoop intn now rest pm (ret.insert ns ports)

/-- `AllocatePort`; the providers change even when a later namespace fails. -/
def AllocatePort
    (pm : ProviderManager)
    (namespacedCount : Go.Map String Int)
    (intn : String → Nat → Int)
    (now : Int) :
    Except String (Go.Map String (List Int32)) × ProviderManager :=
  allocatePortLoop intn now (namespacedCount.entries.map fun entry => (entry.1, entry.2)) pm ∅

end ProviderManager

/-- `PortScope`.  The CRD admits `Cluster`, `Domain` and `Local`, with default
`Local`; the zero value of a missing map entry behaves as `Local` does in every
function below (neither serviced nor given a port in an endpoint). -/
inductive PortScope where
  | cluster
  | domain
  | local
  deriving Repr, DecidableEq, Inhabited

/-- `ContainerPort`, with the fields the allocation and the pod, party and
service generation read and write (`Protocol` is only carried along). -/
structure ContainerPort where
  name : String
  port : Int32
  scope : PortScope
  deriving Repr, DecidableEq, Inhabited

/-- `PartyAllocatedPorts`: the port of each port key of one party. -/
structure PartyAllocatedPorts where
  domainID : String
  role : String
  namedPort : Go.Map String Int32
  deriving DecidableEq

/-- What one self party asks for: its domain and role, and the keys of its
ports in the order the controller iterates them. -/
structure PartyPortRequest where
  domainID : String
  role : String
  portKeys : List String

/-- The `needCounts` loop: the ports each domain needs, summed over parties. -/
def needCounts (requests : List PartyPortRequest) : Go.Map String Int :=
  requests.foldl (fun counts request =>
    counts.insert request.domainID ((counts.lookup request.domainID).getD 0 + request.portKeys.length)) ∅

/-- The inner loop over a party's port keys: the key at position `index` gets
`ports[index]`. -/
def assignPorts (ns : String) (ports : List Int32) :
    Nat → List String → Go.Map String Int32 → Except String (Go.Map String Int32)
  | _, [], namedPort => .ok namedPort
  | index, portKey :: rest, namedPort =>
      if index ≥ ports.length then
        .error s!"allocated ports are not enough for domain {ns}"
      else
        assignPorts ns ports (index + 1) rest (namedPort.insert portKey (ports.getD index 0))

/-- The ports recorded for one party: `index := 0` for every party. -/
def partyAllocatedPortsOf
    (retPorts : Go.Map String (List Int32))
    (request : PartyPortRequest) :
    Except String PartyAllocatedPorts :=
  let ns := request.domainID
  match retPorts.lookup ns with
  | none => .error s!"allocated ports not found for domain {ns}"
  | some ports => do
      let namedPort ← assignPorts ns ports 0 request.portKeys ∅
      return { domainID := request.domainID, role := request.role, namedPort := namedPort }

/-- The allocation both controllers perform: count, allocate, hand out. -/
def requestPorts
    (requests : List PartyPortRequest)
    (pm : ProviderManager)
    (intn : String → Nat → Int)
    (now : Int) :
    Except String (List PartyAllocatedPorts) × ProviderManager :=
  match pm.AllocatePort (needCounts requests) intn now with
  | (.error err, pm) => (.error err, pm)
  | (.ok retPorts, pm) => (requests.mapM (partyAllocatedPortsOf retPorts), pm)

/-- Keys the loop does not visit keep what they had. -/
theorem assignPorts_lookup_of_not_mem
    (ns : String)
    (ports : List Int32) :
    ∀ (portKeys : List String) (index : Nat) (namedPort : Go.Map String Int32)
      {result : Go.Map String Int32} {key : String},
      assignPorts ns ports index portKeys namedPort = .ok result → key ∉ portKeys →
        result.lookup key = namedPort.lookup key := by
  intro portKeys
  induction portKeys with
  | nil =>
      intro index namedPort result key assigned _
      cases assigned
      rfl
  | cons portKey rest inductionHypothesis =>
      intro index namedPort result key assigned notVisited
      simp only [assignPorts] at assigned
      split at assigned
      · cases assigned
      · rw [inductionHypothesis _ _ assigned (fun later => notVisited (List.mem_cons_of_mem _ later)),
          AList.lookup_insert_ne (fun same => notVisited (by simp [same]))]

/-- The key at position `i` of a party gets `ports[index + i]`. -/
theorem assignPorts_lookup_getElem
    (ns : String)
    (ports : List Int32) :
    ∀ (portKeys : List String) (index : Nat) (namedPort : Go.Map String Int32)
      {result : Go.Map String Int32},
      portKeys.Nodup → assignPorts ns ports index portKeys namedPort = .ok result →
        ∀ (i : Nat) (inRange : i < portKeys.length),
          result.lookup (portKeys.get ⟨i, inRange⟩) = some (ports.getD (index + i) 0) := by
  intro portKeys
  induction portKeys with
  | nil =>
      intro index namedPort result _ _ i inRange
      simp at inRange
  | cons portKey rest inductionHypothesis =>
      intro index namedPort result distinct assigned i inRange
      obtain ⟨notLater, restDistinct⟩ := List.nodup_cons.mp distinct
      simp only [assignPorts] at assigned
      split at assigned
      · cases assigned
      · cases i with
        | zero =>
            simp only [List.get_eq_getElem, List.getElem_cons_zero]
            rw [assignPorts_lookup_of_not_mem ns ports rest _ _ assigned notLater,
              AList.lookup_insert, Nat.add_zero]
        | succ i =>
            have later := inductionHypothesis (index + 1) _ restDistinct assigned i
              (by simpa using inRange)
            rw [show index + (i + 1) = index + 1 + i by omega]
            simpa using later

/-- A party's recorded ports are its domain's ports from the first one on. -/
theorem partyAllocatedPortsOf_lookup
    {retPorts : Go.Map String (List Int32)}
    {request : PartyPortRequest}
    {partyPorts : PartyAllocatedPorts}
    (distinct : request.portKeys.Nodup)
    (recorded : partyAllocatedPortsOf retPorts request = .ok partyPorts) :
    ∃ ports, retPorts.lookup request.domainID = some ports ∧
      ∀ (i : Nat) (inRange : i < request.portKeys.length),
        partyPorts.namedPort.lookup (request.portKeys.get ⟨i, inRange⟩) = some (ports.getD i 0) := by
  dsimp only [partyAllocatedPortsOf] at recorded
  split at recorded
  · cases recorded
  · rename_i ports found
    cases assigned : assignPorts request.domainID ports 0 request.portKeys ∅ with
    | error err =>
        rw [assigned] at recorded
        cases recorded
    | ok namedPort =>
        rw [assigned] at recorded
        cases recorded
        refine ⟨ports, found, fun i inRange => ?_⟩
        simpa using assignPorts_lookup_getElem _ ports _ 0 ∅ distinct assigned i inRange

/-- Two parties of one domain record the same ports, key position by key
position: each starts at index 0 of the domain's ports. -/
theorem partyAllocatedPortsOf_same_domain
    {retPorts : Go.Map String (List Int32)}
    {first second : PartyPortRequest}
    {firstPorts secondPorts : PartyAllocatedPorts}
    (sameDomain : first.domainID = second.domainID)
    (firstDistinct : first.portKeys.Nodup)
    (secondDistinct : second.portKeys.Nodup)
    (firstRecorded : partyAllocatedPortsOf retPorts first = .ok firstPorts)
    (secondRecorded : partyAllocatedPortsOf retPorts second = .ok secondPorts)
    (i : Nat)
    (firstInRange : i < first.portKeys.length)
    (secondInRange : i < second.portKeys.length) :
    firstPorts.namedPort.lookup (first.portKeys.get ⟨i, firstInRange⟩) =
      secondPorts.namedPort.lookup (second.portKeys.get ⟨i, secondInRange⟩) := by
  obtain ⟨ports, found, firstLookup⟩ := partyAllocatedPortsOf_lookup firstDistinct firstRecorded
  obtain ⟨ports', found', secondLookup⟩ := partyAllocatedPortsOf_lookup secondDistinct secondRecorded
  rw [sameDomain, found'] at found
  cases found
  rw [firstLookup, secondLookup]

/-- Domain `alice` as server with two ports and as client with one: the
first key of each role gets port 10001. -/
theorem partyAllocatedPortsOf_same_domain_twoRoles :
    partyAllocatedPortsOf ((∅ : Go.Map String (List Int32)).insert "alice" [10001, 10002])
        ⟨"alice", "server", ["a", "b"]⟩ =
      .ok ⟨"alice", "server", ((∅ : Go.Map String Int32).insert "a" 10001).insert "b" 10002⟩ ∧
    partyAllocatedPortsOf ((∅ : Go.Map String (List Int32)).insert "alice" [10001, 10002])
        ⟨"alice", "client", ["c"]⟩ =
      .ok ⟨"alice", "client", (∅ : Go.Map String Int32).insert "c" 10001⟩ ∧
    (((∅ : Go.Map String Int32).insert "a" 10001).insert "b" 10002).lookup "a" =
      ((∅ : Go.Map String Int32).insert "c" 10001).lookup "c" :=
  have server : partyAllocatedPortsOf ((∅ : Go.Map String (List Int32)).insert "alice" [10001, 10002])
      ⟨"alice", "server", ["a", "b"]⟩ =
        .ok ⟨"alice", "server", ((∅ : Go.Map String Int32).insert "a" 10001).insert "b" 10002⟩ := rfl
  have client : partyAllocatedPortsOf ((∅ : Go.Map String (List Int32)).insert "alice" [10001, 10002])
      ⟨"alice", "client", ["c"]⟩ = .ok ⟨"alice", "client", (∅ : Go.Map String Int32).insert "c" 10001⟩ := rfl
  ⟨server, client,
    @partyAllocatedPortsOf_same_domain _ ⟨"alice", "server", ["a", "b"]⟩ ⟨"alice", "client", ["c"]⟩ _ _
      rfl (by decide) (by decide) server client 0 (by decide) (by decide)⟩

/-- The first recorded entry of a party, as the fill steps search for it. -/
def findPartyPorts
    (allocatedPorts : List PartyAllocatedPorts)
    (domainID role : String) :
    Option PartyAllocatedPorts :=
  allocatedPorts.find? fun ports => ports.domainID == domainID && ports.role == role

/-- One port of a fill step: the port recorded under its key. -/
def resolvePort
    (partyPorts : PartyAllocatedPorts)
    (portKey : String)
    (port : ContainerPort) :
    Except String ContainerPort :=
  match partyPorts.namedPort.lookup portKey with
  | none => .error s!"not found allocated port for {portKey}"
  | some realPort => .ok { port with port := realPort }

end Kuscia.PortFlake

namespace Kuscia.KusciaTaskHandler

open Kuscia.PortFlake

/-- `PodKitInfo`, without `ports`: that field of every pod of a party is the
one `NamedPorts` map `buildPartyKitInfo` made for the party, kept as
`PartyKitInfo.ports`. -/
structure PodKitInfo where
  podName : String
  allocatedPorts : List ContainerPort
  portService : Go.Map String String
  deriving DecidableEq

/-- `PartyKitInfo`, with the fields the port code reads.  `ports` is the
`NamedPorts` map its pods share: its values in iteration order, each keyed by
its own name (`mergeContainersPorts`); a write through one pod's `ports` is
what every pod of the party reads afterwards. -/
structure PartyKitInfo where
  domainID : String
  role : String
  ports : List ContainerPort
  servicedPorts : List String
  pods : List PodKitInfo
  deriving DecidableEq

/-- `KusciaTask`, with its name and `Status.AllocatedPorts`. -/
structure KusciaTask where
  name : String
  allocatedPorts : List PartyAllocatedPorts
  deriving DecidableEq

/-- The parts of a deploy template container the port code reads. -/
structure Container where
  name : String
  ports : List ContainerPort

/-- `ports[name]` on a `NamedPorts` map. -/
def namedPort (ports : List ContainerPort) (name : String) : Option ContainerPort :=
  ports.find? fun port => port.name == name

/-- `mergeContainersPorts`: the ports of all containers, by name. -/
def mergeContainersPorts (containers : List Container) : Except String (List ContainerPort) :=
  containers.foldlM (fun merged container =>
    container.ports.foldlM (fun merged port =>
      if (namedPort merged port.name).isSome then .error s!"duplicate port \"{port.name}\""
      else .ok (merged ++ [port])) merged) []

/-- `generateServicedPorts`: the ports reachable from outside the pod. -/
def generateServicedPorts (ports : List ContainerPort) : List String :=
  (ports.filter fun port => port.scope = .cluster ∨ port.scope = .domain).map ContainerPort.name

/-- `generatePortServices`; `serviceName` is `utilsres.GenerateServiceName`. -/
def generatePortServices (serviceName : String → String → String) (podName : String)
    (servicedPorts : List String) : Go.Map String String :=
  servicedPorts.foldl (fun portService portName =>
    portService.insert portName (serviceName podName portName)) ∅

/-- `generatePodName`. -/
def generatePodName (taskName role : String) (index : Nat) : String :=
  if role = "" then s!"{taskName}-{index}" else s!"{taskName}-{role}-{index}"

/-- The replica loop of `buildPartyKitInfo`; every pod's `ports` is the
party's map. -/
def buildPods (serviceName : String → String → String) (taskName role : String)
    (replicas : Nat) (servicedPorts : List String) : List PodKitInfo :=
  (List.range replicas).map fun index =>
    let podName := generatePodName taskName role index
    { podName := podName, allocatedPorts := [],
      portService := generatePortServices serviceName podName servicedPorts }

/-- `buildPortKey`. -/
def buildPortKey (podName portName : String) : String :=
  s!"{podName}/{portName}"

/-- The keys a party's ports are recorded under, pod by pod. -/
def PartyKitInfo.portRequest (partyKit : PartyKitInfo) : PartyPortRequest where
  domainID := partyKit.domainID
  role := partyKit.role
  portKeys := partyKit.pods.flatMap fun pod =>
    partyKit.ports.map fun port => buildPortKey pod.podName port.name

/-- `PendingHandler.allocatePorts` on the self parties built by
`buildPartyKitInfos`: whether the task changed, and the task. -/
def allocatePorts
    (kusciaTask : KusciaTask)
    (selfPartyKitInfos : List PartyKitInfo)
    (pm : ProviderManager)
    (intn : String → Nat → Int)
    (now : Int) :
    Except String (Bool × KusciaTask) × ProviderManager :=
  if !kusciaTask.allocatedPorts.isEmpty then
    (.ok (false, kusciaTask), pm)
  else
    match requestPorts (selfPartyKitInfos.map PartyKitInfo.portRequest) pm intn now with
    | (.error err, pm) => (.error err, pm)
    | (.ok allocatedPorts, pm) => (.ok (true, { kusciaTask with allocatedPorts := allocatedPorts }), pm)

/-- `fillPodAllocatedPorts`, `ports` being what `pod.ports` holds: the ports
with the numbers recorded under the pod's own keys.  Go stores them in
`pod.allocatedPorts` and writes them back into `pod.ports`, the party's map. -/
def fillPodAllocatedPorts (partyPorts : PartyAllocatedPorts) (ports : List ContainerPort)
    (pod : PodKitInfo) : Except String (List ContainerPort) :=
  ports.mapM fun port => resolvePort partyPorts (buildPortKey pod.podName port.name) port

/-- The loop of `buildPodAllocatePorts` over one party's pods, in order: the
party's map after the pods filled so far, and those pods. -/
def fillPods (partyPorts : PartyAllocatedPorts) (domainID role : String) :
    List ContainerPort → List PodKitInfo → List PodKitInfo →
      Except String (List ContainerPort × List PodKitInfo)
  | ports, done, [] => .ok (ports, done)
  | ports, done, pod :: rest =>
    match fillPodAllocatedPorts partyPorts ports pod with
    | .error err => .error s!"failed to fill allocated ports for party {domainID}/{role}, detail->{err}"
    | .ok resPorts =>
      fillPods partyPorts domainID role resPorts (done ++ [{ pod with allocatedPorts := resPorts }]) rest

/-- `buildPodAllocatePorts`: every party's pods with their ports filled in. -/
def buildPodAllocatePorts (kusciaTask : KusciaTask) (partyKitInfos : List PartyKitInfo) :
    Except String (List PartyKitInfo) :=
  partyKitInfos.mapM fun partyKit =>
    let domainID := partyKit.domainID
    let role := partyKit.role
    match findPartyPorts kusciaTask.allocatedPorts domainID role with
    | none => .error s!"allocated ports not found for party {domainID}/{role}"
    | some partyPorts => do
        let (ports, pods) ← fillPods partyPorts domainID role partyKit.ports [] partyKit.pods
        return { partyKit with ports := ports, pods := pods }

/-! ### What the pod, the party and the services are generated with -/

/-- `v1.ContainerPort`, as `generatePod` writes it. -/
structure V1ContainerPort where
  name : String
  containerPort : Int32
  deriving Repr, DecidableEq

/-- `v1.EnvVar`. -/
structure V1EnvVar where
  name : String
  value : String
  deriving Repr, DecidableEq

/-- The ports of one container of the generated pod, and the port-number
variables appended to its environment. -/
structure V1ContainerPorts where
  name : String
  ports : List V1ContainerPort
  portNumberEnvs : List V1EnvVar
  deriving Repr, DecidableEq

/-- `common.EnvPortNumber` for a port with `-` written `_`, upper-cased
(`strings.ToUpper`, on the ASCII names ports have). -/
def envPortNumberName (portName : String) : String :=
  String.ofList (s!"KUSCIA_PORT_{portName}_NUMBER".toList.map fun c =>
    if c = '-' then '_' else c.toUpper)

/-- `buildPortNumberEnvs`: one variable per allocated port of the pod. -/
def buildPortNumberEnvs (allocatedPorts : List ContainerPort) : List V1EnvVar :=
  allocatedPorts.map fun portInfo => ⟨envPortNumberName portInfo.name, toString portInfo.port.toInt⟩

/-- The container-port loop of `generatePod`: each template port is looked up
in `podKit.ports`, the party's map. -/
def generateContainerPorts (partyKit : PartyKitInfo) (podKit : PodKitInfo) (ctr : Container) :
    Except String V1ContainerPorts := do
  let ports ← ctr.ports.mapM fun port =>
    match namedPort partyKit.ports port.name with
    | none => .error s!"port {port.name} is not allocated for pod {podKit.podName}"
    | some namedPort => .ok ⟨port.name, namedPort.port⟩
  return ⟨ctr.name, ports, buildPortNumberEnvs podKit.allocatedPorts⟩

/-- The containers' ports of `generatePod`. -/
def generatePodPorts (containers : List Container) (partyKit : PartyKitInfo) (podKit : PodKitInfo) :
    Except String (List V1ContainerPorts) :=
  containers.mapM (generateContainerPorts partyKit podKit)

/-- `proto.Service` of a party: a port name and one endpoint per pod. -/
structure ProtoService where
  portName : String
  endpoints : List String
  deriving Repr, DecidableEq

/-- `proto.Party`. -/
structure ProtoParty where
  name : String
  role : String
  services : List ProtoService
  deriving Repr, DecidableEq

/-- The endpoint `generateParty` writes for one pod: a `Domain` port carries
its port number, read from `pod.ports`. -/
def endpointAddress (kitInfo : PartyKitInfo) (pod : PodKitInfo) (portName : String) : String :=
  let domainID := kitInfo.domainID
  let service := (pod.portService.lookup portName).getD ""
  if service != "" then
    let port := (namedPort kitInfo.ports portName).getD default
    if port.scope = .domain then s!"{service}.{domainID}.svc:{port.port.toInt}"
    else s!"{service}.{domainID}.svc"
  else ""

/-- `generateParty`. -/
def generateParty (kitInfo : PartyKitInfo) : ProtoParty where
  name := kitInfo.domainID
  role := kitInfo.role
  services := kitInfo.servicedPorts.map fun portName =>
    ⟨portName, kitInfo.pods.map fun pod => endpointAddress kitInfo pod portName⟩

/-- `ServiceStatus`, as `createResourceForParty` records it. -/
structure ServiceStatus where
  serviceName : String
  portName : String
  portNumber : Int32
  scope : PortScope
  deriving Repr, DecidableEq

/-- The service loop of `createResourceForParty` for one pod, every submit
succeeding: each serviced port's service records the port of `podKit.ports`. -/
def podServiceStatuses (partyKit : PartyKitInfo) (podKit : PodKitInfo) :
    Except String (List ServiceStatus) :=
  podKit.portService.entries.mapM fun entry =>
    match namedPort partyKit.ports entry.1 with
    | none => .error s!"not found container port \"{entry.1}\" in pod \"{podKit.podName}\""
    | some ctrPort => .ok ⟨entry.2, entry.1, ctrPort.port, ctrPort.scope⟩

/-! ### The pods of a party share their ports -/

/-- After the fill loop, the party's map holds what the last pod was filled
with: each pod's write replaced the one before. -/
theorem fillPods_last
    {partyPorts : PartyAllocatedPorts}
    {domainID role : String}
    (pod : PodKitInfo) :
    ∀ (pods : List PodKitInfo) (ports : List ContainerPort) (done : List PodKitInfo)
      {ports' : List ContainerPort} {filled : List PodKitInfo},
      fillPods partyPorts domainID role ports done (pods ++ [pod]) = .ok (ports', filled) →
      ∃ before, filled = before ++ [{ pod with allocatedPorts := ports' }] := by
  intro pods
  induction pods with
  | nil =>
    intro ports done ports' filled result
    simp only [List.nil_append, fillPods] at result
    split at result
    · cases result
    · simp only [Except.ok.injEq, Prod.mk.injEq] at result
      obtain ⟨rfl, rfl⟩ := result
      exact ⟨done, rfl⟩
  | cons first rest inductionHypothesis =>
    intro ports done ports' filled result
    simp only [List.cons_append, fillPods] at result
    split at result
    · cases result
    · exact inductionHypothesis _ _ result

/-- A party filled by `buildPodAllocatePorts` ends with its map holding the
ports its last pod was filled with, which `generatePod`, `generateParty` and
`createResourceForParty` then read for every pod of the party. -/
theorem buildPodAllocatePorts_ports_of_last_pod
    {kusciaTask : KusciaTask}
    {partyKitInfos filled : List PartyKitInfo}
    (built : buildPodAllocatePorts kusciaTask partyKitInfos = .ok filled) :
    ∀ party ∈ filled, party.pods = [] ∨
      ∃ before last, party.pods = before ++ [last] ∧ party.ports = last.allocatedPorts := by
  intro party member
  obtain ⟨partyKit, -, filledFrom⟩ := Go.exists_of_mapM_eq_ok built party member
  dsimp only at filledFrom
  split at filledFrom
  · cases filledFrom
  · rename_i partyPorts _
    cases loop : fillPods partyPorts partyKit.domainID partyKit.role partyKit.ports [] partyKit.pods with
    | error err =>
      rw [loop] at filledFrom
      cases filledFrom
    | ok result =>
      rw [loop] at filledFrom
      obtain ⟨ports, pods⟩ := result
      cases filledFrom
      rcases List.eq_nil_or_concat partyKit.pods with noPods | ⟨init, last, shape⟩
      · left
        rw [noPods] at loop
        simp only [fillPods, Except.ok.injEq, Prod.mk.injEq] at loop
        exact loop.2.symm
      · right
        rw [shape, List.concat_eq_append] at loop
        obtain ⟨before, rfl⟩ := fillPods_last last init _ [] loop
        exact ⟨before, _, rfl, rfl⟩

/-- Two replicas of a party with one `Domain` port.  The ports are allocated
(20001 for replica 0, 20000 for replica 1) and filled in; replica 0 then runs
its container on port 20000, its endpoint and its service name port 20000,
while its allocated ports and its port variable say 20001. -/
theorem replicas_use_last_replica_ports :
    let ports : List ContainerPort := [⟨"domain", 0, .domain⟩]
    let party : PartyKitInfo :=
      ⟨"alice", "host", ports, generateServicedPorts ports,
        buildPods (fun podName portName => s!"{podName}-{portName}") "task" "host" 2
          (generateServicedPorts ports)⟩
    let allocated : PartyAllocatedPorts :=
      ⟨"alice", "host",
        ((∅ : Go.Map String Int32).insert "task-host-0/domain" 20001).insert "task-host-1/domain" 20000⟩
    let task : KusciaTask := ⟨"task", [allocated]⟩
    let pod0 : PodKitInfo :=
      ⟨"task-host-0", [⟨"domain", 20001, .domain⟩],
        (∅ : Go.Map String String).insert "domain" "task-host-0-domain"⟩
    let pod1 : PodKitInfo :=
      ⟨"task-host-1", [⟨"domain", 20000, .domain⟩],
        (∅ : Go.Map String String).insert "domain" "task-host-1-domain"⟩
    let filled : PartyKitInfo := ⟨"alice", "host", [⟨"domain", 20000, .domain⟩], ["domain"], [pod0, pod1]⟩
    (allocatePorts ⟨"task", []⟩ [party] ⟨∅⟩ (fun _ _ => 0) 0).1 = .ok (true, task) ∧
      buildPodAllocatePorts task [party] = .ok [filled] ∧
      allocated.namedPort.lookup (buildPortKey pod0.podName "domain") = some 20001 ∧
      generatePodPorts [⟨"app", ports⟩] filled pod0 =
        .ok [⟨"app", [⟨"domain", 20000⟩], [⟨"KUSCIA_PORT_DOMAIN_NUMBER", "20001"⟩]⟩] ∧
      generateParty filled =
        ⟨"alice", "host",
          [⟨"domain", ["task-host-0-domain.alice.svc:20000", "task-host-1-domain.alice.svc:20000"]⟩]⟩ ∧
      podServiceStatuses filled pod0 = .ok [⟨"task-host-0-domain", "domain", 20000, .domain⟩] := by
  refine ⟨rfl, rfl, by decide, by decide, by decide,
    by decide⟩

end Kuscia.KusciaTaskHandler

namespace Kuscia.KusciaDeploymentController

open Kuscia.PortFlake

/-- `DeploymentKitInfo`, with the fields the port allocation and the status
refresh read and write. -/
structure DeploymentKitInfo where
  deploymentName : String
  ports : List ContainerPort
  allocatedPorts : List ContainerPort

/-- `PartyKitInfo` of a deployment party. -/
structure PartyKitInfo where
  domainID : String
  role : String
  dkInfo : DeploymentKitInfo

/-- `KusciaDeployment`, with the decoded `AllocatedPortsAnnotationKey`
annotation (empty when the annotation is absent or empty). -/
structure KusciaDeployment where
  allocatedPorts : List PartyAllocatedPorts

/-- A deployment party's ports are recorded under their names. -/
def PartyKitInfo.portRequest (partyKit : PartyKitInfo) : PartyPortRequest where
  domainID := partyKit.domainID
  role := partyKit.role
  portKeys := partyKit.dkInfo.ports.map fun port => port.name

/-- `fillAllocatedPorts`. -/
def fillAllocatedPorts (partyPorts : PartyAllocatedPorts) (dkInfo : DeploymentKitInfo) :
    Except String DeploymentKitInfo := do
  let resPorts ← dkInfo.ports.mapM fun port => resolvePort partyPorts port.name port
  return { dkInfo with ports := resPorts, allocatedPorts := resPorts }

/-- The fill loop at the end of `allocatePorts`. -/
def fillPartyKitInfo (partyAllocatedPorts : List PartyAllocatedPorts) (partyKit : PartyKitInfo) :
    Except String PartyKitInfo :=
  let domainID := partyKit.domainID
  let role := partyKit.role
  match findPartyPorts partyAllocatedPorts domainID role with
  | none => .error s!"allocated ports not found for party {domainID}/{role}"
  | some partyPorts =>
      match fillAllocatedPorts partyPorts partyKit.dkInfo with
      | .error err => .error s!"failed to fill allocated ports for party {domainID}/{role}, detail->{err}"
      | .ok dkInfo => .ok { partyKit with dkInfo := dkInfo }

/-- `allocatePorts` (KusciaDeployment): allocate when the annotation holds no
ports, then fill every party.  The deployment keeps the written annotation even
when a fill fails. -/
def allocatePorts
    (kd : KusciaDeployment)
    (partyKitInfos : List PartyKitInfo)
    (pm : ProviderManager)
    (intn : String → Nat → Int)
    (now : Int) :
    Except String (Bool × List PartyKitInfo) × KusciaDeployment × ProviderManager :=
  if kd.allocatedPorts.isEmpty then
    match requestPorts (partyKitInfos.map PartyKitInfo.portRequest) pm intn now with
    | (.error err, pm) => (.error err, kd, pm)
    | (.ok partyAllocatedPorts, pm) =>
        ((partyKitInfos.mapM (fillPartyKitInfo partyAllocatedPorts)).map fun filled => (true, filled),
          { kd with allocatedPorts := partyAllocatedPorts }, pm)
  else
    ((partyKitInfos.mapM (fillPartyKitInfo kd.allocatedPorts)).map fun filled => (false, filled), kd, pm)

/-- One domain playing two roles: the task pending handler and the deployment
controller both allocate two ports for `alice` and record the same one for the
`host` and the `guest` party, and the fill steps then succeed. -/
theorem allocatePorts_two_roles_share_port :
    let hostPod : KusciaTaskHandler.PodKitInfo :=
      ⟨KusciaTaskHandler.generatePodName "task" "host" 0, [], ∅⟩
    let guestPod : KusciaTaskHandler.PodKitInfo :=
      ⟨KusciaTaskHandler.generatePodName "task" "guest" 0, [], ∅⟩
    let taskParties : List KusciaTaskHandler.PartyKitInfo :=
      [⟨"alice", "host", [⟨"domain", 0, .local⟩], [], [hostPod]⟩,
        ⟨"alice", "guest", [⟨"domain", 0, .local⟩], [], [guestPod]⟩]
    let taskResult :=
      (KusciaTaskHandler.allocatePorts ⟨"task", []⟩ taskParties ⟨∅⟩ (fun _ _ => 0) 0).1
    let deploymentParties : List PartyKitInfo :=
      [⟨"alice", "host", ⟨"", [⟨"domain", 0, .local⟩], []⟩⟩,
        ⟨"alice", "guest", ⟨"", [⟨"domain", 0, .local⟩], []⟩⟩]
    let deploymentResult := allocatePorts ⟨[]⟩ deploymentParties ⟨∅⟩ (fun _ _ => 0) 0
    (taskResult.map fun result => result.2.allocatedPorts.map fun partyPorts =>
        (partyPorts.role, partyPorts.namedPort.entries.map fun entry => (entry.1, entry.2))).toOption =
      some [("host", [("task-host-0/domain", 20001)]), ("guest", [("task-guest-0/domain", 20001)])] ∧
    (taskResult >>= fun result =>
        KusciaTaskHandler.buildPodAllocatePorts result.2 taskParties).toBool = true ∧
    deploymentResult.2.1.allocatedPorts.map (fun partyPorts =>
        (partyPorts.role, partyPorts.namedPort.entries.map fun entry => (entry.1, entry.2))) =
      [("host", [("domain", 20001)]), ("guest", [("domain", 20001)])] ∧
    deploymentResult.1.toBool = true := by
  decide

end Kuscia.KusciaDeploymentController

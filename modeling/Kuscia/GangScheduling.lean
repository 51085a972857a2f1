import Kuscia.GoMap
import Mathlib

namespace Kuscia.KusciaScheduling

/-!
# Gang scheduling of TaskResource pods

`TaskResourceManager` (`kusciascheduling/core/core.go`).  `Reserve` records,
per TaskResource, which pod was assumed on which node; `Permit` lets a pod run
once `CalculateAssignedPods` plus the pod itself reaches `MinReservedPods`.
The count adds, for every recorded entry other than the pod's own, every pod
annotated with the TaskResource's name on the entry's node, and then the
lister's bound pods that match no entry.

The reservation lists keep one entry per pod over any run
(`reservationsDistinct_run`), yet two entries on one node make that node's
pods count twice.
-/

/-- `TaskResourceKey`. -/
def TaskResourceKey : String := "kuscia.secretflow/task-resource"

/-- `TaskResourceUID`. -/
def TaskResourceUID : String := "kuscia.secretflow/task-resource-uid"

/-- A pod, with the fields the scheduler plugin reads. -/
structure Pod where
  namespaceName : String
  name : String
  annotations : Go.Map String String
  labels : Go.Map String String
  nodeName : String

/-- A TaskResource, with the fields the scheduler plugin reads. -/
structure TaskResource where
  namespaceName : String
  name : String
  minReservedPods : Int

/-- `taskResourceInfo`: a pod assumed on a node. -/
structure TaskResourceInfo where
  nodeName : String
  podName : String
  deriving DecidableEq

/-- The pods the scheduling snapshot places on one node. -/
structure NodeInfo where
  pods : List Pod

/-- `TaskResourceManager`: the snapshot's nodes, the TaskResource and pod
listers, and `taskResourceInfos`. -/
structure TaskResourceManager where
  nodeInfos : Go.Map String NodeInfo
  taskResources : Go.Map (String × String) TaskResource
  pods : List Pod
  taskResourceInfos : Go.Map String (List TaskResourceInfo)

/-- `Status` of `Permit`. -/
inductive Status where
  | taskResourceNotSpecified
  | taskResourceNotFound
  | success
  | wait
  deriving Repr, DecidableEq

/-- `getTaskResourceInfoName`. -/
def getTaskResourceInfoName (tr : TaskResource) : String :=
  tr.namespaceName ++ "/" ++ tr.name

/-- `GetTaskResourceName`: the annotation, and whether it is present. -/
def GetTaskResourceName (pod : Pod) : String × Bool :=
  ((pod.annotations.lookup TaskResourceKey).getD "", (pod.annotations.lookup TaskResourceKey).isSome)

/-- `GetTaskResourceUID`. -/
def GetTaskResourceUID (pod : Pod) : String :=
  (pod.labels.lookup TaskResourceUID).getD ""

namespace TaskResourceManager

/-- `GetTaskResource`: the TaskResource named by the pod's annotation, in the
pod's namespace. -/
def GetTaskResource (trMgr : TaskResourceManager) (pod : Pod) :
    String × Option TaskResource × Bool :=
  let (trName, exist) := GetTaskResourceName pod
  if trName = "" then (trName, none, exist)
  else (trName, trMgr.taskResources.lookup (pod.namespaceName, trName), exist)

/-- `Reserve`: replace the pod's entry by one for its node. -/
def Reserve (trMgr : TaskResourceManager) (pod : Pod) : TaskResourceManager :=
  match (trMgr.GetTaskResource pod).2.1 with
  | none => trMgr
  | some tr =>
      if pod.nodeName = "" then trMgr
      else
        let trInfo : TaskResourceInfo := ⟨pod.nodeName, pod.name⟩
        let key := getTaskResourceInfoName tr
        match trMgr.taskResourceInfos.lookup key with
        | some trInfos =>
            let trInfos := trInfos.eraseP fun info => info.podName == pod.name
            { trMgr with taskResourceInfos := trMgr.taskResourceInfos.insert key (trInfos ++ [trInfo]) }
        | none =>
            { trMgr with taskResourceInfos := trMgr.taskResourceInfos.insert key [trInfo] }

/-- `DeletePermittedTaskResource`, as far as the reservation lists go. -/
def DeletePermittedTaskResource (trMgr : TaskResourceManager) (tr : TaskResource) :
    TaskResourceManager :=
  { trMgr with taskResourceInfos := trMgr.taskResourceInfos.erase (getTaskResourceInfoName tr) }

/-- The pods on one recorded entry's node that the snapshot count takes: those
annotated with the TaskResource's name and assigned, other than the pod. -/
def nodeReservedCount (trMgr : TaskResourceManager) (tr : TaskResource) (pod : Pod)
    (trInfo : TaskResourceInfo) : Nat :=
  if trInfo.podName = pod.name then 0
  else
    match trMgr.nodeInfos.lookup trInfo.nodeName with
    | none => 0
    | some nodeInfo =>
        (nodeInfo.pods.filter fun podInfo =>
          !(podInfo.namespaceName == pod.namespaceName && podInfo.name == pod.name) &&
            (podInfo.annotations.lookup TaskResourceKey).getD "" == tr.name &&
            podInfo.nodeName != "").length

/-- `getSnapshotReservedPodsCount`. -/
def getSnapshotReservedPodsCount (trMgr : TaskResourceManager) (tr : TaskResource) (pod : Pod) :
    Nat × List TaskResourceInfo :=
  match trMgr.taskResourceInfos.lookup (getTaskResourceInfoName tr) with
  | none => (0, [])
  | some trInfos => ((trInfos.map (trMgr.nodeReservedCount tr pod)).sum, trInfos)

/-- The pod lister's `Pods(namespace).List` with the TaskResource UID selector. -/
def listPods (trMgr : TaskResourceManager) (namespaceName trUID : String) : List Pod :=
  trMgr.pods.filter fun p => p.namespaceName == namespaceName && p.labels.lookup TaskResourceUID == some trUID

end TaskResourceManager

/-- `getScheduledPodsCount`: bound pods that match no recorded entry. -/
def getScheduledPodsCount (trInfos : List TaskResourceInfo) (pods : List Pod) : Nat :=
  (pods.filter fun pod =>
    pod.nodeName != "" &&
      !(trInfos.any fun trInfo => trInfo.podName == pod.name && trInfo.nodeName == pod.nodeName)).length

namespace TaskResourceManager

/-- `CalculateAssignedPods`. -/
def CalculateAssignedPods (trMgr : TaskResourceManager) (tr : TaskResource) (pod : Pod) : Nat :=
  let (snapshotReservedCount, trInfos) := trMgr.getSnapshotReservedPodsCount tr pod
  let pods := trMgr.listPods pod.namespaceName (GetTaskResourceUID pod)
  snapshotReservedCount + getScheduledPodsCount trInfos pods

/-- `Permit`; the pod itself is not in the snapshot, hence the `+ 1`. -/
def Permit (trMgr : TaskResourceManager) (pod : Pod) : Status :=
  match trMgr.GetTaskResource pod with
  | (_, _, false) => .taskResourceNotSpecified
  | (_, none, true) => .taskResourceNotFound
  | (_, some tr, true) =>
      if (trMgr.CalculateAssignedPods tr pod : Int) + 1 ≥ tr.minReservedPods then .success else .wait

/-- The pods of `tr` other than `pod` that are assigned a node, in the snapshot
or in the lister, each counted once by namespace and name. -/
def assignedSiblings (trMgr : TaskResourceManager) (tr : TaskResource) (pod : Pod) :
    List (String × String) :=
  (((trMgr.nodeInfos.entries.flatMap fun entry => entry.2.pods) ++ trMgr.pods).filter fun p =>
      p.namespaceName == tr.namespaceName &&
        (p.annotations.lookup TaskResourceKey).getD "" == tr.name &&
        p.nodeName != "" &&
        !(p.namespaceName == pod.namespaceName && p.name == pod.name)).map
    (fun p => (p.namespaceName, p.name)) |>.dedup

end TaskResourceManager

/-- The operations that change the reservation lists. -/
inductive ReservationOp where
  | reserve (pod : Pod)
  | deletePermitted (tr : TaskResource)

namespace TaskResourceManager

/-- One operation. -/
def step (trMgr : TaskResourceManager) : ReservationOp → TaskResourceManager
  | .reserve pod => trMgr.Reserve pod
  | .deletePermitted tr => trMgr.DeletePermittedTaskResource tr

/-- A run of operations. -/
def run (trMgr : TaskResourceManager) (ops : List ReservationOp) : TaskResourceManager :=
  ops.foldl step trMgr

/-- Every reservation list records each pod at most once. -/
def ReservationsDistinct (trMgr : TaskResourceManager) : Prop :=
  ∀ key trInfos, trMgr.taskResourceInfos.lookup key = some trInfos →
    (trInfos.map TaskResourceInfo.podName).Nodup

/-- With one entry per pod, dropping the pod's entry leaves none for it. -/
theorem podName_not_mem_eraseP
    (podName : String) :
    ∀ trInfos : List TaskResourceInfo, (trInfos.map TaskResourceInfo.podName).Nodup →
      podName ∉ (trInfos.eraseP fun info => info.podName == podName).map TaskResourceInfo.podName := by
  intro trInfos
  induction trInfos with
  | nil => simp
  | cons head rest inductionHypothesis =>
      intro distinct
      rw [List.map_cons, List.nodup_cons] at distinct
      by_cases matched : head.podName = podName
      · rw [List.eraseP_cons_of_pos (by simpa using matched)]
        rw [← matched]
        exact distinct.1
      · rw [List.eraseP_cons_of_neg (by simpa using matched), List.map_cons, List.mem_cons, not_or]
        exact ⟨Ne.symm matched, inductionHypothesis distinct.2⟩

theorem reserve_list_nodup
    {trInfos : List TaskResourceInfo}
    (distinct : (trInfos.map TaskResourceInfo.podName).Nodup)
    (trInfo : TaskResourceInfo) :
    (((trInfos.eraseP fun info => info.podName == trInfo.podName) ++ [trInfo]).map
      TaskResourceInfo.podName).Nodup := by
  rw [List.map_append, List.nodup_append]
  refine ⟨(distinct.sublist ((List.eraseP_sublist).map _)), List.nodup_singleton _, ?_⟩
  intro name kept other added
  rw [List.map_singleton, List.mem_singleton] at added
  subst added
  rintro rfl
  exact podName_not_mem_eraseP _ trInfos distinct kept

theorem reservationsDistinct_insert
    {trMgr : TaskResourceManager}
    (distinct : trMgr.ReservationsDistinct)
    {key : String}
    {trInfos : List TaskResourceInfo}
    (listDistinct : (trInfos.map TaskResourceInfo.podName).Nodup) :
    ReservationsDistinct { trMgr with taskResourceInfos := trMgr.taskResourceInfos.insert key trInfos } := by
  intro key' trInfos' found
  by_cases same : key' = key
  · subst same
    rw [AList.lookup_insert, Option.some.injEq] at found
    exact found ▸ listDistinct
  · rw [AList.lookup_insert_ne same] at found
    exact distinct key' trInfos' found

/-- `Reserve` keeps one entry per pod. -/
theorem reservationsDistinct_reserve
    {trMgr : TaskResourceManager}
    (distinct : trMgr.ReservationsDistinct)
    (pod : Pod) :
    (trMgr.Reserve pod).ReservationsDistinct := by
  unfold Reserve
  split
  · exact distinct
  · split
    · exact distinct
    · dsimp only
      split
      · rename_i trInfos found
        exact reservationsDistinct_insert distinct
          (reserve_list_nodup (distinct _ trInfos found) ⟨pod.nodeName, pod.name⟩)
      · exact reservationsDistinct_insert distinct (List.nodup_singleton _)

theorem reservationsDistinct_step
    {trMgr : TaskResourceManager}
    (distinct : trMgr.ReservationsDistinct) :
    ∀ op, (trMgr.step op).ReservationsDistinct
  | .reserve pod => reservationsDistinct_reserve distinct pod
  | .deletePermitted tr => by
      intro key trInfos found
      by_cases same : key = getTaskResourceInfoName tr
      · subst same
        rw [step, DeletePermittedTaskResource, AList.lookup_erase] at found
        cases found
      · rw [step, DeletePermittedTaskResource, AList.lookup_erase_ne same] at found
        exact distinct key trInfos found

/-- Over any run, every reservation list records each pod at most once. -/
theorem reservationsDistinct_run
    (trMgr : TaskResourceManager)
    (distinct : trMgr.ReservationsDistinct) :
    ∀ ops, (trMgr.run ops).ReservationsDistinct := by
  intro ops
  induction ops generalizing trMgr with
  | nil => exact distinct
  | cons op rest inductionHypothesis =>
      exact inductionHypothesis (trMgr.step op) (reservationsDistinct_step distinct op)

/-- A pod reserved twice on one node, then its TaskResource permitted: no list
ever records it twice. -/
theorem reservationsDistinct_run_reserveTwice :
    ReservationsDistinct ⟨∅, (∅ : Go.Map (String × String) TaskResource).insert ("ns1", "tr") ⟨"ns1", "tr", 1⟩,
      [], ∅⟩ ∧
    ReservationsDistinct
      ((⟨∅, (∅ : Go.Map (String × String) TaskResource).insert ("ns1", "tr") ⟨"ns1", "tr", 1⟩, [], ∅⟩ :
          TaskResourceManager).run
        [.reserve ⟨"ns1", "pod1", (∅ : Go.Map String String).insert TaskResourceKey "tr", ∅, "node1"⟩,
          .reserve ⟨"ns1", "pod1", (∅ : Go.Map String String).insert TaskResourceKey "tr", ∅, "node1"⟩,
          .deletePermitted ⟨"ns1", "tr", 1⟩]) :=
  have empty : ReservationsDistinct ⟨∅, (∅ : Go.Map (String × String) TaskResource).insert ("ns1", "tr")
      ⟨"ns1", "tr", 1⟩, [], ∅⟩ := fun _ _ found => by cases found
  ⟨empty, reservationsDistinct_run _ empty _⟩

end TaskResourceManager

/-- Two pods of one TaskResource assumed on one node: the count of the third
pod takes each of them twice, and `Permit` lets it run with three pods where
four are required. -/
theorem permit_counts_shared_node_twice :
    let annotations : Go.Map String String := (∅ : Go.Map String String).insert TaskResourceKey "tr"
    let labels : Go.Map String String := (∅ : Go.Map String String).insert TaskResourceUID "111"
    let assumed (name node : String) : Pod := ⟨"ns1", name, annotations, labels, node⟩
    let tr : TaskResource := ⟨"ns1", "tr", 4⟩
    let initial : TaskResourceManager :=
      { nodeInfos := (∅ : Go.Map String NodeInfo).insert "node1" ⟨[assumed "pod1" "node1", assumed "pod2" "node1"]⟩
        taskResources := (∅ : Go.Map (String × String) TaskResource).insert ("ns1", "tr") tr
        pods := [assumed "pod1" "", assumed "pod2" "", assumed "pod3" ""]
        taskResourceInfos := ∅ }
    let trMgr := initial.run
      [.reserve (assumed "pod1" "node1"), .reserve (assumed "pod2" "node1"), .reserve (assumed "pod3" "node2")]
    trMgr.CalculateAssignedPods tr (assumed "pod3" "node2") = 4 ∧
      (trMgr.assignedSiblings tr (assumed "pod3" "node2")).length = 2 ∧
      trMgr.Permit (assumed "pod3" "node2") = .success ∧
      ((trMgr.assignedSiblings tr (assumed "pod3" "node2")).length + 1 : Int) < tr.minReservedPods := by
  decide

end Kuscia.KusciaScheduling

import Mathlib.Tactic.Lemma
import Mathlib.Tactic.Common
import TrafficDigest.Explorer.Reader
import TrafficDigest.Query

/-!
# The interface behind the network columns

A side of a row shows a net mask and a default gateway.  What they are meant to describe is the
interface that carries the address of the flow, on the workload with the hostname
(`OfOwnInterface`).

* `network_columns` — the net mask is that of an interface which carries the address.  The gateway
  is the first that any interface of the workload has, so the two columns describe one interface
  exactly if that gateway is the one of an interface with the address.
* `gateway_of_other_interface` — a row with the gateway of another interface.
-/

namespace TrafficDigest

/-! ## Interfaces -/

namespace Interface

/-- The net mask of an interface. -/
def netMask? (i : Interface) : Option String := do
  let bits ← i.cidrBlock
  if isIPv4 i.address ∧ bits ≤ 32 then return dottedMask bits.toNat
  else return "/" ++ toString bits.toNat

/-- The default gateway of an interface, unless it is empty. -/
def gateway? (i : Interface) : Option String := i.defaultGateway.filter (· ≠ "")

/-- What the column of the net mask is to show of an interface. -/
def netMaskCell (i : Interface) : String := i.netMask?.getD notApplicable

/-- What the column of the gateway is to show of an interface. -/
def gatewayCell (i : Interface) : String := i.gateway?.getD notApplicable

end Interface

/-- The interfaces of the workload with a hostname, none if it is not found. -/
def WorkloadDirectory.interfaces (d : WorkloadDirectory) (hostname : String) : List Interface :=
  ((d.get? hostname).map (·.interfaces)).getD []

/-! ## Columns -/

/-- The columns of a row for one side. -/
def ExplorerRow.endOn (row : ExplorerRow) : Side → ExplorerEnd
  | .source => row.source
  | .destination => row.destination

/-- The header of a column of one side. -/
def Side.header (side : Side) (column : String) : String :=
  (match side with | .source => "src_" | .destination => "dst_") ++ column

/-- **A net mask of an interface that carries the address**, or nothing if there is none. -/
def OfCarrier (interfaces : List Interface) (ip mask : String) : Prop :=
  (∃ i ∈ interfaces, i.address = ip ∧ mask = i.netMaskCell) ∨
    (∀ i ∈ interfaces, i.address ≠ ip) ∧ mask = notApplicable

/-- **The gateway of the first interface that has one**, whatever its address. -/
def OfFirstGateway (interfaces : List Interface) (gateway : String) : Prop :=
  (∃ before i after, interfaces = before ++ i :: after ∧ i.gateway? = some gateway ∧
      ∀ j ∈ before, j.gateway? = none) ∨
    (∀ i ∈ interfaces, i.gateway? = none) ∧ gateway = notApplicable

/-- **A net mask and a gateway of the flow's own interface:** both of one interface that carries
the address, or nothing if there is none. -/
def OfOwnInterface (interfaces : List Interface) (ip mask gateway : String) : Prop :=
  (∃ i ∈ interfaces, i.address = ip ∧ mask = i.netMaskCell ∧ gateway = i.gatewayCell) ∨
    (∀ i ∈ interfaces, i.address ≠ ip) ∧ mask = notApplicable ∧ gateway = notApplicable

section

variable (labels : LabelDirectory) (workloads : WorkloadDirectory)

lemma cell?_network (row : ExplorerRow) (side : Side) :
    ExplorerRow.cell? row.columns (side.header "net_mask") = some (row.endOn side).netMask ∧
      ExplorerRow.cell? row.columns (side.header "default_gw")
        = some (row.endOn side).defaultGateway := by
  cases side <;> exact ⟨rfl, rfl⟩

lemma endOn_ofRecord (r : FlowRecord) (side : Side) :
    (ExplorerRow.ofRecord labels workloads r).endOn side
      = .ofEndpoint labels workloads (r.endpoint side) := by
  cases side <;> rfl

variable {e : Endpoint} {w : WorkloadRef}

lemma netMask_ofEndpoint (h : e.workload = some w) :
    (ExplorerEnd.ofEndpoint labels workloads e).netMask
      = (((workloads.interfaces w.hostname).find? (·.address == e.ip)).bind
          Interface.netMask?).getD notApplicable := by
  simp only [ExplorerEnd.ofEndpoint, h, WorkloadDirectory.interfaces]
  cases workloads.get? w.hostname <;> rfl

lemma defaultGateway_ofEndpoint (h : e.workload = some w) :
    (ExplorerEnd.ofEndpoint labels workloads e).defaultGateway
      = ((workloads.interfaces w.hostname).findSome? Interface.gateway?).getD notApplicable := by
  simp only [ExplorerEnd.ofEndpoint, h, WorkloadDirectory.interfaces]
  cases workloads.get? w.hostname <;> rfl

end

section

variable (interfaces : List Interface) (ip : String)

lemma ofCarrier_find? :
    OfCarrier interfaces ip
      (((interfaces.find? (·.address == ip)).bind Interface.netMask?).getD notApplicable) := by
  cases hfound : interfaces.find? (·.address == ip) with
  | none => exact .inr ⟨by simpa using hfound, rfl⟩
  | some i =>
      have haddress : i.address = ip := by simpa using List.find?_some hfound
      exact .inl ⟨i, List.mem_of_find?_eq_some hfound, haddress, rfl⟩

lemma ofFirstGateway_findSome? :
    OfFirstGateway interfaces
      ((interfaces.findSome? Interface.gateway?).getD notApplicable) := by
  cases hfound : interfaces.findSome? Interface.gateway? with
  | none => exact .inr ⟨by simpa using hfound, rfl⟩
  | some gateway => exact .inl (List.findSome?_eq_some_iff.mp hfound)

end

/-- A gateway that some interface has must be one of an interface that carries the address. -/
lemma ofOwnInterface_iff {interfaces : List Interface} {ip mask gateway : String}
    (hmask : OfCarrier interfaces ip mask) (hgateway : OfFirstGateway interfaces gateway) :
    OfOwnInterface interfaces ip mask gateway ↔
      ∀ other ∈ interfaces, other.gateway? = some gateway →
        (∃ i ∈ interfaces, i.address = ip ∧ i.netMaskCell = mask ∧ i.gatewayCell = gateway) ∨
          (∀ i ∈ interfaces, i.address ≠ ip) ∧ gateway = notApplicable := by
  constructor
  · rintro (⟨i, hi, haddress, hm, hg⟩ | ⟨hnone, -, hg⟩) other hother hother'
    · exact .inl ⟨i, hi, haddress, hm.symm, hg.symm⟩
    · exact .inr ⟨hnone, hg⟩
  · intro hall
    rcases hgateway with ⟨before, other, after, rfl, hother, -⟩ | ⟨hnone, rfl⟩
    · rcases hall other (by simp) hother with ⟨i, hi, haddress, hm, hg⟩ | ⟨hcarrier, hg⟩
      · exact .inl ⟨i, hi, haddress, hm.symm, hg.symm⟩
      · rcases hmask with ⟨i, hi, haddress, -⟩ | ⟨-, hm⟩
        · exact absurd haddress (hcarrier i hi)
        · exact .inr ⟨hcarrier, hm, hg⟩
    · -- No interface has a gateway, so neither has the one of the mask.
      rcases hmask with ⟨i, hi, haddress, hm⟩ | ⟨hcarrier, hm⟩
      · refine .inl ⟨i, hi, haddress, hm, ?_⟩
        rw [Interface.gatewayCell, hnone i hi]
        rfl
      · exact .inr ⟨hcarrier, hm, rfl⟩

/-- **What the network columns describe.**  The net mask is that of an interface which carries the
address of the flow.  The gateway is that of the first interface which has one, whatever its
address.  So both describe one interface with the address exactly if the gateway, where it is the
one of any interface, is also that of an interface with this address and net mask. -/
theorem network_columns (labels : LabelDirectory) (workloads : WorkloadDirectory) (r : FlowRecord)
    (side : Side) {w : WorkloadRef} (h : (r.endpoint side).workload = some w) :
    let cells := (ExplorerRow.ofRecord labels workloads r).columns
    let interfaces := workloads.interfaces w.hostname
    let ip := (r.endpoint side).ip
    ∃ mask gateway, ExplorerRow.cell? cells (side.header "net_mask") = some mask ∧
      ExplorerRow.cell? cells (side.header "default_gw") = some gateway ∧
      OfCarrier interfaces ip mask ∧ OfFirstGateway interfaces gateway ∧
      (OfOwnInterface interfaces ip mask gateway ↔
        ∀ other ∈ interfaces, other.gateway? = some gateway →
          (∃ i ∈ interfaces, i.address = ip ∧ i.netMaskCell = mask ∧ i.gatewayCell = gateway) ∨
            (∀ i ∈ interfaces, i.address ≠ ip) ∧ gateway = notApplicable) := by
  intro cells interfaces ip
  obtain ⟨hmask, hgateway⟩ := cell?_network (.ofRecord labels workloads r) side
  rw [endOn_ofRecord] at hmask hgateway
  rw [netMask_ofEndpoint labels workloads h] at hmask
  rw [defaultGateway_ofEndpoint labels workloads h] at hgateway
  have hcarrier := ofCarrier_find? interfaces ip
  have hfirst := ofFirstGateway_findSome? interfaces
  exact ⟨_, _, hmask, hgateway, hcarrier, hfirst, ofOwnInterface_iff hcarrier hfirst⟩

/-! ### Two interfaces -/

/-- A workload with an interface and a gateway in each of two networks. -/
def twoHomed : Workload where
  href := "/orgs/1/workloads/1"
  hostname := "web-1"
  interfaces := [⟨"eth0", "10.0.0.5", some 24, some "10.0.0.1"⟩,
    ⟨"eth1", "10.1.0.5", some 16, some "10.1.0.1"⟩]

/-- A flow to an address of that workload. -/
def flowTo (ip : String) : FlowRecord where
  src := ⟨"192.168.4.20", none⟩
  dst := ⟨ip, some ⟨"/orgs/1/workloads/1", "web-1", []⟩⟩
  service := ⟨443, 6⟩
  verdict := .allowed
  firstSeen := .ofNanos 0
  lastSeen := .ofNanos 0
  connections := 1

/-- **A row with the gateway of another interface:** the flow goes to the second interface, and the
gateway is that of the first. -/
theorem gateway_of_other_interface :
    let workloads := WorkloadDirectory.ofList [twoHomed]
    let cells := (ExplorerRow.ofRecord (.ofList []) workloads (flowTo "10.1.0.5")).columns
    ExplorerRow.cell? cells "dst_net_mask" = some "255.255.0.0" ∧
      ExplorerRow.cell? cells "dst_default_gw" = some "10.0.0.1" ∧
      ¬OfOwnInterface (workloads.interfaces "web-1") "10.1.0.5" "255.255.0.0" "10.0.0.1" := by
  intro workloads cells
  refine ⟨by decide, by decide, ?_⟩
  unfold OfOwnInterface
  decide

/-- The columns of a flow to the first interface describe it. -/
theorem network_columns_firstInterface :
    let workloads := WorkloadDirectory.ofList [twoHomed]
    let cells := (ExplorerRow.ofRecord (.ofList []) workloads (flowTo "10.0.0.5")).columns
    ∃ mask gateway, ExplorerRow.cell? cells "dst_net_mask" = some mask ∧
      ExplorerRow.cell? cells "dst_default_gw" = some gateway ∧
      OfOwnInterface (workloads.interfaces "web-1") "10.0.0.5" mask gateway := by
  intro workloads cells
  have hside : ((flowTo "10.0.0.5").endpoint .destination).workload
      = some ⟨"/orgs/1/workloads/1", "web-1", []⟩ := rfl
  obtain ⟨mask, gateway, hmask, hgateway, -, -, hiff⟩ :=
    network_columns (.ofList []) workloads (flowTo "10.0.0.5") .destination hside
  have hm : mask = "255.255.255.0" := Option.some_inj.mp (hmask.symm.trans (by decide))
  have hg : gateway = "10.0.0.1" := Option.some_inj.mp (hgateway.symm.trans (by decide))
  refine ⟨mask, gateway, hmask, hgateway, hiff.mpr ?_⟩
  subst hm hg
  exact fun _ _ _ => .inl (by decide)

end TrafficDigest

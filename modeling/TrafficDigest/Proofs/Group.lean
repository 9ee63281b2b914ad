import Mathlib.Tactic.Lemma
import Mathlib.Tactic.Common
import Mathlib.Data.List.Basic
import TrafficDigest.Label

/-!
# Group identities keep groups apart

As long as no bar is in a value or in an address, endpoints have the same identity exactly if they
belong to the same group (`identity_eq_iff`): the parts of an identity are what it falls into at the
bars (`splitOn_identity`), a workload has three or four of them, and an address has one.

What a workload has along a dimension is said here without the lookups of the directory, by the
first of its hrefs that leads to a label of the dimension (`LabelDirectory.Along`).
-/

namespace TrafficDigest

namespace LabelDirectory

variable (d : LabelDirectory)

/-! ## Dimensions -/

/-- **What hrefs lead to along a dimension:** the value of the first label of that dimension, past
the hrefs that the directory does not know or knows as labels of other dimensions. -/
inductive Along (key : String) : List String → String → Prop
  | nothing : Along key [] ""
  | label {href hrefs l} (known : d.get? href = some l) (dimension : l.key = key) :
      Along key (href :: hrefs) l.value
  | other {href hrefs value} (elsewhere : ∀ l, d.get? href = some l → l.key ≠ key)
      (rest : Along key hrefs value) : Along key (href :: hrefs) value

lemma along_labelAlong (key : String) (hrefs : List String) :
    d.Along key hrefs (((d.labelAlong key hrefs).map (·.value)).getD "") := by
  induction hrefs with
  | nil => exact .nothing
  | cons href hrefs ih =>
      cases hl : d.get? href with
      | none =>
          rw [labelAlong, List.filterMap_cons_none hl]
          exact .other (by simp [hl]) ih
      | some l =>
          rw [labelAlong, List.filterMap_cons_some hl]
          by_cases hkey : l.key = key
          · rw [List.find?_cons_of_pos (by simpa using hkey)]
            exact .label hl hkey
          · rw [List.find?_cons_of_neg (by simpa using hkey)]
            refine .other ?_ ih
            rintro m hm
            rw [hl, Option.some.injEq] at hm
            exact hm ▸ hkey

lemma Along.unique {d : LabelDirectory} {key : String} {hrefs : List String} {v v' : String}
    (h : d.Along key hrefs v) (h' : d.Along key hrefs v') : v = v' := by
  induction h with
  | nothing =>
      cases h'
      rfl
  | label known dimension =>
      cases h' with
      | label known' _ => rw [Option.some_inj.mp (known.symm.trans known')]
      | other elsewhere _ => exact absurd dimension (elsewhere _ known)
  | other elsewhere _ ih =>
      cases h' with
      | label known dimension => exact absurd dimension (elsewhere _ known)
      | other _ rest => exact ih rest

/-- The value of a workload is what its hrefs lead to, and nothing else is. -/
lemma along_iff {key : String} {w : WorkloadRef} {v : String} :
    d.Along key w.labels v ↔ d.valueAlong key w = v := by
  constructor
  · exact fun h => (d.along_labelAlong key w.labels).unique h
  · rintro rfl
    exact d.along_labelAlong key w.labels

/-- A value along a dimension is that of a label which the directory knows, or empty. -/
lemma Along.known {d : LabelDirectory} {key : String} {hrefs : List String} {v : String}
    (h : d.Along key hrefs v) : v = "" ∨ ∃ href l, d.get? href = some l ∧ l.value = v := by
  induction h with
  | nothing => exact .inl rfl
  | label known _ => exact .inr ⟨_, _, known, rfl⟩
  | other _ _ ih => exact ih

/-! ## Identities -/

/-- No bar is in the value of a label that the directory knows. -/
def WithoutBars : Prop := ∀ href l, d.get? href = some l → '|' ∉ l.value.toList

/-- **The endpoints belong to the same group:** they have the same address and no workloads, or
workloads that agree along every dimension. -/
def SameGroup (withLocation : Bool) (e e' : Endpoint) : Prop :=
  (e.workload = none ∧ e'.workload = none ∧ e.ip = e'.ip) ∨
  ∃ w w', e.workload = some w ∧ e'.workload = some w' ∧
    ∀ key ∈ groupDimensions withLocation, ∃ v, d.Along key w.labels v ∧ d.Along key w'.labels v

variable {d}

lemma WithoutBars.notMem_valueAlong (h : d.WithoutBars) (key : String) (w : WorkloadRef) :
    '|' ∉ (d.valueAlong key w).toList := by
  rcases (d.along_iff.mpr rfl : d.Along key w.labels (d.valueAlong key w)).known with
    hempty | ⟨href, l, hl, hvalue⟩
  · rw [hempty]
    exact List.not_mem_nil
  · rw [← hvalue]
    exact h href l hl

/-- The parts of an identity: the address, or the values of the workload. -/
def parts (d : LabelDirectory) (withLocation : Bool) (e : Endpoint) : List (List Char) :=
  match e.workload with
  | none => [e.ip.toList]
  | some w => (groupDimensions withLocation).map fun key => (d.valueAlong key w).toList

lemma toList_identity (withLocation : Bool) (e : Endpoint) :
    (d.identity withLocation e).toList = ['|'].intercalate (d.parts withLocation e) := by
  cases hworkload : e.workload <;>
    simp [identity, parts, hworkload, groupDelimiter, String.toList_intercalate, Function.comp_def]

/-- **An identity falls into its parts** at the bars. -/
lemma splitOn_identity (hbars : d.WithoutBars) (withLocation : Bool) {e : Endpoint}
    (hip : '|' ∉ e.ip.toList) :
    (d.identity withLocation e).toList.splitOn '|' = d.parts withLocation e := by
  have hparts : ∀ part ∈ d.parts withLocation e, '|' ∉ part := by
    unfold parts
    cases e.workload with
    | none => simpa using hip
    | some w =>
        simp only [List.mem_map]
        rintro _ ⟨key, -, rfl⟩
        exact hbars.notMem_valueAlong key w
  have hne : d.parts withLocation e ≠ [] := by
    unfold parts
    cases e.workload <;> simp [groupDimensions]
  rw [toList_identity, List.splitOn_intercalate _ hparts hne]

/-- A workload has three or four parts and an address one, so they are never taken for each
other. -/
lemma parts_eq_iff (withLocation : Bool) {e e' : Endpoint} :
    d.parts withLocation e = d.parts withLocation e' ↔ d.SameGroup withLocation e e' := by
  unfold parts SameGroup
  cases e.workload with
  | none =>
      cases e'.workload with
      | none => simp [String.toList_inj]
      | some w' => cases withLocation <;> simp [groupDimensions]
  | some w =>
      cases e'.workload with
      | none => cases withLocation <;> simp [groupDimensions]
      | some w' => simp [String.toList_inj, along_iff, eq_comm]

/-- **Identities keep groups apart.**  Without bars in values and addresses, the identities of two
endpoints are the same exactly if the endpoints belong to the same group; so a workload, with labels
or without, never has the identity of an address. -/
theorem identity_eq_iff (hbars : d.WithoutBars) (withLocation : Bool) {e e' : Endpoint}
    (hip : '|' ∉ e.ip.toList) (hip' : '|' ∉ e'.ip.toList) :
    (d.identity withLocation e = d.identity withLocation e' ↔ d.SameGroup withLocation e e') ∧
      (e.workload.isSome ≠ e'.workload.isSome →
        d.identity withLocation e ≠ d.identity withLocation e') := by
  have hiff : d.identity withLocation e = d.identity withLocation e' ↔
      d.SameGroup withLocation e e' := by
    rw [← parts_eq_iff, ← splitOn_identity hbars withLocation hip,
      ← splitOn_identity hbars withLocation hip']
    refine ⟨fun h => h ▸ rfl, fun h => ?_⟩
    have hjoined := congrArg ['|'].intercalate h
    rw [List.intercalate_splitOn, List.intercalate_splitOn] at hjoined
    exact String.toList_inj.mp hjoined
  refine ⟨hiff, fun hsides heq => hsides ?_⟩
  rcases hiff.mp heq with ⟨hnone, hnone', -⟩ | ⟨w, w', hsome, hsome', -⟩
  · rw [hnone, hnone']
  · rw [hsome, hsome']
    rfl

/-- A workload with a second application and an unknown label is in the group of one with neither,
and apart from its own address. -/
theorem identity_eq_iff_shopWeb :
    let d := ofList [⟨"/l/1", "role", "web"⟩, ⟨"/l/2", "app", "shop"⟩, ⟨"/l/3", "app", "crm"⟩]
    let e : Endpoint := ⟨"10.0.0.1", some ⟨"/w/1", "web-1", ["/l/9", "/l/2", "/l/1", "/l/3"]⟩⟩
    let e' : Endpoint := ⟨"10.0.0.2", some ⟨"/w/2", "web-2", ["/l/1", "/l/2"]⟩⟩
    let bare : Endpoint := ⟨"10.0.0.1", none⟩
    d.WithoutBars ∧ ('|' ∉ e.ip.toList ∧ '|' ∉ e'.ip.toList ∧ '|' ∉ bare.ip.toList) ∧
      d.SameGroup true e e' ∧ d.identity true e ≠ d.identity true bare := by
  intro d e e' bare
  have hbars : d.WithoutBars := by
    intro href l hl
    have hmem : l ∈ d.latestFirst := List.mem_of_find?_eq_some hl
    have hall : ∀ m ∈ d.latestFirst, '|' ∉ m.value.toList := by decide
    exact hall l hmem
  have hip : '|' ∉ e.ip.toList := by decide
  have hip' : '|' ∉ e'.ip.toList := by decide
  have hbare : '|' ∉ bare.ip.toList := by decide
  refine ⟨hbars, ⟨hip, hip', hbare⟩, ?_, ?_⟩
  · exact (identity_eq_iff hbars true hip hip').1.mp (by decide)
  · exact (identity_eq_iff hbars true hip hbare).2 (by decide)

end LabelDirectory

end TrafficDigest

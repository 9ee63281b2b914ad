import Mathlib.Tactic.Lemma
import Mathlib.Tactic.Common
import Mathlib.Data.List.Basic
import Std.Data.String.ToNat
import TrafficDigest.Flow

/-!
# Signatures tell services apart

Connections are counted under the text of a service, so two services that had the same text would
be counted as one.  None have: the port ends at the first space (`signature_inj`), and what follows
it names the protocol, because the names of the table are distinct and none of them is a number
(`protocolName_inj`).
-/

namespace TrafficDigest

/-! ## Numbers in decimal -/

lemma isDigit_of_mem_toString {n : Nat} {c : Char} (h : c ∈ (toString n).toList) :
    c.isDigit = true := by
  change c ∈ n.repr.toList at h
  rw [Nat.toList_repr] at h
  exact Nat.isDigit_of_mem_toDigits (by omega) (by omega) h

lemma notMem_toString {c : Char} (hdigit : c.isDigit = false) (n : Nat) :
    c ∉ (toString n).toList := by
  intro h
  simp [isDigit_of_mem_toString h] at hdigit

/-- Numbers are told apart by their decimal digits. -/
lemma toString_inj {m n : Nat} : toString m = toString n ↔ m = n := Nat.repr_inj

/-! ## Names of protocols -/

/-- No name of the table is given twice. -/
lemma eq_of_mem_protocolNames :
    ∀ e ∈ protocolNames, ∀ e' ∈ protocolNames, e.2 = e'.2 → e = e' := by
  decide

/-- No name of the table is a number. -/
lemma not_digits_of_mem_protocolNames :
    ∀ e ∈ protocolNames, e.2.toList.all Char.isDigit = false := by
  decide

lemma mem_of_lookup {proto : UInt8} {name : String} (h : protocolNames.lookup proto = some name) :
    (proto, name) ∈ protocolNames := by
  obtain ⟨before, after, heq, -⟩ := List.lookup_eq_some_iff.mp h
  rw [heq]
  simp

lemma protocolName_cases (proto : UInt8) :
    (proto, protocolName proto) ∈ protocolNames ∨ protocolName proto = toString proto.toNat := by
  unfold protocolName
  cases h : protocolNames.lookup proto with
  | none => exact Or.inr rfl
  | some name => exact Or.inl (mem_of_lookup h)

/-- A name of the table is not the decimal form of a number. -/
lemma toString_notMem_protocolNames {proto : UInt8} {n : Nat} :
    (proto, toString n) ∉ protocolNames := by
  intro h
  have hdigits : (toString n).toList.all Char.isDigit = true :=
    List.all_eq_true.mpr fun c hc => isDigit_of_mem_toString hc
  rw [not_digits_of_mem_protocolNames _ h] at hdigits
  cases hdigits

/-- **Protocols are told apart by their names.** -/
theorem protocolName_inj {p q : UInt8} : protocolName p = protocolName q ↔ p = q := by
  constructor
  · intro h
    rcases protocolName_cases p with hp | hp <;> rcases protocolName_cases q with hq | hq
    · exact congrArg Prod.fst (eq_of_mem_protocolNames _ hp _ hq h)
    · rw [h, hq] at hp
      exact absurd hp toString_notMem_protocolNames
    · rw [← h, hp] at hq
      exact absurd hq toString_notMem_protocolNames
    · rw [hp, hq] at h
      exact UInt8.toNat_inj.mp (toString_inj.mp h)
  · rintro rfl
    rfl

/-- The characters of a name are digits or those of the table. -/
lemma notMem_protocolName {c : Char} (hdigit : c.isDigit = false)
    (hnames : ∀ e ∈ protocolNames, c ∉ e.2.toList) (proto : UInt8) :
    c ∉ (protocolName proto).toList := by
  rcases protocolName_cases proto with h | h
  · exact hnames _ h
  · rw [h]
    exact notMem_toString hdigit _

/-! ## Signatures -/

/-- The characters of a signature are a space, digits and those of the table. -/
lemma ServicePort.notMem_signature {c : Char} (hspace : c ≠ ' ') (hdigit : c.isDigit = false)
    (hnames : ∀ e ∈ protocolNames, c ∉ e.2.toList) (s : ServicePort) :
    c ∉ s.signature.toList := by
  have hbetween : c ∉ " ".toList := by simpa using hspace
  simp only [signature, String.toList_append, List.mem_append, not_or]
  exact ⟨⟨notMem_toString hdigit _, hbetween⟩, notMem_protocolName hdigit hnames _⟩

/-- **Services are told apart by their signatures.** -/
theorem ServicePort.signature_inj {s t : ServicePort} : s.signature = t.signature ↔ s = t := by
  constructor
  · intro h
    have hchars : (toString s.port.toNat).toList ++ ' ' :: (protocolName s.proto).toList
        = (toString t.port.toNat).toList ++ ' ' :: (protocolName t.proto).toList := by
      simpa [signature] using congrArg String.toList h
    obtain ⟨hport, -, hproto⟩ := (List.append_cons_inj_of_notMem
      (notMem_toString rfl _) (notMem_protocolName rfl (by decide) _)).mp hchars
    obtain ⟨port, proto⟩ := s
    obtain ⟨port', proto'⟩ := t
    have hport : port = port' := UInt16.toNat_inj.mp (toString_inj.mp (String.toList_inj.mp hport))
    have hproto : proto = proto' := protocolName_inj.mp (String.toList_inj.mp hproto)
    rw [hport, hproto]
  · rintro rfl
    rfl

end TrafficDigest

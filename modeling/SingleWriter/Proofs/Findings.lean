import SingleWriter.Health
import Mathlib.Data.List.Nodup

/-!
# Findings and candidates

When no address was probed twice, the candidates are exactly the addresses in routable
health, and what a node was found to be was found by a probe that it answered.
-/

set_option autoImplicit false

namespace SingleWriter

theorem Node.servesIn_iff {n : Node} {tier : LocalState} :
    n.servesIn tier = true ↔ n.isPrimary = true ∧ n.rejectsQueries = false ∧ n.state = tier ∧
      (n.state = .donor → n.rejectsAsDonor = false) := by
  cases hp : n.isPrimary <;> cases hr : n.rejectsQueries <;> cases hd : n.rejectsAsDonor <;>
    simp [servesIn, isDonor, hp, hr, hd]

theorem Node.isServingDonor_iff {n : Node} :
    n.isServingDonor = true ↔ n.isPrimary = true ∧ n.rejectsQueries = false ∧ n.state = .donor ∧
      n.rejectsAsDonor = false := by
  cases hp : n.isPrimary <;> cases hr : n.rejectsQueries <;>
    simp [isServingDonor, isDonor, hp, hr]

namespace HealthMap

variable {m : HealthMap} {a : Addr}

theorem mem_candidates :
    a ∈ m.candidates ↔ ∃ f ∈ m.findings, f.health = .routable ∧ f.addr = a := by
  simp [candidates, and_assoc]

theorem exists_finding_of_health {h : Health} (hh : m.health a = h) (hne : h ≠ .absent) :
    ∃ f ∈ m.findings, f.health = h ∧ f.addr = a := by
  cases hf : m.findings.find? (·.addr = a) with
  | none =>
    simp only [health, hf, Option.map_none, Option.getD_none] at hh
    exact absurd hh.symm hne
  | some f =>
    simp only [health, hf, Option.map_some, Option.getD_some] at hh
    exact ⟨f, List.mem_of_find?_eq_some hf, hh, by simpa using List.find?_some hf⟩

theorem health_eq_of_mem (hd : m.Distinct) {f : Finding} (hf : f ∈ m.findings) :
    m.health f.addr = f.health := by
  have hfind : m.findings.find? (fun x => x.addr = f.addr) = some f := by
    cases h : m.findings.find? (fun x => x.addr = f.addr) with
    | none => simpa using List.find?_eq_none.1 h f hf
    | some g =>
      have hg : g.addr = f.addr := by simpa using List.find?_some h
      rw [List.inj_on_of_nodup_map hd (List.mem_of_find?_eq_some h) hf hg]
  simp [health, hfind]

theorem mem_candidates_of_health (h : m.health a = .routable) : a ∈ m.candidates :=
  mem_candidates.2 (exists_finding_of_health h (by decide))

theorem mem_candidates_iff (hd : m.Distinct) : a ∈ m.candidates ↔ m.health a = .routable := by
  constructor
  · intro h
    obtain ⟨f, hf, hr, rfl⟩ := mem_candidates.1 h
    rw [health_eq_of_mem hd hf, hr]
  · exact mem_candidates_of_health

/-! ## Findings from probes -/

variable {tier : LocalState} {probes : List Probe}

theorem addr_finding (tier : LocalState) (p : Probe) : (p.finding tier).addr = p.addr := by
  unfold Probe.finding
  split <;> rfl

theorem distinct_ofProbes (h : (probes.map Probe.addr).Nodup) :
    (ofProbes tier probes).Distinct := by
  simpa [Distinct, ofProbes, Function.comp_def, addr_finding] using h

theorem finding_routable {p : Probe} (h : (p.finding tier).health = .routable) :
    ∃ node, p.answer = .ok node ∧ node.servesIn tier = true := by
  cases hp : p.answer with
  | error e => simp [Probe.finding, hp] at h
  | ok node =>
    refine ⟨node, rfl, ?_⟩
    by_contra hs
    simp [Probe.finding, hp, hs] at h

theorem finding_servingDonor {p : Probe} (h : (p.finding tier).servingDonor = true) :
    ∃ node, p.answer = .ok node ∧ node.isServingDonor = true := by
  cases hp : p.answer with
  | error e => simp [Probe.finding, hp] at h
  | ok node => exact ⟨node, rfl, by simpa [Probe.finding, hp] using h⟩

theorem exists_probe_of_routable (h : (ofProbes tier probes).health a = .routable) :
    ∃ node, ⟨a, .ok node⟩ ∈ probes ∧ node.servesIn tier = true := by
  obtain ⟨f, hf, hr, rfl⟩ := exists_finding_of_health h (by decide)
  obtain ⟨p, hp, rfl⟩ := List.mem_map.1 hf
  obtain ⟨node, hn, hs⟩ := finding_routable hr
  refine ⟨node, ?_, hs⟩
  rw [addr_finding, ← hn]
  exact hp

theorem exists_probe_of_servingDonor (h : (ofProbes tier probes).isServingDonor a = true) :
    ∃ node, ⟨a, .ok node⟩ ∈ probes ∧ node.isServingDonor = true := by
  simp only [isServingDonor, List.any_eq_true, Bool.and_eq_true, decide_eq_true_eq] at h
  obtain ⟨f, hf, rfl, hs⟩ := h
  obtain ⟨p, hp, rfl⟩ := List.mem_map.1 hf
  obtain ⟨node, hn, hd⟩ := finding_servingDonor hs
  refine ⟨node, ?_, hd⟩
  rw [addr_finding, ← hn]
  exact hp

end HealthMap

end SingleWriter

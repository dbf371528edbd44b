import SingleWriter.Proofs.Findings
import SingleWriter.Proofs.Tables

/-!
# Nodes from status variables

A node is read from its status variables exactly when they hold a state identifier, a numeral
of a local state, a cluster name and a cluster status, and whether it serves in a tier is a
matter of the values that they hold. A variable is known by its name in any letter case, so
nothing changes when names are written in another one.
-/

set_option autoImplicit false

namespace SingleWriter

/-! ## Numerals -/

namespace Text

def IsNumeral (n : Nat) (cs : List Char) : Prop :=
  ∃ ds, (cs = ds ∨ cs = '+' :: ds) ∧ ds ≠ [] ∧ (∀ d ∈ ds, d.isDigit = true) ∧
    Nat.ofDigitChars 10 ds 0 = n

theorem digitsValue?_eq_some_iff {ds : List Char} {n : Nat} :
    digitsValue? ds = some n ↔
      ds ≠ [] ∧ (∀ d ∈ ds, d.isDigit = true) ∧ Nat.ofDigitChars 10 ds 0 = n := by
  simp [digitsValue?, and_assoc]

theorem withoutPlus_of_digits {ds : List Char} (h : ∀ d ∈ ds, d.isDigit = true) :
    withoutPlus ds = ds := by
  unfold withoutPlus
  split
  · exact absurd (h '+' (by simp)) (by decide)
  · rfl

theorem isNumeral_iff {n : Nat} {cs : List Char} :
    IsNumeral n cs ↔ digitsValue? (withoutPlus cs) = some n := by
  rw [digitsValue?_eq_some_iff]
  constructor
  · rintro ⟨ds, rfl | rfl, hne, hdigits, hn⟩
    · rw [withoutPlus_of_digits hdigits]
      exact ⟨hne, hdigits, hn⟩
    · exact ⟨hne, hdigits, hn⟩
  · intro h
    refine ⟨withoutPlus cs, ?_, h⟩
    unfold withoutPlus
    split
    · exact .inr rfl
    · exact .inl rfl

theorem byte?_eq_some_iff {cs : List Char} {b : UInt8} :
    byte? cs = some b ↔ IsNumeral b.toNat cs := by
  rw [byte?, numeral?, Option.map_eq_some_iff, isNumeral_iff]
  constructor
  · rintro ⟨n, hn, rfl⟩
    obtain ⟨hvalue, hbound⟩ := Option.filter_eq_some_iff.1 hn
    rw [hvalue, UInt8.toNat_ofNat_of_lt' (by simpa using hbound)]
  · intro h
    refine ⟨b.toNat, Option.filter_eq_some_iff.2 ⟨h, ?_⟩, by simp⟩
    simpa using b.toNat_lt_size

end Text

theorem LocalState.ofNumber?_eq_some_iff {b : UInt8} {s : LocalState} :
    ofNumber? b = some s ↔ b = s.number := by
  constructor
  · intro h
    have hnumber : s.number = b := by simpa using List.find?_some h
    exact hnumber.symm
  · rintro rfl
    exact ofNumber?_number s

/-! ## Variables by name -/

namespace Variables

variable {vs vs' : Variables} {name value : String}

def Distinct (vs : Variables) : Prop := (vs.map fun v => Text.lowered v.1).Nodup

def Holds (vs : Variables) (name value : String) : Prop :=
  ∃ spelled, (spelled, value) ∈ vs ∧ Text.lowered spelled = name

def Recased (vs' vs : Variables) : Prop :=
  (vs'.map fun v => (Text.lowered v.1, v.2)).Perm (vs.map fun v => (Text.lowered v.1, v.2))

theorem holds_iff : vs.Holds name value ↔
    (name, value) ∈ vs.map fun v => (Text.lowered v.1, v.2) := by
  constructor
  · rintro ⟨spelled, hmem, rfl⟩
    exact List.mem_map.2 ⟨_, hmem, rfl⟩
  · intro h
    obtain ⟨⟨spelled, _⟩, hmem, heq⟩ := List.mem_map.1 h
    obtain ⟨hname, rfl⟩ := Prod.mk.inj heq
    exact ⟨spelled, hmem, hname⟩

/-- Variables with distinct names are a table, and the look-up is the one of the table. -/
theorem get?_eq_some_iff (h : vs.Distinct) : vs.get? name = some value ↔ vs.Holds name value := by
  have hget : vs.get? name =
      ((⟨vs, h⟩ : Table fun v : String × String => Text.lowered v.1).get? name).map Prod.snd := rfl
  rw [hget, Option.map_eq_some_iff]
  constructor
  · rintro ⟨⟨spelled, _⟩, hfound, rfl⟩
    exact ⟨spelled, Table.get?_eq_some_iff.1 hfound⟩
  · rintro ⟨spelled, hspelled⟩
    exact ⟨(spelled, value), Table.get?_eq_some_iff.2 hspelled, rfl⟩

theorem Recased.holds_iff (h : Recased vs' vs) : vs'.Holds name value ↔ vs.Holds name value := by
  rw [Variables.holds_iff, Variables.holds_iff, h.mem_iff]

theorem Recased.distinct (h : Recased vs' vs) (hd : vs.Distinct) : vs'.Distinct := by
  have hnames := (h.map Prod.fst).nodup_iff
  rw [List.map_map, List.map_map] at hnames
  exact hnames.2 hd

theorem Recased.get?_eq (h : Recased vs' vs) (hd : vs.Distinct) (name : String) :
    vs'.get? name = vs.get? name := by
  ext value
  rw [get?_eq_some_iff (h.distinct hd), get?_eq_some_iff hd, h.holds_iff]

theorem need_eq_ok_iff : vs.need name = .ok value ↔ vs.get? name = some value := by
  unfold need
  cases vs.get? name <;> simp

end Variables

/-! ## Nodes -/

namespace Node

variable {vs : Variables} {addr : Addr} {node : Node} {raw : String}

theorem bind_eq_ok {α β : Type} {x : Except NodeError α} {f : α → Except NodeError β} {b : β} :
    x >>= f = .ok b ↔ ∃ a, x = .ok a ∧ f a = .ok b := by
  cases x <;> simp [bind, Except.bind]

theorem readStateId_eq_ok_iff {id : Uuid} :
    readStateId raw = .ok id ↔ Uuid.parse (Text.trimmed raw) = .ok id := by
  rw [readStateId, Uuid.parse, Text.trimmed, String.toList_ofList]
  cases Uuid.read (Text.trim raw.toList) <;> simp

theorem readState_eq_ok_iff {s : LocalState} :
    readState raw = .ok s ↔ Text.IsNumeral s.number.toNat (Text.trimmed raw).toList := by
  rw [← Text.byte?_eq_some_iff, Text.trimmed, String.toList_ofList]
  have hbind : (Text.byte? (Text.trim raw.toList)).bind LocalState.ofNumber? = some s ↔
      Text.byte? (Text.trim raw.toList) = some s.number := by
    simp [Option.bind_eq_some_iff, LocalState.ofNumber?_eq_some_iff]
  rw [← hbind, readState]
  cases (Text.byte? (Text.trim raw.toList)).bind LocalState.ofNumber? <;> simp

/-- A node is read exactly when the four variables that it needs are there and two of them are
well-formed, and then it says what the variables say. -/
theorem ofVariables_eq_ok_iff : ofVariables addr vs = .ok node ↔
    ∃ id state name status,
      vs.get? Variables.stateId = some id ∧ readStateId id = .ok node.stateId ∧
      vs.get? Variables.localState = some state ∧ readState state = .ok node.state ∧
      vs.get? Variables.clusterName = some name ∧ vs.get? Variables.clusterStatus = some status ∧
      node.addr = addr ∧ node.clusterName = name ∧ node.isPrimary = saysPrimary status ∧
      node.rejectsQueries = ((vs.get? Variables.rejectQueries).map (!isNone ·)).getD false ∧
      node.rejectsAsDonor = ((vs.get? Variables.donorRejects).map isOn).getD false := by
  constructor
  · intro h
    obtain ⟨id, hid, h⟩ := bind_eq_ok.1 h
    obtain ⟨_, hreadId, h⟩ := bind_eq_ok.1 h
    obtain ⟨state, hstate, h⟩ := bind_eq_ok.1 h
    obtain ⟨_, hreadState, h⟩ := bind_eq_ok.1 h
    obtain ⟨name, hname, h⟩ := bind_eq_ok.1 h
    obtain ⟨status, hstatus, h⟩ := bind_eq_ok.1 h
    rw [← Except.ok.inj h]
    exact ⟨id, state, name, status, Variables.need_eq_ok_iff.1 hid, hreadId,
      Variables.need_eq_ok_iff.1 hstate, hreadState, Variables.need_eq_ok_iff.1 hname,
      Variables.need_eq_ok_iff.1 hstatus, rfl, rfl, rfl, rfl, rfl⟩
  · rintro ⟨id, state, name, status, hid, hreadId, hstate, hreadState, hname, hstatus, haddr,
      hnode, hprimary, hrejects, hdonor⟩
    refine bind_eq_ok.2 ⟨id, Variables.need_eq_ok_iff.2 hid, bind_eq_ok.2 ⟨_, hreadId, ?_⟩⟩
    refine bind_eq_ok.2 ⟨state, Variables.need_eq_ok_iff.2 hstate, bind_eq_ok.2 ⟨_, hreadState, ?_⟩⟩
    refine bind_eq_ok.2 ⟨name, Variables.need_eq_ok_iff.2 hname,
      bind_eq_ok.2 ⟨status, Variables.need_eq_ok_iff.2 hstatus, ?_⟩⟩
    rw [← haddr, ← hnode, ← hprimary, ← hrejects, ← hdonor]
    rfl

theorem ofVariables_congr {vs' : Variables} (h : ∀ name, vs'.get? name = vs.get? name) :
    ofVariables addr vs' = ofVariables addr vs := by
  have hget : vs'.get? = vs.get? := funext h
  simp only [ofVariables, Variables.need, hget]

/-! ## Flags -/

theorem saysPrimary_iff : saysPrimary raw = true ↔ Text.lowered (Text.trimmed raw) = "primary" := by
  have hname : Text.lowered "primary" = "primary" := by decide
  simp [saysPrimary, Text.sameUpToCase, hname]

theorem isNone_iff : isNone raw = true ↔ Text.lowered (Text.trimmed raw) = "none" := by
  have hname : Text.lowered "none" = "none" := by decide
  simp [isNone, Text.sameUpToCase, hname]

/-- A flag that a variable may set is off when no variable of this name sets it. -/
theorem flag_eq_false_iff {name : String} {sets : String → Bool} (h : vs.Distinct) :
    ((vs.get? name).map sets).getD false = false ↔
      ∀ value, vs.Holds name value → sets value = false := by
  simp only [← Variables.get?_eq_some_iff h]
  cases vs.get? name <;> simp

theorem rejectsQueries_iff (h : vs.Distinct) :
    ((vs.get? Variables.rejectQueries).map (!isNone ·)).getD false = false ↔
      ∀ value, vs.Holds Variables.rejectQueries value →
        Text.lowered (Text.trimmed value) = "none" := by
  rw [flag_eq_false_iff h]
  simp only [Bool.not_eq_false', isNone_iff]

theorem rejectsAsDonor_iff (h : vs.Distinct) :
    ((vs.get? Variables.donorRejects).map isOn).getD false = false ↔
      ∀ value, vs.Holds Variables.donorRejects value →
        Text.lowered (Text.trimmed value) ∉ ["on", "1", "yes", "true"] := by
  rw [flag_eq_false_iff h]
  simp only [isOn, decide_eq_false_iff_not]

/-! ## Local states -/

theorem exists_readState_iff : (∃ s, readState raw = .ok s) ↔
    ∃ n, 1 ≤ n ∧ n ≤ 4 ∧ Text.IsNumeral n (Text.trimmed raw).toList := by
  simp only [readState_eq_ok_iff]
  constructor
  · rintro ⟨s, hs⟩
    refine ⟨s.number.toNat, ?_, ?_, hs⟩ <;> cases s <;> decide
  · rintro ⟨n, hlow, hhigh, hn⟩
    obtain rfl | rfl | rfl | rfl : n = 1 ∨ n = 2 ∨ n = 3 ∨ n = 4 := by omega
    · exact ⟨.joining, hn⟩
    · exact ⟨.donor, hn⟩
    · exact ⟨.joined, hn⟩
    · exact ⟨.synced, hn⟩

theorem state_eq_iff (h : readState raw = .ok node.state) (tier : LocalState) :
    node.state = tier ↔ Text.IsNumeral tier.number.toNat (Text.trimmed raw).toList := by
  rw [← readState_eq_ok_iff, h, Except.ok.injEq]

theorem number_eq_two_iff (tier : LocalState) : tier.number = 2 ↔ tier = .donor := by
  cases tier <;> decide

/-! ## From the variables to the routing -/

theorem exists_ofVariables_iff (h : vs.Distinct) (addr : Addr) :
    (∃ node, ofVariables addr vs = .ok node) ↔
      (∃ raw id, vs.Holds Variables.stateId raw ∧ Uuid.parse (Text.trimmed raw) = .ok id) ∧
      (∃ raw n, vs.Holds Variables.localState raw ∧ 1 ≤ n ∧ n ≤ 4 ∧
        Text.IsNumeral n (Text.trimmed raw).toList) ∧
      (∃ name, vs.Holds Variables.clusterName name) ∧
      ∃ status, vs.Holds Variables.clusterStatus status := by
  simp only [← Variables.get?_eq_some_iff h, ofVariables_eq_ok_iff]
  constructor
  · rintro ⟨node, id, state, name, status, hid, hreadId, hstate, hreadState, hname, hstatus, -⟩
    obtain ⟨n, hn⟩ := exists_readState_iff.1 ⟨_, hreadState⟩
    exact ⟨⟨id, _, hid, readStateId_eq_ok_iff.1 hreadId⟩, ⟨state, n, hstate, hn⟩, ⟨name, hname⟩,
      ⟨status, hstatus⟩⟩
  · rintro ⟨⟨id, u, hid, hreadId⟩, ⟨state, n, hstate, hn⟩, ⟨name, hname⟩, status, hstatus⟩
    obtain ⟨s, hreadState⟩ := exists_readState_iff.2 ⟨n, hn⟩
    refine ⟨⟨addr, name, u, saysPrimary status, s, _, _⟩, id, state, name, status, hid,
      readStateId_eq_ok_iff.2 hreadId, hstate, hreadState, hname, hstatus, rfl, rfl, rfl, rfl, rfl⟩

theorem servesIn_ofVariables_iff (h : vs.Distinct) (hnode : ofVariables addr vs = .ok node)
    (tier : LocalState) :
    node.servesIn tier = true ↔
      (∃ status, vs.Holds Variables.clusterStatus status ∧
        Text.lowered (Text.trimmed status) = "primary") ∧
      (∃ raw, vs.Holds Variables.localState raw ∧
        Text.IsNumeral tier.number.toNat (Text.trimmed raw).toList) ∧
      (∀ value, vs.Holds Variables.rejectQueries value →
        Text.lowered (Text.trimmed value) = "none") ∧
      (tier.number = 2 → ∀ value, vs.Holds Variables.donorRejects value →
        Text.lowered (Text.trimmed value) ∉ ["on", "1", "yes", "true"]) := by
  obtain ⟨id, state, name, status, -, -, hstate, hreadState, -, hstatus, -, -, hprimary, hrejects,
    hdonor⟩ := ofVariables_eq_ok_iff.1 hnode
  have hsays : node.isPrimary = true ↔ ∃ status, vs.Holds Variables.clusterStatus status ∧
      Text.lowered (Text.trimmed status) = "primary" := by
    simp [← Variables.get?_eq_some_iff h, hstatus, hprimary, saysPrimary_iff]
  have htier : node.state = tier ↔ ∃ raw, vs.Holds Variables.localState raw ∧
      Text.IsNumeral tier.number.toNat (Text.trimmed raw).toList := by
    simp [← Variables.get?_eq_some_iff h, hstate, state_eq_iff hreadState]
  rw [servesIn_iff, hsays, hrejects, hdonor, rejectsQueries_iff h, rejectsAsDonor_iff h, ← htier,
    number_eq_two_iff]
  constructor
  · rintro ⟨hp, hr, rfl, hd⟩
    exact ⟨hp, rfl, hr, hd⟩
  · rintro ⟨hp, rfl, hr, hd⟩
    exact ⟨hp, hr, rfl, hd⟩

/-- From status variables to routable. Where no two names are equal up to letter case, a node
is read exactly when the trimmed state identifier can be read, the trimmed local state is a
numeral from 1 to 4, and a cluster name and a cluster status are there. It serves in a tier
exactly when the status says primary, the numeral is the number of the tier, queries are not
rejected and, in the tier of donors, not rejected by donors either. Names in another letter
case make no difference. -/
theorem serves_of_variables (addr : Addr) (vs : Variables) (h : vs.Distinct) (tier : LocalState) :
    ((∃ node, ofVariables addr vs = .ok node) ↔
      (∃ raw id, vs.Holds "wsrep_cluster_state_uuid" raw ∧
        Uuid.parse (Text.trimmed raw) = .ok id) ∧
      (∃ raw n, vs.Holds "wsrep_local_state" raw ∧ 1 ≤ n ∧ n ≤ 4 ∧
        Text.IsNumeral n (Text.trimmed raw).toList) ∧
      (∃ name, vs.Holds "wsrep_cluster_name" name) ∧
      ∃ status, vs.Holds "wsrep_cluster_status" status) ∧
    (∀ node, ofVariables addr vs = .ok node → (node.servesIn tier = true ↔
      (∃ status, vs.Holds "wsrep_cluster_status" status ∧
        Text.lowered (Text.trimmed status) = "primary") ∧
      (∃ raw, vs.Holds "wsrep_local_state" raw ∧
        Text.IsNumeral tier.number.toNat (Text.trimmed raw).toList) ∧
      (∀ value, vs.Holds "wsrep_reject_queries" value →
        Text.lowered (Text.trimmed value) = "none") ∧
      (tier.number = 2 → ∀ value, vs.Holds "wsrep_sst_donor_rejects_queries" value →
        Text.lowered (Text.trimmed value) ∉ ["on", "1", "yes", "true"]))) ∧
    ∀ vs', Variables.Recased vs' vs → ofVariables addr vs' = ofVariables addr vs := by
  refine ⟨exists_ofVariables_iff h addr, ?_, ?_⟩
  · intro node hnode
    exact servesIn_ofVariables_iff h hnode tier
  · intro vs' hrecased
    exact ofVariables_congr (hrecased.get?_eq h)

def donorVariables : Variables :=
  [("WSREP_Cluster_State_UUID", " 8a0ff8a5-5c5d-11e7-8e1b-0242ac120002 "),
    ("wsrep_cluster_status", "PRIMARY"), ("wsrep_local_state", "+02"),
    ("Wsrep_Cluster_Name", "galera"), ("wsrep_reject_queries", " None "),
    ("WSREP_SST_DONOR_REJECTS_QUERIES", "off")]

def loweredVariables : Variables := (donorVariables.map fun v => (Text.lowered v.1, v.2)).reverse

theorem serves_of_variables_of_donorVariables :
    donorVariables.Distinct ∧ Variables.Recased loweredVariables donorVariables ∧
    ofVariables ⟨"db1", 3306⟩ loweredVariables = ofVariables ⟨"db1", 3306⟩ donorVariables ∧
    ∃ node, ofVariables ⟨"db1", 3306⟩ donorVariables = .ok node ∧ node.servesIn .donor = true := by
  have hdistinct : donorVariables.Distinct := by
    unfold Variables.Distinct
    decide +kernel
  have hrecased : Variables.Recased loweredVariables donorVariables := by
    rw [Variables.Recased, loweredVariables, List.map_reverse]
    exact (List.reverse_perm _).trans (.of_eq (by decide +kernel))
  obtain ⟨hread, hserves, hsame⟩ :=
    serves_of_variables ⟨"db1", 3306⟩ donorVariables hdistinct .donor
  have hholds : ∀ name value, donorVariables.get? name = some value →
      donorVariables.Holds name value := fun _ _ h => (Variables.get?_eq_some_iff hdistinct).1 h
  have hvalue : ∀ name value, donorVariables.get? name = some value →
      ∀ other, donorVariables.Holds name other → other = value := by
    intro name value hget other h
    have hother := (Variables.get?_eq_some_iff hdistinct).2 h
    exact Option.some.inj (hother.symm.trans hget)
  have hnumeral : Text.IsNumeral 2 (Text.trimmed "+02").toList :=
    ⟨['0', '2'], .inr (by decide +kernel), List.cons_ne_nil _ _, List.all_eq_true.1 rfl, rfl⟩
  have hstatus := hholds "wsrep_cluster_status" "PRIMARY" (by decide +kernel)
  have hstate := hholds "wsrep_local_state" "+02" (by decide +kernel)
  have hid : Uuid.parse (Text.trimmed " 8a0ff8a5-5c5d-11e7-8e1b-0242ac120002 ") =
      .ok ⟨0x8a0ff8a55c5d11e78e1b0242ac120002⟩ := by decide +kernel
  obtain ⟨node, hnode⟩ := hread.2 ⟨⟨_, _, hholds _ _ (by decide +kernel), hid⟩,
    ⟨_, 2, hstate, by decide, by decide, hnumeral⟩, ⟨_, hholds _ "galera" (by decide +kernel)⟩,
    ⟨_, hstatus⟩⟩
  refine ⟨hdistinct, hrecased, hsame _ hrecased, node, hnode, (hserves node hnode).2 ?_⟩
  refine ⟨⟨_, hstatus, by decide⟩, ⟨_, hstate, hnumeral⟩, ?_, ?_⟩
  · intro value hheld
    rw [hvalue _ " None " (by decide +kernel) value hheld]
    decide
  · intro _ value hheld
    rw [hvalue _ "off" (by decide +kernel) value hheld]
    decide

end Node

end SingleWriter

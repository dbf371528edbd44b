import SingleWriter.Proofs.Literals

/-!
# Statements of the admin interface as prepared texts

Every statement that is put together from values has a prepared text: fixed words, the
numbers, and a question mark in the place of each string. Read by the rule for literals the
statement is that text with the strings filled in, each whole and in its place. So no string
reaches the text around the literals, and statements that differ only in what their strings
hold have one such text.
-/

set_option autoImplicit false

namespace SingleWriter.Sql

/-! ## Prepared texts -/

namespace Prepared

def word (n : UInt32) : String := Text.decimalText n.toNat

def bit (b : Bool) : String := if b then "1" else "0"

def hole (s : Option String) : String := if s.isSome then "?" else "NULL"

def listed (items : List String) : String := ", ".intercalate items

def serverNames : String :=
  "hostgroup_id, hostname, port, status, weight, compression, max_connections, " ++
    "max_replication_lag, use_ssl, max_latency_ms, comment"

def userNames : String :=
  "username, password, active, use_ssl, default_hostgroup, default_schema, schema_locked, " ++
    "transaction_persistent, fast_forward, backend, frontend, max_connections"

def whereAll : List String → String
  | [] => ""
  | c :: cs => " WHERE " ++ " AND ".intercalate (c :: cs)

def replaceInto (table names : String) (items : List String) : String :=
  s!"REPLACE INTO {table} ({names}) VALUES (" ++ (listed items ++ ")")

def selectServers (hostgroup : Option UInt32) (status : Option Status) : String :=
  s!"SELECT {serverNames} FROM mysql_servers" ++
    (whereAll ((hostgroup.map fun n => s!"hostgroup_id = {word n}").toList ++
      (status.map fun _ => "status = ?").toList) ++ " ORDER BY hostgroup_id, hostname, port")

def replaceServer (b : Backend) : String :=
  replaceInto "mysql_servers" serverNames
    [word b.hostgroup, "?", Text.decimalText b.addr.port.toNat, "?", word b.weight,
      word b.compression, word b.maxConnections, word b.maxReplicationLag, bit b.useSsl,
      word b.maxLatencyMs, hole b.annotation.toComment]

def rowFilter (b : Backend) : String :=
  s!"hostgroup_id = {word b.hostgroup} AND hostname = " ++
    ("?" ++ s!" AND port = {Text.decimalText b.addr.port.toNat}")

def countServers (b : Backend) : String :=
  "SELECT COUNT(*) AS n FROM mysql_servers WHERE " ++ rowFilter b

def updateStatus (b : Backend) : String :=
  "UPDATE mysql_servers SET status = ? WHERE " ++ rowFilter b

def updateVariable : String :=
  "UPDATE global_variables SET variable_value = ? WHERE variable_name = ?"

def selectUsers (username : Option String) : String :=
  s!"SELECT {userNames} FROM mysql_users" ++
    (whereAll (username.map fun _ => "username = ?").toList ++ " ORDER BY username, backend")

def replaceUser (a : Account) : String :=
  replaceInto "mysql_users" userNames
    ["?", "?", bit a.active, bit a.useSsl, word a.defaultHostgroup, hole a.defaultSchema,
      bit a.schemaLocked, bit a.transactionPersistent, bit a.fastForward, bit a.backend,
      bit a.frontend, word a.maxConnections]

def deleteUsers : String := "DELETE FROM mysql_users WHERE username = ?"

theorem columnList_serverColumns : columnList serverColumns = serverNames := by decide +kernel

theorem columnList_userColumns : columnList userColumns = userNames := by decide +kernel

theorem listed_cons_cons (s t : String) (items : List String) :
    listed (s :: t :: items) = s ++ (", " ++ listed (t :: items)) := by
  rw [listed, String.intercalate_cons_cons, String.append_assoc, listed]

end Prepared

/-! ## Values -/

def Value.prepared : Value → String
  | .number n => Text.decimalText n
  | .text _ => "?"
  | .null => "NULL"

def Value.string? : Value → Option String
  | .text s => some s
  | _ => none

namespace Value

theorem prepared_bit (b : Bool) : (bit b).prepared = Prepared.bit b := by
  cases b <;> decide

theorem prepared_ofOption (s : Option String) : (ofOption s).prepared = Prepared.hole s := by
  cases s <;> rfl

theorem prepared_part (v : Value) : v.part.prepared = v.prepared := by
  cases v <;> rfl

theorem value?_part (v : Value) : v.part.value? = v.string? := by
  cases v <;> rfl

end Value

namespace Statement

/-! ## Lists of values and of conditions -/

theorem prepared_plain (text : String) : prepared [.plain text] = text :=
  (prepared_cons _ _).trans String.append_empty

theorem prepared_commaSeparated (vs : List Value) :
    prepared (commaSeparated vs) = Prepared.listed (vs.map Value.prepared) := by
  induction vs using commaSeparated.induct with
  | case1 => rfl
  | case2 v =>
    rw [commaSeparated, prepared_cons, Value.prepared_part]
    exact String.append_empty
  | case3 v w vs ih =>
    rw [commaSeparated, prepared_cons, prepared_cons, ih, Value.prepared_part]
    exact (Prepared.listed_cons_cons _ _ _).symm

theorem literals_commaSeparated (vs : List Value) :
    literals (commaSeparated vs) = vs.filterMap Value.string? := by
  induction vs using commaSeparated.induct with
  | case1 => rfl
  | case2 v => simp only [commaSeparated, literals, List.filterMap_cons, Value.value?_part]; rfl
  | case3 v w vs ih =>
    rw [commaSeparated, literals, List.filterMap_cons, Value.value?_part,
      List.filterMap_cons_none rfl, ← literals, ih, List.filterMap_cons (a := v)]

theorem isSeparated_part (v : Value) {text : String} {rest : Statement}
    (h : IsSeparated (.plain text :: rest)) : IsSeparated (v.part :: .plain text :: rest) := by
  cases v with
  | number n => exact ⟨isFixed_decimalText n, h⟩
  | text s => exact h
  | null => exact ⟨by decide, h⟩

theorem isSeparated_commaSeparated (vs : List Value) {text : String} {rest : Statement}
    (h : IsSeparated (.plain text :: rest)) :
    IsSeparated (commaSeparated vs ++ .plain text :: rest) := by
  induction vs using commaSeparated.induct with
  | case1 => exact h
  | case2 v => exact isSeparated_part v h
  | case3 v w vs ih => exact isSeparated_part v ⟨by decide, ih⟩

theorem prepared_whereAll (cs : List (List Part)) :
    prepared (Sql.whereAll cs) = Prepared.whereAll (cs.map prepared) := by
  cases cs with
  | nil => rfl
  | cons c cs =>
    have hrest : ∀ (c : List Part) (cs : List (List Part)),
        prepared (c ++ cs.flatMap (.plain " AND " :: ·)) =
          " AND ".intercalate ((c :: cs).map prepared) := by
      intro c cs
      induction cs generalizing c with
      | nil => simp
      | cons d cs ih =>
        rw [List.flatMap_cons, prepared_append, List.cons_append, prepared_cons, ih]
        simp only [List.map_cons, String.intercalate_cons_cons, String.append_assoc]
        rfl
    rw [Sql.whereAll, prepared_cons, hrest]
    rfl

def IsCondition (c : List Part) : Prop :=
  ∀ text rest, IsSeparated (.plain text :: rest) → IsSeparated (c ++ .plain text :: rest)

theorem isSeparated_whereAll {cs : List (List Part)} (hcs : ∀ c ∈ cs, IsCondition c)
    {text : String} {rest : Statement} (h : IsSeparated (.plain text :: rest)) :
    IsSeparated (Sql.whereAll cs ++ .plain text :: rest) := by
  have hand : ∀ cs : List (List Part), (∀ c ∈ cs, IsCondition c) →
      ∃ t rest', cs.flatMap (.plain " AND " :: ·) ++ .plain text :: rest = .plain t :: rest' ∧
        IsSeparated (.plain t :: rest') := by
    intro cs hcs
    induction cs with
    | nil => exact ⟨text, rest, rfl, h⟩
    | cons c cs ih =>
      obtain ⟨t, rest', heq, hsep⟩ := ih fun d hd => hcs d (by simp [hd])
      refine ⟨" AND ", c ++ .plain t :: rest', by simp [heq], by decide, ?_⟩
      exact hcs c (by simp) t rest' hsep
  cases cs with
  | nil => exact h
  | cons c cs =>
    obtain ⟨t, rest', heq, hsep⟩ := hand cs fun d hd => hcs d (by simp [hd])
    rw [Sql.whereAll, List.cons_append, List.append_assoc, heq]
    exact ⟨by decide, hcs c (by simp) t rest' hsep⟩

end Statement

/-! ## Names of columns and tables -/

def IsName (name : String) : Prop :=
  name ≠ "" ∧ ∀ c ∈ name.toList, c.isAlphanum ∨ c = '_'

instance (name : String) : Decidable (IsName name) :=
  @instDecidableAnd _ _ _ (List.decidableBAll (fun c => c.isAlphanum ∨ c = '_') name.toList)

theorem isName_serverColumns : ∀ name ∈ serverColumns, IsName name := by decide

theorem isName_userColumns : ∀ name ∈ userColumns, IsName name := by decide

theorem IsName.ne {name : String} (h : IsName name) {c d : Char} (hc : c ∈ name.toList)
    (hd : (d.isAlphanum || d = '_') = false) : c ≠ d := by
  rintro rfl
  rcases h.2 c hc with halpha | hscore
  · simp [halpha] at hd
  · simp [hscore] at hd

theorem IsName.isFixed {name : String} (h : IsName name) : IsFixed name :=
  ⟨h.1, fun _ hc => ⟨h.ne hc (by decide), h.ne hc (by decide)⟩⟩

theorem isClear_columnList {columns : List String} (h : ∀ c ∈ columns, IsName c) :
    IsClear (columnList columns) := by
  induction columns with
  | nil => decide
  | cons c columns ih =>
    cases columns with
    | nil => exact (h c (by simp)).isFixed.2
    | cons d columns =>
      rw [columnList, String.intercalate_cons_cons]
      exact ((h c (by simp)).isFixed.2.append (by decide)).append
        (ih fun e he => h e (by simp [he]))

theorem isSeparated_replaceInto {table : String} {columns : List String} (ht : IsName table)
    (hc : ∀ c ∈ columns, IsName c) (vs : List Value) :
    Statement.IsSeparated (replaceInto table columns vs) := by
  refine ⟨?_, Statement.isSeparated_commaSeparated vs ⟨by decide, trivial⟩⟩
  exact (((IsFixed.append (by decide) ht.isFixed.2).append (by decide)).append
    (isClear_columnList hc)).append (by decide)

theorem prepared_replaceInto (table : String) (columns : List String) (vs : List Value) :
    Statement.prepared (replaceInto table columns vs) =
      Prepared.replaceInto table (columnList columns) (vs.map Value.prepared) := by
  rw [replaceInto, Statement.prepared_cons, Statement.prepared_append,
    Statement.prepared_commaSeparated]
  rfl

theorem literals_replaceInto (table : String) (columns : List String) (vs : List Value) :
    Statement.literals (replaceInto table columns vs) = vs.filterMap Value.string? := by
  rw [replaceInto, Statement.literals, List.filterMap_cons_none rfl, List.filterMap_append,
    ← Statement.literals, Statement.literals_commaSeparated]
  exact List.append_nil _

/-! ## Every statement with values -/

/-- A statement, or the condition on a row, with the values that go into it. -/
inductive Composition where
  | selectServers (hostgroup : Option UInt32) (status : Option Status)
  | replaceServer (b : Backend)
  | rowFilter (b : Backend)
  | countServers (b : Backend)
  | updateStatus (b : Backend) (status : Status)
  | updateVariable (name value : String)
  | selectUsers (username : Option String)
  | replaceUser (a : Account)
  | deleteUsers (username : String)

namespace Composition

def statement : Composition → Statement
  | selectServers hostgroup status => Sql.selectServers hostgroup status
  | replaceServer b => Sql.replaceServer b
  | rowFilter b => Sql.rowFilter b
  | countServers b => Sql.countServers b
  | updateStatus b status => Sql.updateStatus b status
  | updateVariable name value => Sql.updateVariable name value
  | selectUsers username => Sql.selectUsers username
  | replaceUser a => Sql.replaceUser a
  | deleteUsers username => Sql.deleteUsers username

def strings : Composition → List String
  | selectServers _ status => (status.map Status.name).toList
  | replaceServer b => b.addr.host :: b.status.name :: b.annotation.toComment.toList
  | rowFilter b => [b.addr.host]
  | countServers b => [b.addr.host]
  | updateStatus b status => [status.name, b.addr.host]
  | updateVariable name value => [value, name]
  | selectUsers username => username.toList
  | replaceUser a => a.username :: a.password :: a.defaultSchema.toList
  | deleteUsers username => [username]

def prepared : Composition → String
  | selectServers hostgroup status => Prepared.selectServers hostgroup status
  | replaceServer b => Prepared.replaceServer b
  | rowFilter b => Prepared.rowFilter b
  | countServers b => Prepared.countServers b
  | updateStatus b _ => Prepared.updateStatus b
  | updateVariable _ _ => Prepared.updateVariable
  | selectUsers username => Prepared.selectUsers username
  | replaceUser a => Prepared.replaceUser a
  | deleteUsers _ => Prepared.deleteUsers

theorem literals_statement (c : Composition) : c.statement.literals = c.strings := by
  cases c with
  | selectServers hostgroup status => cases hostgroup <;> cases status <;> rfl
  | replaceServer b =>
    rw [statement, Sql.replaceServer, literals_replaceInto, strings, serverValues]
    cases b.annotation.toComment <;> rfl
  | rowFilter b => rfl
  | countServers b => rfl
  | updateStatus b status => rfl
  | updateVariable name value => rfl
  | selectUsers username => cases username <;> rfl
  | replaceUser a =>
    rw [statement, Sql.replaceUser, literals_replaceInto, strings, userValues]
    cases a.defaultSchema <;> rfl
  | deleteUsers username => rfl

theorem prepared_rowFilter (b : Backend) :
    Statement.prepared (Sql.rowFilter b) = Prepared.rowFilter b := by
  rw [Sql.rowFilter, Statement.prepared_cons, Statement.prepared_cons, Statement.prepared_plain]
  rfl

theorem prepared_statement (c : Composition) : c.statement.prepared = c.prepared := by
  cases c with
  | selectServers hostgroup status =>
    have hconditions : ((hostgroup.map hostgroupFilter).toList ++
        (status.map statusFilter).toList).map Statement.prepared =
          (hostgroup.map fun n => s!"hostgroup_id = {Prepared.word n}").toList ++
            (status.map fun _ => "status = ?").toList := by
      have hgroup : ∀ n, Statement.prepared (hostgroupFilter n) =
          s!"hostgroup_id = {Prepared.word n}" := fun _ => Statement.prepared_plain _
      cases hostgroup <;> cases status <;> simp [hgroup] <;> rfl
    rw [statement, Sql.selectServers, Statement.prepared_cons, Part.prepared,
      Prepared.columnList_serverColumns, Statement.prepared_append, Statement.prepared_whereAll,
      Statement.prepared_plain, hconditions, prepared, Prepared.selectServers]
  | replaceServer b =>
    rw [statement, Sql.replaceServer, prepared_replaceInto,
      Prepared.columnList_serverColumns, prepared, Prepared.replaceServer, serverValues]
    simp only [List.map_cons, List.map_nil, Value.prepared_bit, Value.prepared_ofOption]
    rfl
  | rowFilter b => exact prepared_rowFilter b
  | countServers b =>
    rw [statement, Sql.countServers, Statement.prepared_cons, prepared_rowFilter]
    rfl
  | updateStatus b status =>
    rw [statement, Sql.updateStatus, Statement.prepared_append, prepared_rowFilter]
    rfl
  | updateVariable name value => rfl
  | selectUsers username =>
    have hconditions : (username.map fun name =>
        [Part.plain "username = ", .literal name]).toList.map Statement.prepared =
          (username.map fun _ => "username = ?").toList := by
      cases username <;> rfl
    rw [statement, Sql.selectUsers, Statement.prepared_cons, Part.prepared,
      Prepared.columnList_userColumns, Statement.prepared_append, Statement.prepared_whereAll,
      Statement.prepared_plain, hconditions, prepared, Prepared.selectUsers]
  | replaceUser a =>
    rw [statement, Sql.replaceUser, prepared_replaceInto, Prepared.columnList_userColumns,
      prepared, Prepared.replaceUser, userValues]
    simp only [List.map_cons, List.map_nil, Value.prepared_bit, Value.prepared_ofOption]
    rfl
  | deleteUsers username => rfl

theorem isSeparated_rowFilter (b : Backend) : Statement.IsSeparated (Sql.rowFilter b) := by
  refine ⟨?_, ?_, trivial⟩
  · exact (IsFixed.append (by decide) (isFixed_decimalText _).2).append (by decide)
  · exact IsFixed.append (by decide) (isFixed_decimalText _).2

theorem isSeparated_statement (c : Composition) : c.statement.IsSeparated := by
  cases c with
  | selectServers hostgroup status =>
    have hhead : IsFixed s!"SELECT {columnList serverColumns} FROM mysql_servers" :=
      (IsFixed.append (by decide) (isClear_columnList isName_serverColumns)).append (by decide)
    refine ⟨hhead, Statement.isSeparated_whereAll ?_ ⟨by decide, trivial⟩⟩
    intro c hc text rest h
    rcases List.mem_append.1 hc with hc | hc
    · obtain ⟨n, -, rfl⟩ := Option.map_eq_some_iff.1 (Option.mem_toList.1 hc)
      exact ⟨IsFixed.append (by decide) (isFixed_decimalText _).2, h⟩
    · obtain ⟨s, -, rfl⟩ := Option.map_eq_some_iff.1 (Option.mem_toList.1 hc)
      exact ⟨by decide, h⟩
  | replaceServer b => exact isSeparated_replaceInto (by decide) isName_serverColumns _
  | rowFilter b => exact isSeparated_rowFilter b
  | countServers b => exact ⟨by decide, isSeparated_rowFilter b⟩
  | updateStatus b status => exact ⟨by decide, by decide, isSeparated_rowFilter b⟩
  | updateVariable name value => exact ⟨by decide, by decide, trivial⟩
  | selectUsers username =>
    have hhead : IsFixed s!"SELECT {columnList userColumns} FROM mysql_users" :=
      (IsFixed.append (by decide) (isClear_columnList isName_userColumns)).append (by decide)
    refine ⟨hhead, Statement.isSeparated_whereAll ?_ ⟨by decide, trivial⟩⟩
    intro c hc text rest h
    obtain ⟨name, -, rfl⟩ := Option.map_eq_some_iff.1 (Option.mem_toList.1 hc)
    exact ⟨by decide, h⟩
  | replaceUser a => exact isSeparated_replaceInto (by decide) isName_userColumns _
  | deleteUsers username => exact ⟨by decide, trivial⟩

/-! ## Strings stay in their literals -/

def SameServer (b b' : Backend) : Prop :=
  b' = { b with
    addr := ⟨b'.addr.host, b.addr.port⟩, status := b'.status, annotation := b'.annotation } ∧
  b'.annotation.toComment.isSome = b.annotation.toComment.isSome

def SameUser (a a' : Account) : Prop :=
  a' = { a with
    username := a'.username, password := a'.password, defaultSchema := a'.defaultSchema } ∧
  a'.defaultSchema.isSome = a.defaultSchema.isSome

inductive Alike : Composition → Composition → Prop where
  | selectServers (hostgroup : Option UInt32) {status status' : Option Status}
      (h : status'.isSome = status.isSome) :
      Alike (selectServers hostgroup status) (selectServers hostgroup status')
  | replaceServer {b b' : Backend} (h : SameServer b b') :
      Alike (replaceServer b) (replaceServer b')
  | rowFilter {b b' : Backend} (h : SameServer b b') : Alike (rowFilter b) (rowFilter b')
  | countServers {b b' : Backend} (h : SameServer b b') :
      Alike (countServers b) (countServers b')
  | updateStatus {b b' : Backend} (h : SameServer b b') (status status' : Status) :
      Alike (updateStatus b status) (updateStatus b' status')
  | updateVariable (name name' value value' : String) :
      Alike (updateVariable name value) (updateVariable name' value')
  | selectUsers {username username' : Option String} (h : username'.isSome = username.isSome) :
      Alike (selectUsers username) (selectUsers username')
  | replaceUser {a a' : Account} (h : SameUser a a') : Alike (replaceUser a) (replaceUser a')
  | deleteUsers (username username' : String) :
      Alike (deleteUsers username) (deleteUsers username')

theorem rowFilter_of_sameServer {b b' : Backend} (h : SameServer b b') :
    Prepared.rowFilter b' = Prepared.rowFilter b := by
  rw [h.1]
  rfl

/-- Only whether there is a value matters to what does not look at it. -/
theorem map_const_congr {α β : Type} {o o' : Option α} (h : o'.isSome = o.isSome) (b : β) :
    (o'.map fun _ => b) = o.map fun _ => b := by
  cases o <;> cases o' <;> simp_all

theorem prepared_of_alike {c c' : Composition} (h : c.Alike c') : c'.prepared = c.prepared := by
  cases h with
  | selectServers hostgroup h =>
    rw [prepared, prepared, Prepared.selectServers, Prepared.selectServers, map_const_congr h]
  | replaceServer h =>
    obtain ⟨heq, hcomment⟩ := h
    rw [prepared, prepared, Prepared.replaceServer, Prepared.replaceServer, Prepared.hole,
      hcomment, heq]
    rfl
  | rowFilter h => exact rowFilter_of_sameServer h
  | countServers h =>
    rw [prepared, prepared]
    unfold Prepared.countServers
    rw [rowFilter_of_sameServer h]
  | updateStatus h =>
    rw [prepared, prepared]
    unfold Prepared.updateStatus
    rw [rowFilter_of_sameServer h]
  | updateVariable => rfl
  | selectUsers h =>
    rw [prepared, prepared, Prepared.selectUsers, Prepared.selectUsers, map_const_congr h]
  | replaceUser h =>
    obtain ⟨heq, hschema⟩ := h
    rw [prepared, prepared, Prepared.replaceUser, Prepared.replaceUser, Prepared.hole, hschema, heq]
    rfl
  | deleteUsers => rfl

theorem frame_readText (c : Composition) :
    (Token.readText c.statement.text).map frame = some (frameOf c.prepared) := by
  have hsep := isSeparated_statement c
  rw [Statement.readText_text hsep, Option.map_some, Statement.frame_tokens fun _ => hsep.fixed,
    prepared_statement]

/-- Every statement is read as its prepared text with the strings in the places of the
question marks, and what the strings hold has no part in the text around them. -/
theorem strings_stay_in_literals (c : Composition) :
    (∃ ts, Token.readText c.statement.text = some ts ∧ literalValues ts = c.strings ∧
      frame ts = frameOf c.prepared) ∧
    ∀ c', c.Alike c' →
      (Token.readText c'.statement.text).map frame =
        (Token.readText c.statement.text).map frame := by
  constructor
  · have hread := Statement.readText_text (isSeparated_statement c)
    refine ⟨c.statement.tokens, hread, ?_, ?_⟩
    · rw [Statement.literalValues_tokens, literals_statement]
    · have hframe := frame_readText c
      rw [hread] at hframe
      exact Option.some.inj hframe
  · intro c' h
    rw [frame_readText, frame_readText, prepared_of_alike h]

theorem strings_stay_in_literals_of_hostileName :
    (deleteUsers "x' OR ''='").statement.text =
      "DELETE FROM mysql_users WHERE username = 'x'' OR ''''='''" ∧
    Alike (deleteUsers "app") (deleteUsers "x' OR ''='") ∧
    (Token.readText (deleteUsers "x' OR ''='").statement.text).map frame =
      (Token.readText (deleteUsers "app").statement.text).map frame :=
  ⟨by decide, .deleteUsers _ _, (strings_stay_in_literals _).2 _ (.deleteUsers _ _)⟩

end Composition

end SingleWriter.Sql

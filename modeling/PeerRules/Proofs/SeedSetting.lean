import PeerRules.Proofs.Performing
import PeerRules.Proofs.Persistence
import PeerRules.Proofs.Seeding
import PeerRules.Worker.Process

/-!
# The seed setting at a store that is not empty

A worker that is given a seed file looks first whether its store holds a rule, and leaves the store
alone if it does. So the setting should make no difference at a database with rules. It makes none
as long as every rule can be loaded: the worker exchanges the same, with the same replies, but for
the look and a line in the log, and comes to the same result. But the look loads every rule, also
those that are not active, and fails with the first that cannot be loaded, whereas running the rules
reports such a rule and goes on with the next.

* `Sweep.renewed`: a sweep as a plan, with the renewals that fall due.
* `Table.listRules_eq`: what listing every rule comes to.
* `Worker.seeded_runs_iff`, `Worker.unseeded_runs_iff`: the exchanges of a worker with the setting
  and without it.
* `Worker.seedIgnored_iff`: when the setting makes no difference.
-/
namespace PeerRules

/-! ## Renewals -/

namespace Sweep

variable {α β : Type}

def renewals (p : Permit) : Nat → RulesPlan Unit
  | 0 => .done ()
  | n + 1 => (renewal p).bind fun _ => renewals p n

/-- A batch, with the number of renewals that fall due before each of its calls. -/
def renewing (p : Permit) : List Nat → RulesPlan α → RulesPlan α
  | _, .done a => .done a
  | beats, .call c next => (renewals p (beats.headD 0)).bind fun _ =>
    .call c fun r => renewing p beats.tail (next r)

/-- A sweep as a plan, with the renewals that fall due in each of its batches. -/
def renewed : List (List Nat) → Sweep α → RulesPlan α
  | _, .done a => .done a
  | beats, .call c next => .call c fun r => renewed beats (next r)
  | beats, .guarded p batch next => (renewing p (beats.headD []) batch).bind fun r =>
    renewed beats.tail (next r)

theorem renewing_nil (p : Permit) (plan : RulesPlan α) : renewing p [] plan = plan := by
  induction plan with
  | done a => rfl
  | call c next ih => exact congrArg (Plan.call (P := Call.signature) c) (funext ih)

/-- When no renewal falls due, the plan is the one without renewals. -/
theorem renewed_nil (x : Sweep α) : renewed [] x = x.unrenewed := by
  induction x with
  | done a => rfl
  | call c next ih => exact congrArg (Plan.call (P := Call.signature) c) (funext ih)
  | guarded p batch next ih =>
    unfold renewed unrenewed
    rw [List.headD_nil, renewing_nil]
    exact congrArg (Plan.bind batch) (funext ih)

theorem renewed_ofPlan_bind (beats : List (List Nat)) (plan : RulesPlan α) (f : α → Sweep β) :
    renewed beats ((ofPlan plan).bind f) = plan.bind fun a => renewed beats (f a) := by
  induction plan with
  | done a => rfl
  | call c next ih => exact congrArg (Plan.call (P := Call.signature) c) (funext ih)

end Sweep

/-! ## Listing every rule -/

namespace Table

def rulesOf : Except Refusal (List RuleCells) → Except Fault (List Rule)
  | .ok cs => (rowsOf (failedTo "list rules") cs).bind (·.mapM RuleRow.rule)
  | .error e => .error (failedTo "list rules" e.text)

theorem listRules_eq : listRules = .call (.ruleRows .listRules) fun reply =>
    .done (rulesOf reply) := by
  refine congrArg (Plan.call (P := Wire.Call.signature) _) (funext fun reply => ?_)
  cases reply <;> rfl

theorem mapM_cells (rows : List RuleRow) :
    (rows.map RuleRow.cells).mapM RuleCells.row = .ok rows := by
  induction rows with
  | nil => rfl
  | cons row rows ih =>
    rw [List.map_cons, List.mapM_cons, row_of_columns, ih]
    rfl

/-- Rows that are full are loaded one after another, up to the first that cannot be. -/
theorem rulesOf_cells (rows : List RuleRow) :
    rulesOf (.ok (rows.map RuleRow.cells)) = rows.mapM RuleRow.rule := by
  have hrows : rowsOf (failedTo "list rules") (rows.map RuleRow.cells) = .ok rows :=
    mapError_eq_ok_iff.2 (mapM_cells rows)
  change (rowsOf (failedTo "list rules") (rows.map RuleRow.cells)).bind _ = _
  rw [hrows]
  rfl

theorem mapM_rule_cons_eq_ok_iff {row : RuleRow} {rows : List RuleRow} {rs : List Rule} :
    (row :: rows).mapM RuleRow.rule = .ok rs ↔
      ∃ r rest, row.rule = .ok r ∧ rows.mapM RuleRow.rule = .ok rest ∧ rs = r :: rest := by
  simp only [List.mapM_cons, bind_eq_ok_iff, pure, Except.pure, Except.ok.injEq, @eq_comm _ _ rs,
    exists_and_left]

theorem ne_nil_of_mapM_rule {rows : List RuleRow} {rs : List Rule} (hrows : rows ≠ [])
    (h : rows.mapM RuleRow.rule = .ok rs) : rs ≠ [] := by
  obtain ⟨row, rest, rfl⟩ := List.exists_cons_of_ne_nil hrows
  obtain ⟨r, others, -, -, rfl⟩ := mapM_rule_cons_eq_ok_iff.1 h
  exact List.cons_ne_nil r others

/-- All rows are loaded when each of them can be. -/
theorem exists_mapM_rule_iff {rows : List RuleRow} :
    (∃ rs, rows.mapM RuleRow.rule = .ok rs) ↔ ∀ row ∈ rows, ∃ r, row.rule = .ok r := by
  induction rows with
  | nil => exact iff_of_true ⟨[], rfl⟩ (fun row h => by cases h)
  | cons row rows ih =>
    rw [List.forall_mem_cons, ← ih]
    constructor
    · intro h
      obtain ⟨rs, hrs⟩ := h
      obtain ⟨r, rest, hr, hrest, -⟩ := mapM_rule_cons_eq_ok_iff.1 hrs
      exact ⟨⟨r, hr⟩, rest, hrest⟩
    · intro h
      obtain ⟨⟨r, hr⟩, rest, hrest⟩ := h
      exact ⟨r :: rest, mapM_rule_cons_eq_ok_iff.2 ⟨r, rest, hr, hrest, rfl⟩⟩

end Table

/-! ## A worker with the setting and without it -/

namespace Worker

open Plan Table

variable {env : Config.Lookup} {fallbackId path : String} {mode : Mode} {beats : List (List Nat)}
  {c : Config} {p : Parties} {rows : List RuleRow} {es xs : List (Exchange Wire.Call.signature)}
  {result : Except Fault Unit}

def withSeed (env : Config.Lookup) (path : Option String) : Config.Lookup := fun name =>
  if name = "RULES_SEED_PATH" then path else env name

theorem setting_withSeed {name : String} (h : name ≠ "RULES_SEED_PATH") (env : Config.Lookup)
    (path : Option String) : Config.setting (withSeed env path) name = Config.setting env name := by
  unfold Config.setting withSeed
  rw [if_neg h]

theorem positive_withSeed {name : String} (h : name ≠ "RULES_SEED_PATH") (env : Config.Lookup)
    (path : Option String) (default : Nat) :
    Config.positive (withSeed env path) name default = Config.positive env name default := by
  unfold Config.positive Config.natural
  rw [setting_withSeed h]

/-- The seed file is the only thing that the setting gives. -/
theorem ofLookup_withSeed (env : Config.Lookup) (path : Option String) (fallbackId : String) :
    Config.ofLookup (withSeed env path) fallbackId =
      (Config.ofLookup env fallbackId).map fun c =>
        { c with seedPath := path.bind Text.trimmed? } := by
  have hseed : Config.setting (withSeed env path) "RULES_SEED_PATH" = path.bind Text.trimmed? := rfl
  have hpassword : withSeed env path "NODE_RPC_PASSWORD" = env "NODE_RPC_PASSWORD" := rfl
  unfold Config.ofLookup
  simp (disch := decide) only [positive_withSeed, setting_withSeed, hseed, hpassword]
  cases Config.positive env "RULE_INTERVAL_MS" 300000 with
  | error f => rfl
  | ok interval =>
    cases Config.positive env "DISPATCH_TIMEOUT_MS" 10000 with
    | error f => rfl
    | ok dispatchTimeout =>
      cases Config.positive env "RPC_TIMEOUT_MS" 15000 with
      | error f => rfl
      | ok rpcTimeout => cases Config.positive env "RULE_LOCK_LEASE_SECONDS" 600 <;> rfl

/-- A worker, with the renewals that fall due in each of its batches. -/
def runRenewed (beats : List (List Nat)) (env : Config.Lookup) (fallbackId : String) (mode : Mode) :
    WirePlan (Except Fault Unit) :=
  match Config.ofLookup env fallbackId with
  | .error f => .done (.error f)
  | .ok c => do
    match ← c.connect with
    | .error f => return .error f
    | .ok parties => parties.perform ((c.work mode).renewed beats)

theorem runRenewed_nil (env : Config.Lookup) (fallbackId : String) (mode : Mode) :
    runRenewed [] env fallbackId mode = run env fallbackId mode := by
  have hnone : (Sweep.renewed [] : Sweep (Except Fault Unit) → _) = Sweep.unrenewed :=
    funext Sweep.renewed_nil
  unfold runRenewed
  rw [hnone]
  rfl

/-- What a worker does once it has said that it has started. -/
def Config.duty (c : Config) : Mode → Sweep (Except Fault Unit)
  | .once => once c.workerId (Dispatch.toNode c.dispatchTimeoutMs)
  | .timer count =>
    Watch.plan c.workerId c.ruleIntervalMs (Dispatch.toNode c.dispatchTimeoutMs) count none
  | .timerUntil count message =>
    Watch.plan c.workerId c.ruleIntervalMs (Dispatch.toNode c.dispatchTimeoutMs) count
      (some message)

theorem Config.work_eq (c : Config) (mode : Mode) :
    c.work mode = (Sweep.ofPlan c.prepare).bind fun
      | .error f => .done (.error f)
      | .ok () => c.duty mode := by
  cases mode <;> rfl

/-- What a worker does once its store is seeded. -/
def Config.onward (c : Config) (mode : Mode) (beats : List (List Nat)) :
    RulesPlan (Except Fault Unit) :=
  .call (.log c.started) fun _ => (c.duty mode).renewed beats

theorem unseeded_work (c : Config) (mode : Mode) (beats : List (List Nat)) :
    (({ c with seedPath := none } : Config).work mode).renewed beats = c.onward mode beats := by
  cases mode <;> rfl

/-- What a seeded worker does once every rule has been listed. -/
def Config.afterLook (c : Config) (path : String) (mode : Mode) (beats : List (List Nat))
    (listed : Except Fault (List Rule)) : RulesPlan (Except Fault Unit) :=
  (Seed.afterList path listed).bind fun
    | .error f => .done (.error f)
    | .ok () => c.onward mode beats

theorem seeded_work (c : Config) (path : String) (mode : Mode) (beats : List (List Nat)) :
    (({ c with seedPath := some path } : Config).work mode).renewed beats =
      .call .listRules (c.afterLook path mode beats) := by
  have hprepare : ({ c with seedPath := some path } : Config).prepare =
      (Seed.plan path).bind fun
        | .error f => .done (.error f)
        | .ok () => .call (.log c.started) fun _ => .done (.ok ()) := rfl
  rw [Config.work_eq, Sweep.renewed_ofPlan_bind, hprepare, Seed.plan_eq, bind_assoc]
  refine congrArg (Plan.call (P := Call.signature) Call.listRules) (funext fun listed => ?_)
  refine congrArg (Plan.bind (Seed.afterList path listed)) (funext fun seeded => ?_)
  cases seeded <;> rfl

/-! ### Connecting -/

def Connecting (e : Exchange Wire.Call.signature) : Prop :=
  (∃ server, e.call = .openTables server) ∨ e.call = .change .migrate

theorem openTables_runs (hdb : c.databaseUrl.isSome = true) {opened : Except Fault Bool}
    (h : c.openTables.Runs xs opened) :
    (∀ e ∈ xs, Connecting e) ∧ ∀ persistent, opened = .ok persistent → persistent = true := by
  obtain ⟨url, hurl⟩ := Option.isSome_iff_exists.1 hdb
  unfold Config.openTables at h
  rw [hurl] at h
  dsimp only at h
  cases hserver : Server.ofText url with
  | error refusal =>
    rw [hserver] at h
    obtain ⟨rfl, rfl⟩ := runs_done_iff.1 h
    exact ⟨(fun e he => by cases he), fun persistent hok => by cases hok⟩
  | ok server =>
    rw [hserver] at h
    obtain ⟨reply, rest, rfl, hrest⟩ := runs_call_iff.1 h
    have hfirst : Connecting ⟨.openTables server, reply⟩ := .inl ⟨server, rfl⟩
    cases reply with
    | error reason =>
      obtain ⟨rfl, rfl⟩ := runs_done_iff.1 hrest
      exact ⟨List.forall_mem_singleton.2 hfirst, fun persistent hok => by cases hok⟩
    | ok u =>
      obtain ⟨made, last, rfl, hlast⟩ := runs_call_iff.1 hrest
      have hsecond : Connecting ⟨.change .migrate, made⟩ := .inr rfl
      cases made with
      | error refusal =>
        obtain ⟨rfl, rfl⟩ := runs_done_iff.1 hlast
        exact ⟨List.forall_mem_cons.2 ⟨hfirst, List.forall_mem_singleton.2 hsecond⟩,
          fun persistent hok => by cases hok⟩
      | ok n =>
        obtain ⟨rfl, rfl⟩ := runs_done_iff.1 hlast
        exact ⟨List.forall_mem_cons.2 ⟨hfirst, List.forall_mem_singleton.2 hsecond⟩,
          fun persistent hok => (Except.ok.inj hok).symm⟩

/-- A worker that is given a database connects with it, and then has its rules there. -/
theorem connect_runs (hdb : c.databaseUrl.isSome = true) {opened : Except Fault Parties}
    (h : c.connect.Runs xs opened) :
    (∀ e ∈ xs, Connecting e) ∧ ∀ parties, opened = .ok parties → parties.isPersistent = true := by
  obtain ⟨front, back, tables, rfl, hopen, hrest⟩ := runs_bind_iff.1 h
  obtain ⟨hconnecting, hpersistent⟩ := openTables_runs hdb hopen
  cases tables with
  | error f =>
    obtain ⟨rfl, rfl⟩ := runs_done_iff.1 hrest
    rw [List.append_nil]
    exact ⟨hconnecting, fun parties hok => by cases hok⟩
  | ok persistent =>
    obtain ⟨rfl, rfl⟩ := runs_done_iff.1 hrest
    rw [List.append_nil]
    refine ⟨hconnecting, fun parties hok => ?_⟩
    cases hleases : c.leases with
    | error f =>
      rw [hleases] at hok
      cases hok
    | ok leases =>
      rw [hleases] at hok
      cases hok
      exact hpersistent persistent rfl

/-! ### The look at the store -/

/-- The listing of every rule, answered with these rows. -/
def look (rows : List RuleRow) : Exchange Wire.Call.signature :=
  ⟨.ruleRows .listRules, .ok (rows.map RuleRow.cells)⟩

/-- What a worker exchanges that finds its store not empty. -/
def looking (path : String) (rows : List RuleRow) : List (Exchange Wire.Call.signature) :=
  [look rows, ⟨.log (.seedSkipped path), ()⟩]

/-- Every listing of rules is answered from these rows. -/
structure TableHolds (rows : List RuleRow) (es : List (Exchange Wire.Call.signature)) : Prop where
  all : ∀ reply, ⟨.ruleRows .listRules, reply⟩ ∈ es → reply = .ok (rows.map RuleRow.cells)
  active : ∀ reply, ⟨.ruleRows .listActive, reply⟩ ∈ es →
    reply = .ok ((rows.filter (·.isActive)).map RuleRow.cells)

theorem TableHolds.mono {ys : List (Exchange Wire.Call.signature)} (h : TableHolds rows ys)
    (hsub : ∀ e ∈ xs, e ∈ ys) : TableHolds rows xs where
  all reply hin := h.all reply (hsub _ hin)
  active reply hin := h.active reply (hsub _ hin)

theorem TableHolds.append {ys : List (Exchange Wire.Call.signature)} (hxs : TableHolds rows xs)
    (hys : TableHolds rows ys) : TableHolds rows (xs ++ ys) where
  all reply hin := (List.mem_append.1 hin).elim (hxs.all reply) (hys.all reply)
  active reply hin := (List.mem_append.1 hin).elim (hxs.active reply) (hys.active reply)

theorem tableHolds_of_connecting (h : ∀ e ∈ xs, Connecting e) : TableHolds rows xs where
  all reply hin := by
    rcases h _ hin with ⟨server, hcall⟩ | hcall <;> cases hcall
  active reply hin := by
    rcases h _ hin with ⟨server, hcall⟩ | hcall <;> cases hcall

theorem listActive_ne_listRules : Statement.listActive ≠ .listRules := by
  intro h
  have hsql : Statement.listActive.sql ≠ Statement.listRules.sql := by decide +kernel
  exact hsql (congrArg Statement.sql h)

theorem tableHolds_looking (path : String) (rows : List RuleRow) :
    TableHolds rows (looking path rows) where
  all reply hin := by
    rcases List.mem_cons.1 hin with hlook | hlog
    · cases hlook
      rfl
    · cases List.mem_singleton.1 hlog
  active reply hin := by
    rcases List.mem_cons.1 hin with hlook | hlog
    · have hcall : Wire.Call.ruleRows .listActive = .ruleRows .listRules := congrArg (·.call) hlook
      exact absurd (Wire.Call.ruleRows.inj hcall) listActive_ne_listRules
    · cases List.mem_singleton.1 hlog

theorem perform_look (hp : p.isPersistent = true) :
    p.perform (.call .listRules (c.afterLook path mode beats)) =
      .call (.ruleRows .listRules) fun reply =>
        p.perform (c.afterLook path mode beats (rulesOf reply)) := by
  refine (Parties.perform_call (Parties.answer_listRules hp) _).trans ?_
  rw [listRules_eq]
  rfl

theorem perform_afterLook_error (f : Fault) :
    p.perform (c.afterLook path mode beats (.error f)) = .done (.error f) := rfl

/-- A look that finds rules is told to the log, and is over. -/
theorem perform_afterLook_rules {rs : List Rule} (h : rs ≠ []) :
    p.perform (c.afterLook path mode beats (.ok rs)) =
      .call (.log (.seedSkipped path)) fun _ => p.perform (c.onward mode beats) := by
  obtain ⟨r, rest, rfl⟩ := List.exists_cons_of_ne_nil h
  exact Parties.perform_call (c := .log (.seedSkipped path))
    (w := WirePlan.log (.seedSkipped path)) rfl _

/-- What a worker with a database exchanges when it looks at a store that holds these rows: it goes
on like one without the setting, or ends with the fault of a row. -/
theorem seeded_runs_iff (hp : p.isPersistent = true) (hrows : rows ≠ [])
    (hholds : TableHolds rows es) :
    (p.perform (.call .listRules (c.afterLook path mode beats))).Runs es result ↔
      (∃ rs back, rows.mapM RuleRow.rule = .ok rs ∧ es = looking path rows ++ back ∧
        (p.perform (c.onward mode beats)).Runs back result) ∨
      ∃ f, rows.mapM RuleRow.rule = .error f ∧ es = [look rows] ∧ result = .error f := by
  rw [perform_look hp]
  constructor
  · intro h
    obtain ⟨reply, rest, rfl, hrest⟩ := runs_call_iff.1 h
    obtain rfl := hholds.all reply List.mem_cons_self
    rw [rulesOf_cells] at hrest
    cases hload : rows.mapM RuleRow.rule with
    | ok rs =>
      rw [hload, perform_afterLook_rules (ne_nil_of_mapM_rule hrows hload)] at hrest
      obtain ⟨⟨⟩, back, rfl, hback⟩ := runs_call_iff.1 hrest
      exact .inl ⟨rs, back, rfl, rfl, hback⟩
    | error f =>
      rw [hload, perform_afterLook_error] at hrest
      obtain ⟨rfl, rfl⟩ := runs_done_iff.1 hrest
      exact .inr ⟨f, rfl, rfl, rfl⟩
  · intro h
    refine runs_call_iff.2 ⟨.ok (rows.map RuleRow.cells), es.tail, ?_⟩
    rw [rulesOf_cells]
    rcases h with ⟨rs, back, hload, rfl, hback⟩ | ⟨f, hload, rfl, rfl⟩
    · rw [hload, perform_afterLook_rules (ne_nil_of_mapM_rule hrows hload)]
      exact ⟨rfl, runs_call_iff.2 ⟨(), back, rfl, hback⟩⟩
    · rw [hload, perform_afterLook_error]
      exact ⟨rfl, .done _⟩

/-! ### Whole runs -/

/-- A worker whose settings are in order, with the seed file as given: it connects, and then does its
work with the parties. -/
theorem runs_withSeed_iff (hc : Config.ofLookup env fallbackId = .ok c) (path : Option String) :
    (runRenewed beats (withSeed env path) fallbackId mode).Runs es result ↔
      (∃ f, c.connect.Runs es (.error f) ∧ result = .error f) ∨
      ∃ front back parties, es = front ++ back ∧ c.connect.Runs front (.ok parties) ∧
        (parties.perform ((({ c with seedPath := path.bind Text.trimmed? } : Config).work
          mode).renewed beats)).Runs back result := by
  have hrun : runRenewed beats (withSeed env path) fallbackId mode = c.connect.bind fun
      | .error f => .done (.error f)
      | .ok parties => parties.perform ((({ c with seedPath := path.bind Text.trimmed? } :
          Config).work mode).renewed beats) := by
    unfold runRenewed
    rw [ofLookup_withSeed, hc]
    rfl
  rw [hrun, runs_bind_iff]
  constructor
  · intro h
    obtain ⟨front, back, opened, rfl, hfront, hback⟩ := h
    cases opened with
    | error f =>
      obtain ⟨rfl, rfl⟩ := runs_done_iff.1 hback
      rw [List.append_nil]
      exact .inl ⟨f, hfront, rfl⟩
    | ok parties => exact .inr ⟨front, back, parties, rfl, hfront, hback⟩
  · intro h
    rcases h with ⟨f, hfront, rfl⟩ | ⟨front, back, parties, rfl, hfront, hback⟩
    · exact ⟨es, [], .error f, (List.append_nil es).symm, hfront, .done _⟩
    · exact ⟨front, back, .ok parties, rfl, hfront, hback⟩

/-- The same exchanges, or the same but for a look at the store that found rules. -/
inductive LookedFirst (rows : List RuleRow) : List (Exchange Wire.Call.signature) →
    List (Exchange Wire.Call.signature) → Prop where
  | same (es : List (Exchange Wire.Call.signature)) : LookedFirst rows es es
  | looked (path : String) (front back : List (Exchange Wire.Call.signature)) :
      LookedFirst rows (front ++ back) (front ++ (looking path rows ++ back))

/-- At a table with these rows the setting makes no difference: whatever the worker with it
exchanges, the worker without it exchanges as well, and the other way round, but for the look at the
store, and with the same result. -/
structure SeedIgnored (rows : List RuleRow) (beats : List (List Nat)) (env : Config.Lookup)
    (fallbackId path : String) (mode : Mode) : Prop where
  leaveOut : ∀ es result, TableHolds rows es →
    (runRenewed beats (withSeed env (some path)) fallbackId mode).Runs es result →
    ∃ fewer, LookedFirst rows fewer es ∧ TableHolds rows fewer ∧
      (runRenewed beats (withSeed env none) fallbackId mode).Runs fewer result
  putIn : ∀ fewer result, TableHolds rows fewer →
    (runRenewed beats (withSeed env none) fallbackId mode).Runs fewer result →
    ∃ es, LookedFirst rows fewer es ∧ TableHolds rows es ∧
      (runRenewed beats (withSeed env (some path)) fallbackId mode).Runs es result

/-- The worker can come to be connected. -/
def Connects (env : Config.Lookup) (fallbackId : String) : Prop :=
  ∃ c xs parties, Config.ofLookup env fallbackId = .ok c ∧ c.connect.Runs xs (.ok parties)

theorem unseeded_runs_iff (hc : Config.ofLookup env fallbackId = .ok c) :
    (runRenewed beats (withSeed env none) fallbackId mode).Runs es result ↔
      (∃ f, c.connect.Runs es (.error f) ∧ result = .error f) ∨
      ∃ front back parties, es = front ++ back ∧ c.connect.Runs front (.ok parties) ∧
        (parties.perform (c.onward mode beats)).Runs back result := by
  rw [runs_withSeed_iff hc, Option.bind_none, unseeded_work]

/-- A worker with the setting, at a table that holds these rows. -/
theorem seeded_runs_cases (hc : Config.ofLookup env fallbackId = .ok c)
    (hdb : c.databaseUrl.isSome = true) {named : String} (hpath : Text.trimmed? path = some named)
    (hrows : rows ≠ []) (hholds : TableHolds rows es) :
    (runRenewed beats (withSeed env (some path)) fallbackId mode).Runs es result ↔
      (∃ f, c.connect.Runs es (.error f) ∧ result = .error f) ∨
      ∃ front parties, c.connect.Runs front (.ok parties) ∧
        ((∃ rs back, rows.mapM RuleRow.rule = .ok rs ∧
            es = front ++ (looking named rows ++ back) ∧
            (parties.perform (c.onward mode beats)).Runs back result) ∨
          ∃ f, rows.mapM RuleRow.rule = .error f ∧ es = front ++ [look rows] ∧
            result = .error f) := by
  rw [runs_withSeed_iff hc, Option.bind_some, hpath, seeded_work]
  refine or_congr_right ?_
  constructor
  · intro h
    obtain ⟨front, back, parties, rfl, hfront, hback⟩ := h
    have hp := (connect_runs hdb hfront).2 parties rfl
    have hrest : TableHolds rows back := hholds.mono fun e he => List.mem_append_right front he
    refine ⟨front, parties, hfront, ?_⟩
    rcases (seeded_runs_iff hp hrows hrest).1 hback with
      ⟨rs, last, hload, rfl, hlast⟩ | ⟨f, hload, rfl, rfl⟩
    · exact .inl ⟨rs, last, hload, rfl, hlast⟩
    · exact .inr ⟨f, hload, rfl, rfl⟩
  · intro h
    obtain ⟨front, parties, hfront, hcases⟩ := h
    have hp := (connect_runs hdb hfront).2 parties rfl
    rcases hcases with ⟨rs, back, hload, rfl, hback⟩ | ⟨f, hload, rfl, rfl⟩
    · refine ⟨front, _, parties, rfl, hfront, ?_⟩
      have hrest : TableHolds rows (looking named rows ++ back) :=
        hholds.mono fun e he => List.mem_append_right front he
      exact (seeded_runs_iff hp hrows hrest).2 (.inl ⟨rs, back, hload, rfl, hback⟩)
    · refine ⟨front, _, parties, rfl, hfront, ?_⟩
      have hrest : TableHolds rows [look rows] :=
        hholds.mono fun e he => List.mem_append_right front he
      exact (seeded_runs_iff hp hrows hrest).2 (.inr ⟨f, hload, rfl, rfl⟩)

theorem TableHolds.putIn {front back : List (Exchange Wire.Call.signature)}
    (h : TableHolds rows (front ++ back)) (path : String) :
    TableHolds rows (front ++ (looking path rows ++ back)) := by
  have hfront : TableHolds rows front := h.mono fun e he => List.mem_append_left back he
  have hback : TableHolds rows back := h.mono fun e he => List.mem_append_right front he
  exact hfront.append ((tableHolds_looking path rows).append hback)

theorem TableHolds.leaveOut {front back : List (Exchange Wire.Call.signature)}
    (h : TableHolds rows (front ++ (looking path rows ++ back))) :
    TableHolds rows (front ++ back) := by
  refine h.mono fun e he => ?_
  rcases List.mem_append.1 he with hfront | hback
  · exact List.mem_append_left _ hfront
  · exact List.mem_append_right _ (List.mem_append_right _ hback)

/-- Settings that come to the same configuration come to the same worker. -/
theorem runRenewed_congr {env' : Config.Lookup}
    (h : Config.ofLookup env fallbackId = Config.ofLookup env' fallbackId) :
    runRenewed beats env fallbackId mode = runRenewed beats env' fallbackId mode := by
  unfold runRenewed
  rw [h]

theorem seedIgnored_of_eq (h : runRenewed beats (withSeed env (some path)) fallbackId mode =
    runRenewed beats (withSeed env none) fallbackId mode) :
    SeedIgnored rows beats env fallbackId path mode where
  leaveOut es _ hholds hruns := ⟨es, .same es, hholds, h ▸ hruns⟩
  putIn fewer _ hholds hruns := ⟨fewer, .same fewer, hholds, h ▸ hruns⟩

/-- A seed file whose name is blank is none. -/
theorem seedIgnored_of_blank (hblank : Text.allBlank path = true) :
    SeedIgnored rows beats env fallbackId path mode := by
  refine seedIgnored_of_eq (runRenewed_congr ?_)
  have hnone : Text.trimmed? path = none := by rw [Text.trimmed?, hblank]; rfl
  rw [ofLookup_withSeed, ofLookup_withSeed, Option.bind_some, hnone, Option.bind_none]

/-- Settings that are refused are refused with a seed file and without. -/
theorem seeded_eq_of_refused {f : Fault} (hc : Config.ofLookup env fallbackId = .error f) :
    runRenewed beats (withSeed env (some path)) fallbackId mode =
      runRenewed beats (withSeed env none) fallbackId mode := by
  refine runRenewed_congr ?_
  rw [ofLookup_withSeed, ofLookup_withSeed, hc]
  rfl

theorem databaseUrl_of_ofLookup (hc : Config.ofLookup env fallbackId = .ok c) :
    c.databaseUrl = Config.setting env "DATABASE_URL" := by
  simp only [Config.ofLookup, bind_eq_ok_iff, pure, Except.pure, Except.ok.injEq] at hc
  obtain ⟨-, -, -, -, -, -, -, -, rfl⟩ := hc
  rfl

/-- When a worker that comes to be connected finds rows that can all be loaded, the look is all that
the setting adds. -/
theorem seedIgnored_of_loaded (hc : Config.ofLookup env fallbackId = .ok c)
    (hdb : c.databaseUrl.isSome = true) {named : String} (hpath : Text.trimmed? path = some named)
    (hrows : rows ≠ [])
    (hload : Connects env fallbackId → ∃ rs, rows.mapM RuleRow.rule = .ok rs) :
    SeedIgnored rows beats env fallbackId path mode where
  leaveOut es result hholds hruns := by
    rcases (seeded_runs_cases hc hdb hpath hrows hholds).1 hruns with
      hfail | ⟨front, parties, hfront, hcases⟩
    · exact ⟨es, .same es, hholds, (unseeded_runs_iff hc).2 (.inl hfail)⟩
    · obtain ⟨rs, hrs⟩ := hload ⟨c, front, parties, hc, hfront⟩
      rcases hcases with ⟨rs, back, -, rfl, hback⟩ | ⟨f, hf, -, -⟩
      · exact ⟨front ++ back, .looked named front back, hholds.leaveOut,
          (unseeded_runs_iff hc).2 (.inr ⟨front, back, parties, rfl, hfront, hback⟩)⟩
      · rw [hrs] at hf
        cases hf
  putIn fewer result hholds hruns := by
    rcases (unseeded_runs_iff hc).1 hruns with hfail | ⟨front, back, parties, rfl, hfront, hback⟩
    · exact ⟨fewer, .same fewer, hholds,
        (seeded_runs_cases hc hdb hpath hrows hholds).2 (.inl hfail)⟩
    · obtain ⟨rs, hrs⟩ := hload ⟨c, front, parties, hc, hfront⟩
      have hmore := hholds.putIn named
      exact ⟨_, .looked named front back, hmore,
        (seeded_runs_cases hc hdb hpath hrows hmore).2
          (.inr ⟨front, parties, hfront, .inl ⟨rs, back, hrs, rfl, hback⟩⟩)⟩

/-- A worker goes on with telling that it has started. -/
theorem onward_runs (h : (p.perform (c.onward mode beats)).Runs es result) :
    ∃ rest, es = ⟨.log c.started, ()⟩ :: rest := by
  have hplan : p.perform (c.onward mode beats) =
      .call (.log c.started) fun _ => p.perform ((c.duty mode).renewed beats) :=
    Parties.perform_call (c := .log c.started) (w := WirePlan.log c.started) rfl _
  rw [hplan] at h
  obtain ⟨⟨⟩, rest, rfl, -⟩ := runs_call_iff.1 h
  exact ⟨rest, rfl⟩

/-- A worker that ends with its look has not told the log anything. -/
theorem log_not_mem_look (h : ∀ e ∈ xs, Connecting e) (event : Log.Event) :
    (⟨.log event, ()⟩ : Exchange Wire.Call.signature) ∉ xs ++ [look rows] := by
  intro hin
  rcases List.mem_append.1 hin with hxs | hlook
  · rcases h _ hxs with ⟨server, hcall⟩ | hcall <;> cases hcall
  · cases List.mem_singleton.1 hlook

/-- A worker that is connected and has no seed file says that it has started; one that cannot load a
row has ended by then. -/
theorem loaded_of_seedIgnored (hc : Config.ofLookup env fallbackId = .ok c)
    (hdb : c.databaseUrl.isSome = true) {named : String} (hpath : Text.trimmed? path = some named)
    (hrows : rows ≠ []) (hconnects : Connects env fallbackId)
    (h : SeedIgnored rows beats env fallbackId path mode) :
    ∃ rs, rows.mapM RuleRow.rule = .ok rs := by
  obtain ⟨c', xs, parties, hc', hxs⟩ := hconnects
  obtain rfl : c = c' := Except.ok.inj (hc.symm.trans hc')
  cases hload : rows.mapM RuleRow.rule with
  | ok rs => exact ⟨rs, rfl⟩
  | error f =>
    have hconnecting := (connect_runs hdb hxs).1
    have hlook : TableHolds rows [look rows] :=
      (tableHolds_looking named rows).mono fun e he => List.mem_append_left _ he
    have hholds : TableHolds rows (xs ++ [look rows]) :=
      (tableHolds_of_connecting hconnecting).append hlook
    obtain ⟨fewer, hlooked, -, hfewer⟩ := h.leaveOut _ _ hholds
      ((seeded_runs_cases hc hdb hpath hrows hholds).2
        (.inr ⟨xs, parties, hxs, .inr ⟨f, hload, rfl, rfl⟩⟩))
    have hsilent : ∀ event, (⟨.log event, ()⟩ : Exchange Wire.Call.signature) ∉ xs ++ [look rows] :=
      log_not_mem_look hconnecting
    generalize hall : xs ++ [look rows] = all at hlooked hsilent
    cases hlooked with
    | same =>
      rcases (unseeded_runs_iff hc).1 hfewer with ⟨g, hg, -⟩ | ⟨front, back, p, hes, -, hback⟩
      · have hlast : Connecting (look rows) := (connect_runs hdb hg).1 _ (by simp [← hall])
        rcases hlast with ⟨server, hcall⟩ | hcall <;> cases hcall
      · obtain ⟨rest, rfl⟩ := onward_runs hback
        exact absurd (by simp [hes]) (hsilent c.started)
    | looked other front back =>
      exact absurd (by simp [looking]) (hsilent (.seedSkipped other))

/-- **The seed setting at a store that is not empty.** A worker has a database, and its table holds
these rows. The setting makes no difference, whatever else the parties reply and whenever renewals
fall due, exactly when the worker never comes to be connected, or the name of the file is blank, or
every row can be loaded, also one that is not active. Otherwise a worker with the setting that comes
to be connected ends with the fault of the first row that cannot be loaded, and has only looked at
the store by then. -/
theorem seedIgnored_iff (hdb : (Config.setting env "DATABASE_URL").isSome = true)
    (hrows : rows ≠ []) :
    (SeedIgnored rows beats env fallbackId path mode ↔
      (Connects env fallbackId →
        Text.allBlank path = true ∨ ∀ row ∈ rows, ∃ r, row.rule = .ok r)) ∧
    (Text.allBlank path = false → (¬ ∀ row ∈ rows, ∃ r, row.rule = .ok r) →
      ∃ front row back f, rows = front ++ row :: back ∧
        (∀ x ∈ front, ∃ r, x.rule = .ok r) ∧ row.rule = .error f ∧
        ∀ es result, TableHolds rows es →
          (runRenewed beats (withSeed env (some path)) fallbackId mode).Runs es result →
          (runRenewed beats (withSeed env none) fallbackId mode).Runs es result ∨
          ((∃ xs, es = xs ++ [look rows] ∧ ∀ e ∈ xs, Connecting e) ∧ result = .error f)) := by
  have hnamed : Text.allBlank path = false → Text.trimmed? path = some (Text.trim path) := by
    intro hsaid
    rw [Text.trimmed?, hsaid]
    rfl
  have hconfig : ∀ c, Config.ofLookup env fallbackId = .ok c → c.databaseUrl.isSome = true := by
    intro c hc
    rw [databaseUrl_of_ofLookup hc]
    exact hdb
  refine ⟨⟨fun h hconnects => ?_, fun h => ?_⟩, fun hsaid hbroken => ?_⟩
  · cases hblank : Text.allBlank path with
    | true => exact .inl rfl
    | false =>
      obtain ⟨c, xs, parties, hc, hxs⟩ := hconnects
      exact .inr (exists_mapM_rule_iff.1
        (loaded_of_seedIgnored hc (hconfig c hc) (hnamed hblank) hrows ⟨c, xs, parties, hc, hxs⟩ h))
  · cases hblank : Text.allBlank path with
    | true => exact seedIgnored_of_blank hblank
    | false =>
      cases hc : Config.ofLookup env fallbackId with
      | error f => exact seedIgnored_of_eq (seeded_eq_of_refused hc)
      | ok c =>
        refine seedIgnored_of_loaded hc (hconfig c hc) (hnamed hblank) hrows fun hconnects => ?_
        rcases h hconnects with hempty | hall
        · rw [hempty] at hblank
          cases hblank
        · exact exists_mapM_rule_iff.2 hall
  · cases hload : rows.mapM RuleRow.rule with
    | ok rs => exact absurd (exists_mapM_rule_iff.1 ⟨rs, hload⟩) hbroken
    | error f =>
      obtain ⟨front, row, back, hsplit, hfront, hrow⟩ := first_of_mapM hload
      refine ⟨front, row, back, f, hsplit, hfront, hrow, fun es result hholds hruns => ?_⟩
      cases hc : Config.ofLookup env fallbackId with
      | error g =>
        rw [seeded_eq_of_refused hc] at hruns
        exact .inl hruns
      | ok c =>
        rcases (seeded_runs_cases hc (hconfig c hc) (hnamed hsaid) hrows hholds).1 hruns with
          hfail | ⟨xs, parties, hxs, ⟨rs, -, hrs, -⟩ | ⟨g, hg, hes, hresult⟩⟩
        · exact .inl ((unseeded_runs_iff hc).2 (.inl hfail))
        · rw [hload] at hrs
          cases hrs
        · rw [hload] at hg
          cases hg
          exact .inr ⟨⟨xs, hes, (connect_runs (hconfig c hc) hxs).1⟩, hresult⟩

/-! ### A table with rules -/

def tableSettings : Config.Lookup := fun name =>
  if name = "DATABASE_URL" then some "postgres://peers@db/peers" else none

def tableConfig : Config where
  databaseUrl := some "postgres://peers@db/peers"
  nodeUrl := Config.defaultNodeUrl
  nodeUser := none
  nodePassword := none
  ruleIntervalMs := 300000
  dispatchTimeoutMs := 10000
  rpcTimeoutMs := 15000
  redisUrl := none
  leaseSeconds := 600
  workerId := "worker-1"
  seedPath := none

def tableServer : Server := ⟨"db", 5432, none, some "peers", none, some "peers", .prefer⟩

theorem ofLookup_tableSettings : Config.ofLookup tableSettings "worker-1" = .ok tableConfig := by
  decide +kernel

theorem connects_tableSettings : Connects tableSettings "worker-1" := by
  have hserver : Server.ofText "postgres://peers@db/peers" = .ok tableServer := by decide +kernel
  have hopen : tableConfig.openTables.Runs
      [⟨.openTables tableServer, .ok ()⟩, ⟨.change .migrate, .ok 0⟩] (.ok true) := by
    unfold Config.openTables tableConfig
    dsimp only
    rw [hserver]
    exact .call _ (.call _ (.done _))
  exact ⟨tableConfig, _, ⟨tableConfig.endpoint, 10000, true, none⟩, ofLookup_tableSettings,
    runs_bind_iff.2 ⟨_, [], .ok true, (List.append_nil _).symm, hopen, .done _⟩⟩

def everyoneRow : RuleRow where
  id := .ofNat 6
  name := "Everyone"
  description := none
  conditions := .object []
  actions := .object [("action", .string "disconnect")]
  isActive := true
  createdAt := ⟨2000⟩
  updatedAt := ⟨2500⟩

/-- A row whose conditions are no object. -/
def brokenRow : RuleRow :=
  { everyoneRow with id := .ofNat 5, name := "Broken", conditions := .array [] }

theorem seedIgnored_iff_everyone :
    (Config.setting tableSettings "DATABASE_URL").isSome = true ∧ [everyoneRow] ≠ [] ∧
      [everyoneRow, brokenRow] ≠ [] ∧ Connects tableSettings "worker-1" ∧
      SeedIgnored [everyoneRow] [[1]] tableSettings "worker-1" "rules.json" .once ∧
      ∃ row f, row ∈ [everyoneRow, brokenRow] ∧ row.rule = .error f ∧
        ¬ SeedIgnored [everyoneRow, brokenRow] [] tableSettings "worker-1" "rules.json" .once := by
  have hdb : (Config.setting tableSettings "DATABASE_URL").isSome = true := by decide +kernel
  have hloaded : ∀ row ∈ [everyoneRow], ∃ r, row.rule = .ok r :=
    List.forall_mem_singleton.2 ⟨_, rfl⟩
  have hsaid : ¬ Text.allBlank "rules.json" = true := by decide +kernel
  have hbroken : ¬ ∃ r, brokenRow.rule = .ok r := by
    intro h
    obtain ⟨r, hr⟩ := h
    cases hr
  refine ⟨hdb, List.cons_ne_nil _ _, List.cons_ne_nil _ _, connects_tableSettings,
    (seedIgnored_iff hdb (List.cons_ne_nil _ _)).1.2 fun _ => .inr hloaded, brokenRow, _,
    List.mem_cons_of_mem _ List.mem_cons_self, rfl, fun h => ?_⟩
  rcases (seedIgnored_iff hdb (List.cons_ne_nil _ _)).1.1 h connects_tableSettings with
    hblank | hall
  · exact hsaid hblank
  · exact hbroken (hall brokenRow (List.mem_cons_of_mem _ List.mem_cons_self))

/-- A rule that cannot be loaded stops the worker with a seed file, and only that one. -/
theorem seeded_run_stopped : ¬ ∀ (env : Config.Lookup) (fallbackId path : String)
    (rows : List RuleRow), (Config.setting env "DATABASE_URL").isSome = true → rows ≠ [] →
      SeedIgnored rows [] env fallbackId path .once := by
  intro h
  have hnamed : Text.trimmed? "rules.json" = some "rules.json" := by decide +kernel
  have hignored := h tableSettings "worker-1" "rules.json" [brokenRow, everyoneRow]
    (by decide +kernel) (List.cons_ne_nil _ _)
  obtain ⟨rs, hrs⟩ := loaded_of_seedIgnored ofLookup_tableSettings rfl hnamed
    (List.cons_ne_nil _ _) connects_tableSettings hignored
  obtain ⟨r, rest, hr, -, -⟩ := mapM_rule_cons_eq_ok_iff.1 hrs
  cases hr

end Worker

end PeerRules

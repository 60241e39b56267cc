import PeerRules.Proofs.Onlookers
import PeerRules.Proofs.Watching

/-!
# The password of the node stays in its header

A worker shows its password to the node, in the header of every post, and to nobody else. An
onlooker who sees everything that the worker exchanges with others but that header cannot tell
workers apart whose settings differ in the password alone: as long as both get the same replies,
they make the same exchanges, tell the log the same, keep the same in memory and end in the same
result. On the timer the moments of the ticks and of the interrupt are not a worker's choice; what
one worker can come to in such a case, the other can come to as well.

* `post_cases`: endpoints at one address make posts that differ in the header alone.
* `Parties.answer_alike`, `Parties.performed_alike`: every call, and a plan of calls.
* `ofLookup_agree`: the settings make configurations that differ in the password alone.
* `Reaches.exists_other`: a worker on the timer, at any of its steps.
* `password_unseen`: whole runs of a worker, and all that it can come to on the timer.
-/
namespace PeerRules

open Plan

/-! ## Exchanges without the header -/

/-- A post without the header for credentials. -/
def Node.Post.unsigned (p : Node.Post) : Node.Post := { p with authorization := none }

namespace Wire

def Call.unsigned : Call → Call
  | .post p => .post p.unsigned
  | .postWithin p limitMs => .postWithin p.unsigned limitMs
  | c => c

/-- An exchange with its reply, without the header for credentials. -/
def unsigned : Exchange Call.signature → Exchange Call.signature
  | ⟨.post p, r⟩ => ⟨.post p.unsigned, r⟩
  | ⟨.postWithin p limitMs, r⟩ => ⟨.postWithin p.unsigned limitMs, r⟩
  | e => e

/-- Somebody who sees everything but the header for credentials. -/
def onlooker : View Call.signature where
  shown c := some c.unsigned
  reply_eq := by
    intro c d h
    cases h
    cases c <;> rfl

theorem filterMap_see (es : List (Exchange Call.signature)) :
    es.filterMap onlooker.see = es.map unsigned := by
  have hsee : ∀ e, onlooker.see e = some (unsigned e) := by
    rintro ⟨c, r⟩
    cases c <;> rfl
  rw [funext hsee, ← List.filterMap_eq_map]
  rfl

end Wire

namespace WirePlan

variable {α : Type}

theorem plain (p : WirePlan α) : Within (Plain Wire.onlooker) p := by
  induction p with
  | done a => exact .done a
  | call c next ih => exact .call (.inl (Option.some_ne_none _)) ih

/-- What makes no use of the endpoint. -/
theorem alike_refl (p : WirePlan α) : Alike Wire.onlooker p p := .refl_of_within p.plain

end WirePlan

/-! ## Speaking with the node -/

namespace Node

variable {e e' : Endpoint}

/-- Endpoints at one address make posts that differ in the header alone. -/
theorem post_cases (h : e.url = e'.url) (r : Request) :
    (∃ reason, r.post e = .error reason ∧ r.post e' = .error reason) ∨
      ∃ p p', r.post e = .ok p ∧ r.post e' = .ok p' ∧ p.unsigned = p'.unsigned := by
  unfold Request.post
  rw [h]
  cases Url.parse e'.url with
  | error reason => exact .inl ⟨_, rfl, rfl⟩
  | ok u =>
    dsimp only
    split
    · exact .inr ⟨_, _, rfl, rfl, rfl⟩
    · exact .inl ⟨_, rfl, rfl⟩

theorem received_unsigned {p p' : Post} (h : p.unsigned = p'.unsigned) (r : Request) :
    received r p = received r p' := by
  have haddress : p.address = p'.address := congrArg (·.address) h
  funext reply
  cases reply with
  | ok reply => rfl
  | error t => cases t <;> simp only [received, Request.troubled, haddress]

/-- What is said in posts that differ in the header alone is said alike by both endpoints. -/
theorem spoken_alike {α : Type} (h : e.url = e'.url) (r : Request) {refuse : String → α}
    {speak : Post → WirePlan α} (hspeak : ∀ {p p' : Post}, p.unsigned = p'.unsigned →
      Alike Wire.onlooker (speak p) (speak p')) :
    Alike Wire.onlooker
      (match r.post e with
        | .error reason => .done (refuse reason)
        | .ok p => speak p)
      (match r.post e' with
        | .error reason => .done (refuse reason)
        | .ok p => speak p) := by
  rcases post_cases h r with ⟨reason, hp, hp'⟩ | ⟨p, p', hp, hp', hunsigned⟩
  · rw [hp, hp']
    exact .done _
  · rw [hp, hp']
    exact hspeak hunsigned

theorem call_alike (h : e.url = e'.url) (r : Request) :
    Alike Wire.onlooker (call e r) (call e' r) := by
  refine spoken_alike h r fun hunsigned => ?_
  refine .both rfl (congrArg (some <| Wire.Call.post ·) hunsigned.symm)
    fun reply reply' hreply => ?_
  obtain rfl := eq_of_heq hreply
  rw [received_unsigned hunsigned]
  exact WirePlan.alike_refl _

theorem callWithin_alike (h : e.url = e'.url) (limitMs : Nat) (r : Request) :
    Alike Wire.onlooker (callWithin e limitMs r) (callWithin e' limitMs r) := by
  refine spoken_alike h r fun hunsigned => ?_
  refine .both rfl (congrArg (some <| Wire.Call.postWithin · limitMs) hunsigned.symm)
    fun reply reply' hreply => ?_
  obtain rfl := eq_of_heq hreply
  rw [received_unsigned hunsigned]
  exact WirePlan.alike_refl _

theorem listPeers_alike (h : e.url = e'.url) :
    Alike Wire.onlooker (listPeers e) (listPeers e') :=
  .bind (call_alike h .listPeers) fun _ => .done _

theorem order_alike (h : e.url = e'.url) (limitMs : Nat) (r : Request) (done : String) :
    Alike Wire.onlooker (order e limitMs r done) (order e' limitMs r done) :=
  .bind (callWithin_alike h limitMs r) fun _ => .done _

theorem control_alike (h : e.url = e'.url) (o : Control) (limitMs : Nat) :
    Alike Wire.onlooker (control e o limitMs) (control e' o limitMs) := by
  cases o with
  | ban address seconds => exact order_alike h limitMs _ _
  | disconnect peerId =>
    simp only [control]
    cases peerNumber? peerId with
    | none => exact .done _
    | some n => exact order_alike h limitMs _ _

end Node

namespace Worker

/-! ## The calls of the rules -/

namespace Parties

variable {α : Type} (p : Parties) {node : Node.Endpoint}

/-- An endpoint at the address of the worker's own serves every call alike. -/
theorem answer_alike (h : p.node.url = node.url) (c : Call) (m : Memory) :
    Alike (P := Wire.Call.signature) Wire.onlooker (p.answer c m)
      (({ p with node } : Parties).answer c m) := by
  cases c
  case listPeers => exact .bind (Node.listPeers_alike h) fun _ => .done _
  case control o limitMs => exact .bind (Node.control_alike h o limitMs) fun _ => .done _
  case dispatch peer action =>
    simp only [answer, Dispatch.planBy]
    cases Dispatch.order peer action with
    | error reason => exact .done _
    | ok o =>
      refine .bind (.bind (WirePlan.alike_refl _) fun _ => ?_) fun _ => .done _
      exact .bind (.bind (Node.control_alike h o _) fun _ => .done _) fun _ => .done _
  all_goals exact WirePlan.alike_refl _

/-- Plans are carried out alike. -/
theorem performed_alike (h : p.node.url = node.url) (plan : RulesPlan α) (m : Memory) :
    Alike Wire.onlooker (plan.answer p.answer m)
      (plan.answer ({ p with node } : Parties).answer m) := by
  induction plan generalizing m with
  | done a => exact .done _
  | call c next ih => exact .bind (answer_alike p h c m) fun r => ih r.1 r.2

/-- Calls that one worker has carried out can be carried out alike by the other. -/
theorem Carries.exists_other {p : Parties} {calls : List (Exchange Call.signature)} {m m' : Memory}
    {es : List (Exchange Wire.Call.signature)} (hc : p.Carries calls m es m')
    (h : p.node.url = node.url) : ∃ es', ({ p with node } : Parties).Carries calls m es' m' ∧
      es.map Wire.unsigned = es'.map Wire.unsigned := by
  induction hc with
  | nil m => exact ⟨[], .nil m, rfl⟩
  | @cons c r calls m m' m'' xs ys hanswer _ ih =>
    obtain ⟨ys', hrest, hys⟩ := ih
    obtain ⟨xs', hxs', hxs⟩ := (answer_alike p h c m).exists_runs
      (fun _ hnone => absurd hnone (Option.some_ne_none _)) hanswer
    rw [Wire.filterMap_see, Wire.filterMap_see] at hxs
    exact ⟨xs' ++ ys', .cons hxs' hrest, by rw [List.map_append, List.map_append, hxs, hys]⟩

end Parties

/-! ## Settings -/

variable {env env' : Config.Lookup} {fallbackId : String} {mode : Mode} {beats : List (List Nat)}

/-- The settings differ in the password for the node at most. -/
def PasswordApart (env env' : Config.Lookup) : Prop :=
  ∀ name, name ≠ "NODE_RPC_PASSWORD" → env name = env' name

theorem setting_agree (h : PasswordApart env env') {name : String}
    (hname : name ≠ "NODE_RPC_PASSWORD") : Config.setting env name = Config.setting env' name := by
  rw [Config.setting, Config.setting, h name hname]

theorem positive_agree (h : PasswordApart env env') {name : String}
    (hname : name ≠ "NODE_RPC_PASSWORD") (default : Nat) :
    Config.positive env name default = Config.positive env' name default := by
  unfold Config.positive Config.natural
  rw [setting_agree h hname]

/-- Such settings are refused alike, or make configurations that differ in the password alone. -/
theorem ofLookup_agree (h : PasswordApart env env') (fallbackId : String) :
    Config.ofLookup env' fallbackId =
      (Config.ofLookup env fallbackId).map fun c =>
        { c with nodePassword := env' "NODE_RPC_PASSWORD" } := by
  unfold Config.ofLookup
  simp (disch := decide) only [positive_agree h, setting_agree h]
  cases Config.positive env' "RULE_INTERVAL_MS" 300000 with
  | error f => rfl
  | ok interval =>
    cases Config.positive env' "DISPATCH_TIMEOUT_MS" 10000 with
    | error f => rfl
    | ok dispatchTimeout =>
      cases Config.positive env' "RPC_TIMEOUT_MS" 15000 with
      | error f => rfl
      | ok rpcTimeout => cases Config.positive env' "RULE_LOCK_LEASE_SECONDS" 600 <;> rfl

/-! ## A whole worker -/

/-- A worker, with the renewals that fall due, and what it has in memory at its end. -/
def runKept (beats : List (List Nat)) (env : Config.Lookup) (fallbackId : String) (mode : Mode) :
    WirePlan (Except Fault Unit × Memory) :=
  match Config.ofLookup env fallbackId with
  | .error f => .done (.error f, .empty)
  | .ok c => do
    match ← c.connect with
    | .error f => return (.error f, .empty)
    | .ok parties => ((c.work mode).renewed beats).answer parties.answer .empty

theorem runKept_result (beats : List (List Nat)) (env : Config.Lookup) (fallbackId : String)
    (mode : Mode) : (runKept beats env fallbackId mode).bind (.done ·.1) =
      runRenewed beats env fallbackId mode := by
  unfold runKept runRenewed
  cases Config.ofLookup env fallbackId with
  | error f => rfl
  | ok c =>
    refine (bind_assoc c.connect _ _).trans ?_
    refine congrArg (Plan.bind c.connect) (funext fun parties => ?_)
    cases parties <;> rfl

theorem runKept_alike (h : PasswordApart env env') (beats : List (List Nat)) (fallbackId : String)
    (mode : Mode) : Alike Wire.onlooker (runKept beats env fallbackId mode)
      (runKept beats env' fallbackId mode) := by
  unfold runKept
  rw [ofLookup_agree h fallbackId]
  cases Config.ofLookup env fallbackId with
  | error f => exact .done _
  | ok c =>
    -- The parties differ in their node, so the plans are compared where no parties are made yet.
    simp only [Except.map, Config.connect, bind_eq, bind_assoc]
    refine .bind (WirePlan.alike_refl c.openTables) fun opened => ?_
    cases opened with
    | error f => exact .done _
    | ok isPersistent =>
      let c' : Config := { c with nodePassword := env' "NODE_RPC_PASSWORD" }
      have hleases : c'.leases = c.leases := rfl
      have hurl : c.endpoint.url = c'.endpoint.url := rfl
      rw [hleases]
      cases c.leases with
      | error f => exact .done _
      | ok leases =>
        exact Parties.performed_alike ⟨c.endpoint, c.dispatchTimeoutMs, isPersistent, leases⟩ hurl
          ((c.work mode).renewed beats) .empty

/-- A worker connects alike with another password, and then has the other endpoint. -/
theorem connect_other {c : Config} {parties : Parties}
    {es : List (Exchange Wire.Call.signature)} (password : Option String)
    (h : c.connect.Runs es (.ok parties)) :
    parties.node = c.endpoint ∧ ({ c with nodePassword := password } : Config).connect.Runs es
      (.ok { parties with node := ({ c with nodePassword := password } : Config).endpoint }) := by
  obtain ⟨xs, ys, opened, rfl, hopen, hrest⟩ := runs_bind_iff.1 h
  cases opened with
  | error f =>
    obtain ⟨-, hfault⟩ := runs_done_iff.1 hrest
    cases hfault
  | ok isPersistent =>
    obtain ⟨rfl, hparties⟩ := runs_done_iff.1 hrest
    cases hleases : c.leases with
    | error f =>
      rw [hleases] at hparties
      cases hparties
    | ok leases =>
      rw [hleases] at hparties
      cases hparties
      refine ⟨rfl, runs_bind_iff.2 ⟨xs, [], .ok isPersistent, rfl, hopen, ?_⟩⟩
      change (Plan.done ((c.leases).map _)).Runs [] _
      rw [hleases]
      exact .done _

/-- What a worker on the timer can come to, it can come to with another password. -/
theorem Reaches.exists_other (h : PasswordApart env env') {calls : List (Exchange Call.signature)}
    {es : List (Exchange Wire.Call.signature)} {w : Watch} {m : Memory}
    (hr : Reaches env fallbackId es calls w m) :
    ∃ es', Reaches env' fallbackId es' calls w m ∧
      es.map Wire.unsigned = es'.map Wire.unsigned := by
  obtain @⟨c, parties, now, s, events, _, _, front, es, ready, steps, _, hconfig, hconnect, hready,
    hstart, hsteps, hcalls, hcarries⟩ := hr
  let c' : Config := { c with nodePassword := env' "NODE_RPC_PASSWORD" }
  have hconfig' : Config.ofLookup env' fallbackId = .ok c' := by
    rw [ofLookup_agree h, hconfig]
    rfl
  obtain ⟨hnode, hconnect'⟩ := connect_other c'.nodePassword hconnect
  have hurl : parties.node.url = c'.endpoint.url := congrArg (·.url) hnode
  obtain ⟨es', hcarries', hes⟩ := hcarries.exists_other hurl
  refine ⟨front ++ es', .mk hconfig' hconnect' hready hstart hsteps hcalls hcarries', ?_⟩
  rw [List.map_append, List.map_append, hes]

/-- A worker on the timer that comes to its end without a fault has come there in steps. -/
theorem reaches_of_runKept {es : List (Exchange Wire.Call.signature)} {m : Memory}
    (hmode : mode ≠ .once) (h : (runKept beats env fallbackId mode).Runs es (.ok (), m)) :
    ∃ calls cut, Reaches env fallbackId es calls (.ended cut) m := by
  unfold runKept at h
  split at h
  · obtain ⟨-, hfault⟩ := runs_done_iff.1 h
    cases hfault
  · next c hconfig =>
    obtain ⟨front, back, connected, rfl, hconnect, hback⟩ := runs_bind_iff.1 h
    cases connected with
    | error f =>
      obtain ⟨-, hfault⟩ := runs_done_iff.1 hback
      cases hfault
    | ok parties =>
      obtain ⟨calls, hwork, hcarries⟩ := Parties.runs_answer_iff.1 hback
      exact ⟨calls, reaches_of_work hmode hconfig hconnect hwork hcarries⟩

/-- **The password of the node stays in its header.** For settings that differ in the password
alone, and in any world that answers everything but the header of posts, two runs of a worker come
to the same end: they make the same exchanges but for that header, tell the log the same, keep the
same in memory, rules and audit entries included, and end in the same result with the same text.
There always are such runs. And whatever a worker on the timer can come to, at whichever of its
steps, whenever its ticks begin and wherever it is interrupted, it can come to with the other
password, by the same calls and by the same exchanges but for that header. -/
theorem password_unseen (h : PasswordApart env env') (beats : List (List Nat)) (fallbackId : String)
    (mode : Mode) (world : Wire.Call.signature.World) :
    (∀ (es es' : List (Exchange Wire.Call.signature)) (a a' : Except Fault Unit × Memory),
      (runKept beats env fallbackId mode).Runs es a →
      (runKept beats env' fallbackId mode).Runs es' a' →
      Wire.onlooker.Follows world [] es → Wire.onlooker.Follows world [] es' →
      a = a' ∧ es.map Wire.unsigned = es'.map Wire.unsigned) ∧
    (∃ es es' a, (runKept beats env fallbackId mode).Runs es a ∧
      (runKept beats env' fallbackId mode).Runs es' a ∧
      Wire.onlooker.Follows world [] es ∧ Wire.onlooker.Follows world [] es') ∧
    ∀ (es : List (Exchange Wire.Call.signature)) (calls : List (Exchange Call.signature))
      (w : Watch) (m : Memory), Reaches env fallbackId es calls w m →
      ∃ es', Reaches env' fallbackId es' calls w m ∧
        es.map Wire.unsigned = es'.map Wire.unsigned := by
  have hagree : ∀ (es es' : List (Exchange Wire.Call.signature))
      (a a' : Except Fault Unit × Memory),
      (runKept beats env fallbackId mode).Runs es a →
      (runKept beats env' fallbackId mode).Runs es' a' →
      Wire.onlooker.Follows world [] es → Wire.onlooker.Follows world [] es' →
      a = a' ∧ es.map Wire.unsigned = es'.map Wire.unsigned := by
    intro es es' a a' hruns hruns' hes hes'
    rw [← Wire.filterMap_see, ← Wire.filterMap_see]
    exact (runKept_alike h beats fallbackId mode).agree hruns hruns' hes hes'
  obtain ⟨hruns, hes, -⟩ :=
    course_spec Wire.onlooker world world (runKept beats env fallbackId mode) [] []
  obtain ⟨hruns', hes', -⟩ :=
    course_spec Wire.onlooker world world (runKept beats env' fallbackId mode) [] []
  obtain ⟨hresult, -⟩ := hagree _ _ _ _ hruns hruns' hes hes'
  exact ⟨hagree, ⟨_, _, _, hruns, hresult ▸ hruns', hes, hes'⟩,
    fun _ _ _ _ hr => hr.exists_other h⟩

/-! ### A node that cannot be reached -/

def loginSettings (password : String) : Config.Lookup := fun name =>
  if name = "NODE_RPC_URL" then some "http://[::1]:8332"
  else if name = "NODE_RPC_USER" then some "peers"
  else if name = "NODE_RPC_PASSWORD" then some password
  else tableSettings name

/-- A world with a table of one rule, and a node that cannot be reached. -/
def unreachedWorld : Wire.Call.signature.World
  | _, .post _ => .error .unsent
  | _, .postWithin _ _ => none
  | _, .openKeys _ => .ok ()
  | _, .command _ => .nothing
  | _, .openTables _ => .ok ()
  | _, .ruleRows _ => .ok [everyoneRow.cells]
  | _, .entryRows _ => .ok []
  | _, .numbers _ => .ok []
  | _, .change _ => .ok 1
  | _, .readText _ => .ok ""
  | _, .log _ => ()
  | _, .freshId => .ofNat 9
  | _, .now => ⟨250⟩

def headers (es : List (Exchange Wire.Call.signature)) : List (Option String) :=
  es.filterMap fun
    | ⟨.post p, _⟩ | ⟨.postWithin p _, _⟩ => some p.authorization
    | _ => none

/-- What a worker with a login exchanges in that world, and what it comes to. -/
def loginRun (mode : Mode) (password : String) :
    List (Exchange Wire.Call.signature) × (Except Fault Unit × Memory) :=
  course Wire.onlooker unreachedWorld unreachedWorld [] []
    (runKept [] (loginSettings password) "worker-1" mode)

theorem loginRun_runs (mode : Mode) (password : String) :
    (runKept [] (loginSettings password) "worker-1" mode).Runs (loginRun mode password).1
      (loginRun mode password).2 ∧
    Wire.onlooker.Follows unreachedWorld [] (loginRun mode password).1 := by
  obtain ⟨hruns, hfollows, -⟩ := course_spec Wire.onlooker unreachedWorld unreachedWorld
    (runKept [] (loginSettings password) "worker-1" mode) [] []
  exact ⟨hruns, hfollows⟩

theorem password_unseen_changed : PasswordApart (loginSettings "a") (loginSettings "b") ∧
    headers (loginRun .once "a").1 = [some "Basic cGVlcnM6YQ=="] ∧
    headers (loginRun .once "b").1 = [some "Basic cGVlcnM6Yg=="] ∧
    (loginRun .once "a").2 = (loginRun .once "b").2 ∧
    (loginRun .once "a").1.map Wire.unsigned = (loginRun .once "b").1.map Wire.unsigned ∧
    ∃ es es' calls cut m, headers es = [some "Basic cGVlcnM6YQ=="] ∧
      Reaches (loginSettings "a") "worker-1" es calls (.ended cut) m ∧
      Reaches (loginSettings "b") "worker-1" es' calls (.ended cut) m ∧
      es.map Wire.unsigned = es'.map Wire.unsigned := by
  have happart : PasswordApart (loginSettings "a") (loginSettings "b") := by
    intro name hname
    simp only [loginSettings, if_neg hname]
  obtain ⟨ha, hfollowsA⟩ := loginRun_runs .once "a"
  obtain ⟨hb, hfollowsB⟩ := loginRun_runs .once "b"
  obtain ⟨hresult, hsame⟩ := (password_unseen happart [] "worker-1" .once unreachedWorld).1
    _ _ _ _ ha hb hfollowsA hfollowsB
  have hok : (loginRun (.timer 1) "a").2.1 = .ok () := by decide +kernel
  have htimed : (runKept [] (loginSettings "a") "worker-1" (.timer 1)).Runs
      (loginRun (.timer 1) "a").1 (.ok (), (loginRun (.timer 1) "a").2.2) := by
    rw [← hok]
    exact (loginRun_runs (.timer 1) "a").1
  obtain ⟨calls, cut, hreaches⟩ := reaches_of_runKept (by decide) htimed
  obtain ⟨es', hreaches', htold⟩ :=
    (password_unseen happart [] "worker-1" .once unreachedWorld).2.2 _ _ _ _ hreaches
  exact ⟨happart, by decide +kernel, by decide +kernel, hresult, hsame, _, es', calls, cut, _,
    by decide +kernel, hreaches, hreaches', htold⟩

end Worker

end PeerRules

import PeerRules.Node.Client
import PeerRules.Proofs.Acceptance
import PeerRules.Proofs.Shapes

/-!
# What the node replies, and what is made of it

A reply has a status and a text, and either can say that a request was not met. `Grants` says when
it was: the status is a success, the text is an answer, and there is no error in the answer.
`Denies` says when it was not, and what is told of that; every reply does one or the other. Whatever
comes back for a post, a reply that does not grant is never taken for a success, and the peers of a
listing are all the objects of the array that was granted.

* `complains_iff`: an error is taken for what it says, and nothing is read into it.
* `grants_or_denies`, `answer_eq_ok_iff`, `answer_eq_error_iff`: what a request comes to, given the
  reply.
* `ends_of_call`, `ends_of_callWithin`: what comes back in a run, and the result of the run.
* `listed_peers_iff`, `control_told`: listings and orders.
* `failures_told`: both, whatever comes back, and that anything can.
-/
namespace PeerRules

open Json

/-- What came back for each post, in order; nothing, if there was a limit and it was over. -/
def Wire.replies (xs : List (Exchange Wire.Call.signature)) :
    List (Option (Except Node.Trouble Node.Response)) :=
  xs.filterMap fun x => match x with
    | ⟨.post _, reply⟩ => some (some reply)
    | ⟨.postWithin _ _, reply⟩ => some reply
    | _ => none

open Wire

namespace Node

/-! ## What a reply says -/

/-- The document has no error, or `null` in its place. -/
def HasNoError (doc : Value) : Prop := doc.get? "error" = none ∨ doc.get? "error" = some .null

/-- The document has an error, with a number and a text; where it does not say them they are zero
and nothing. -/
structure Complains (doc : Value) (c : Complaint) : Prop where
  error : ∃ w members, doc.get? "error" = some w ∧ w = .object members ∧
    (w.get? "code" = some (.number (.int c.code)) ∨ w.get? "code" = none ∧ c.code = 0) ∧
    (w.get? "message" = some (.string c.message) ∨ w.get? "message" = none ∧ c.message = "")

/-- The reply grants what was asked for, with a result: its status is a success, its text is an
answer, and there is no error in it. -/
structure Grants (reply : Response) (result : Value) : Prop where
  success : 200 ≤ reply.status.code ∧ reply.status.code < 300
  answer : ∃ doc, Answer.shape.parse reply.text = .ok doc ∧ HasNoError doc ∧
    result = (doc.get? "result").getD .null

/-- The reply does not grant what was asked for, and what is told of it: its text is no answer, or
it has an error, whatever its status, or its status is no success. -/
inductive Denies (reply : Response) : String → Prop where
  | unreadable {refusal : Refusal} (h : Answer.shape.parse reply.text = .error refusal) :
      Denies reply ("failed with status " ++ reply.status.text ++ ": " ++ Text.trim reply.text)
  | complaint {doc : Value} {c : Complaint} (h : Answer.shape.parse reply.text = .ok doc)
      (hc : Complains doc c) : Denies reply ("error " ++ toString c.code ++ ": " ++ c.message)
  | status {doc : Value} (h : Answer.shape.parse reply.text = .ok doc) (hnone : HasNoError doc)
      (hstatus : ¬ (200 ≤ reply.status.code ∧ reply.status.code < 300)) :
      Denies reply ("failed with status " ++ reply.status.text)

variable {r : Request} {reply : Response} {doc v : Value} {c : Complaint} {f : Fault}

theorem error_cases (h : Answer.shape.Fits doc) : HasNoError doc ∨
    ∃ w, doc.get? "error" = some w ∧ Answer.complaintShape.Fits w := by
  cases hv : doc.get? "error" with
  | none => exact .inl (.inl hv)
  | some w =>
    obtain ⟨field, hfield, hkey, hvalue⟩ := h.get? hv
    simp only [List.mem_cons, List.not_mem_nil, or_false] at hfield
    obtain rfl | rfl := hfield
    · simp at hkey
    · obtain hfits | ⟨-, rfl⟩ := hvalue
      · exact .inr ⟨w, rfl, hfits⟩
      · exact .inl (.inr hv)

theorem code_cases {w : Value} (h : Answer.complaintShape.Fits w) :
    (∃ n, w.get? "code" = some (.number (.int n))) ∨ w.get? "code" = none := by
  cases hv : w.get? "code" with
  | none => exact .inr rfl
  | some v =>
    have hfits : Shape.signed.Fits v := h.of_get? hv (by simp)
    cases hfits with
    | signed => exact .inl ⟨_, rfl⟩

theorem message_cases {w : Value} (h : Answer.complaintShape.Fits w) :
    (∃ s, w.get? "message" = some (.string s)) ∨ w.get? "message" = none := by
  cases hv : w.get? "message" with
  | none => exact .inr rfl
  | some v =>
    have hfits : Shape.text.Fits v := h.of_get? hv (by simp)
    cases hfits with
    | text => exact .inl ⟨_, rfl⟩

/-- What an error is taken for is what it says. -/
theorem complains_iff {w : Value} (hw : doc.get? "error" = some w)
    (h : Answer.complaintShape.Fits w) : Complains doc c ↔ Answer.complaintOf w = c := by
  obtain ⟨members, hmembers⟩ := h.exists_members
  constructor
  · rintro ⟨w', -, hw', -, hcode, hmessage⟩
    obtain rfl : w = w' := Option.some.inj (hw.symm.trans hw')
    obtain ⟨code, message⟩ := c
    unfold Answer.complaintOf
    congr 1
    · rcases hcode with hcode | ⟨hcode, rfl⟩ <;> rw [hcode]
    · rcases hmessage with hmessage | ⟨hmessage, rfl⟩ <;> rw [hmessage] <;> rfl
  · rintro rfl
    refine ⟨w, members, hw, hmembers, ?_, ?_⟩
    · rcases code_cases h with ⟨n, hn⟩ | hnone
      · exact .inl (by simp [Answer.complaintOf, hn])
      · exact .inr ⟨hnone, by simp [Answer.complaintOf, hnone]⟩
    · rcases message_cases h with ⟨s, hs⟩ | hnone
      · exact .inl (by simp [Answer.complaintOf, hs, Value.text?])
      · exact .inr ⟨hnone, by simp [Answer.complaintOf, hnone]⟩

/-! ## What a request comes to -/

theorem ofNormal_of_hasNoError (h : HasNoError doc) :
    Answer.ofNormal doc = ⟨(doc.get? "result").getD .null, none⟩ := by
  rcases h with h | h <;> simp [Answer.ofNormal, h]

theorem ofNormal_of_complains (h : Answer.shape.Fits doc) (hc : Complains doc c) :
    Answer.ofNormal doc = ⟨(doc.get? "result").getD .null, some c⟩ := by
  rcases error_cases h with hnone | ⟨w, hw, hfits⟩
  · obtain ⟨w, members, hw, rfl, -⟩ := hc
    rcases hnone with hnone | hnone <;> cases hw.symm.trans hnone
  · obtain rfl := (complains_iff hw hfits).1 hc
    obtain ⟨members, rfl⟩ := hfits.exists_members
    simp [Answer.ofNormal, hw]

theorem read?_of_parse (h : Answer.shape.parse reply.text = .ok doc) :
    Answer.read? reply.text = some (Answer.ofNormal doc) := by
  rw [Answer.read?, h]
  rfl

theorem read?_of_refused {refusal : Refusal} (h : Answer.shape.parse reply.text = .error refusal) :
    Answer.read? reply.text = none := by
  rw [Answer.read?, h]
  rfl

theorem answer_of_grants (h : Grants reply v) (r : Request) : r.answer reply = .ok v := by
  obtain ⟨hsuccess, doc, hparse, hnone, rfl⟩ := h
  rw [answer_ok_iff, Status.isSuccess_iff, read?_of_parse hparse, ofNormal_of_hasNoError hnone]
  exact ⟨hsuccess, rfl⟩

theorem answer_of_denies {text : String} (h : Denies reply text) (r : Request) :
    r.answer reply = .error (r.fault text) := by
  unfold Request.answer
  cases h with
  | unreadable hparse => rw [read?_of_refused hparse]
  | complaint hparse hc =>
    rw [read?_of_parse hparse, ofNormal_of_complains (Shape.fits_of_parse hparse) hc]
  | status hparse hnone hstatus =>
    rw [← Status.isSuccess_iff] at hstatus
    rw [read?_of_parse hparse, ofNormal_of_hasNoError hnone]
    exact if_neg hstatus

/-- Every reply grants or denies, whatever its status and its text. -/
theorem grants_or_denies (reply : Response) :
    (∃ v, Grants reply v) ∨ ∃ text, Denies reply text := by
  cases hparse : Answer.shape.parse reply.text with
  | error refusal => exact .inr ⟨_, .unreadable hparse⟩
  | ok doc =>
    rcases error_cases (Shape.fits_of_parse hparse) with hnone | ⟨w, hw, hfits⟩
    · by_cases hstatus : 200 ≤ reply.status.code ∧ reply.status.code < 300
      · exact .inl ⟨_, hstatus, doc, hparse, hnone, rfl⟩
      · exact .inr ⟨_, .status hparse hnone hstatus⟩
    · exact .inr ⟨_, .complaint hparse ((complains_iff hw hfits).2 rfl)⟩

/-- A request has a result just if the reply grants it. -/
theorem answer_eq_ok_iff : r.answer reply = .ok v ↔ Grants reply v := by
  refine ⟨fun h => ?_, fun h => answer_of_grants h r⟩
  rcases grants_or_denies reply with ⟨w, hw⟩ | ⟨text, htext⟩
  · cases (answer_of_grants hw r).symm.trans h
    exact hw
  · cases (answer_of_denies htext r).symm.trans h

/-- A request fails just if the reply denies it, and the fault tells why. -/
theorem answer_eq_error_iff :
    r.answer reply = .error f ↔ ∃ text, Denies reply text ∧ f = r.fault text := by
  constructor
  · intro h
    rcases grants_or_denies reply with ⟨w, hw⟩ | ⟨text, htext⟩
    · cases (answer_of_grants hw r).symm.trans h
    · exact ⟨text, htext, (Except.error.inj ((answer_of_denies htext r).symm.trans h)).symm⟩
  · rintro ⟨text, htext, rfl⟩
    exact answer_of_denies htext r

/-! ## A request and its reply -/

/-- What comes back for the post of a request, and the result of the request. -/
inductive Ends (e : Endpoint) (r : Request) :
    List (Option (Except Trouble Response)) → Option (Except Fault Value) → Prop where
  /-- There is no post. -/
  | unpostable {reason : String} (h : r.post e = .error reason) :
      Ends e r [] (some (.error (r.unpostable reason)))
  /-- The limit is over before there is a reply. -/
  | late {p : Post} (h : r.post e = .ok p) : Ends e r [none] none
  | troubled {p : Post} {t : Trouble} (h : r.post e = .ok p) :
      Ends e r [some (.error t)] (some (.error (r.troubled p t)))
  | denied {p : Post} {reply : Response} {text : String} (h : r.post e = .ok p)
      (hreply : Denies reply text) : Ends e r [some (.ok reply)] (some (.error (r.fault text)))
  | granted {p : Post} {reply : Response} {v : Value} (h : r.post e = .ok p)
      (hreply : Grants reply v) : Ends e r [some (.ok reply)] (some (.ok v))

variable {e : Endpoint} {p : Post} {xs : List (Exchange Wire.Call.signature)} {limitMs : Nat}
  {came : List (Option (Except Trouble Response))} {result : Except Fault Value}

theorem ends_of_received {back : Except Trouble Response} (h : r.post e = .ok p)
    (hr : (received r p back).Runs xs result) :
    replies xs = [] ∧ Ends e r [some back] (some result) := by
  cases back with
  | error t =>
    obtain ⟨rfl, rfl⟩ := Plan.runs_done_iff.1 hr
    exact ⟨rfl, .troubled h⟩
  | ok reply =>
    obtain ⟨⟨⟩, ys, rfl, hrest⟩ := Plan.runs_call_iff.1 hr
    obtain ⟨rfl, hresult⟩ := Plan.runs_done_iff.1 hrest
    refine ⟨rfl, ?_⟩
    cases result with
    | ok v => exact .granted h (answer_eq_ok_iff.1 hresult)
    | error f =>
      obtain ⟨text, htext, rfl⟩ := answer_eq_error_iff.1 hresult
      exact .denied h htext

theorem ends_of_call (hr : (call e r).Runs xs result) : Ends e r (replies xs) (some result) := by
  unfold call at hr
  cases hpost : r.post e with
  | error reason =>
    rw [hpost] at hr
    obtain ⟨rfl, rfl⟩ := Plan.runs_done_iff.1 hr
    exact .unpostable hpost
  | ok p =>
    rw [hpost] at hr
    obtain ⟨back, ys, rfl, hrest⟩ := Plan.runs_call_iff.1 hr
    obtain ⟨hnone, hends⟩ := ends_of_received hpost hrest
    have hreplies : replies (⟨.post p, back⟩ :: ys) = some back :: replies ys := rfl
    rw [hreplies, hnone]
    exact hends

theorem ends_of_callWithin {result : Option (Except Fault Value)}
    (hr : (callWithin e limitMs r).Runs xs result) : Ends e r (replies xs) result := by
  unfold callWithin at hr
  cases hpost : r.post e with
  | error reason =>
    rw [hpost] at hr
    obtain ⟨rfl, rfl⟩ := Plan.runs_done_iff.1 hr
    exact .unpostable hpost
  | ok p =>
    rw [hpost] at hr
    obtain ⟨back, ys, rfl, hrest⟩ := Plan.runs_call_iff.1 hr
    have hreplies : replies (⟨.postWithin p limitMs, back⟩ :: ys) = back :: replies ys := rfl
    cases back with
    | none =>
      obtain ⟨rfl, rfl⟩ := Plan.runs_done_iff.1 hrest
      exact .late hpost
    | some back =>
      change ((received r p back).bind fun v => .done (some v)).Runs ys result at hrest
      obtain ⟨front, rest, v, rfl, hreceived, hdone⟩ := Plan.runs_bind_iff.1 hrest
      obtain ⟨rfl, rfl⟩ := Plan.runs_done_iff.1 hdone
      obtain ⟨hnone, hends⟩ := ends_of_received hpost hreceived
      rw [hreplies, List.append_nil, hnone]
      exact hends

/-- Whatever comes back, a request goes on with it. -/
theorem exists_received (r : Request) (p : Post) (back : Except Trouble Response) :
    ∃ xs result, (received r p back).Runs xs result := by
  cases back with
  | error t => exact ⟨_, _, .done _⟩
  | ok reply => exact ⟨_, _, .call () (.done _)⟩

theorem exists_call (h : r.post e = .ok p) (back : Except Trouble Response) :
    ∃ xs result, (call e r).Runs xs result ∧ replies xs = [some back] := by
  obtain ⟨xs, result, hr⟩ := exists_received r p back
  refine ⟨⟨.post p, back⟩ :: xs, result, ?_, ?_⟩
  · rw [call, h]
    exact Plan.runs_call_iff.2 ⟨back, xs, rfl, hr⟩
  · exact congrArg (some back :: ·) (ends_of_received h hr).1

theorem exists_callWithin (h : r.post e = .ok p) (limitMs : Nat)
    (back : Option (Except Trouble Response)) :
    ∃ xs result, (callWithin e limitMs r).Runs xs result ∧ replies xs = [back] := by
  cases back with
  | none =>
    refine ⟨[⟨.postWithin p limitMs, none⟩], none, ?_, rfl⟩
    rw [callWithin, h]
    exact Plan.runs_call_iff.2 ⟨none, [], rfl, .done _⟩
  | some back =>
    obtain ⟨xs, result, hr⟩ := exists_received r p back
    refine ⟨⟨.postWithin p limitMs, some back⟩ :: (xs ++ []), some result, ?_, ?_⟩
    · rw [callWithin, h]
      have hrest : ((received r p back).bind fun v => .done (some v)).Runs (xs ++ [])
          (some result) := Plan.runs_bind_iff.2 ⟨xs, [], result, rfl, hr, .done _⟩
      exact Plan.runs_call_iff.2 ⟨some back, _, rfl, hrest⟩
    · rw [List.append_nil]
      exact congrArg (some back :: ·) (ends_of_received h hr).1

/-! ## Peers -/

theorem ofValue_eq_error_iff : Peer.ofValue v = .error f ↔
    (∀ members, v ≠ .object members) ∧
      f = .validation ("peer entry must be a JSON object, got " ++ v.text) := by
  cases v with
  | object members => simp [Peer.ofValue]
  | _ => simp [Peer.ofValue, eq_comm]

theorem ofValue_eq_ok_iff {q : Peer} : Peer.ofValue v = .ok q ↔ v = q.snapshot := by
  obtain ⟨attributes⟩ := q
  cases v <;> simp [Peer.ofValue, Peer.snapshot]

/-- The result is no listing of peers, and what is told of it: it is no array, or it has an item
that is no object, and the first of these is told of. -/
inductive NotPeers : Value → Fault → Prop where
  | notArray {v : Value} (h : ∀ items, v ≠ .array items) :
      NotPeers v (Request.listPeers.fault "did not return an array")
  | notObject {front back : List Value} {v : Value}
      (hfront : ∀ x ∈ front, ∃ members, x = .object members) (h : ∀ members, v ≠ .object members) :
      NotPeers (.array (front ++ v :: back))
        (.validation ("peer entry must be a JSON object, got " ++ v.text))

theorem notPeers_of_listed (h : listed v = .error f) : NotPeers v f := by
  unfold listed at h
  split at h
  · obtain ⟨front, item, back, rfl, hfront, hitem⟩ := first_of_mapM h
    obtain ⟨hobject, rfl⟩ := ofValue_eq_error_iff.1 hitem
    refine .notObject (fun x hx => ?_) hobject
    obtain ⟨q, hq⟩ := hfront x hx
    exact ⟨_, ofValue_eq_ok_iff.1 hq⟩
  · next harray =>
    cases h
    exact .notArray harray

/-! ## Listings and orders -/

def request? : Control → Option Request
  | .ban address seconds => some (.ban (Address.host address) seconds)
  | .disconnect id => (peerNumber? id).map .disconnect

theorem control_of_request {o : Control} (h : request? o = some r) (e : Endpoint) (limitMs : Nat) :
    ∃ done, control e o limitMs = order e limitMs r done := by
  cases o with
  | ban address seconds =>
    cases h
    exact ⟨_, rfl⟩
  | disconnect id =>
    obtain ⟨n, hn, rfl⟩ := Option.map_eq_some_iff.1 h
    exact ⟨_, by rw [control, hn]⟩

theorem control_of_none {o : Control} (h : request? o = none) (e : Endpoint) (limitMs : Nat) :
    ∃ id, o = .disconnect id ∧ peerNumber? id = none ∧ control e o limitMs =
      .done (some (.ok (.failed ("peer id '" ++ id ++ "' is not a node id")))) := by
  cases o with
  | ban address seconds => cases h
  | disconnect id =>
    have hnone : peerNumber? id = none := Option.map_eq_none_iff.1 h
    exact ⟨id, rfl, hnone, by rw [control, hnone]⟩

/-- An order that fails, what came back for it, and what is told of it. -/
inductive Fails (e : Endpoint) :
    Control → List (Option (Except Trouble Response)) → String → Prop where
  /-- Nothing is asked about a peer whose identifier is no number. -/
  | unnumbered {id : String} (h : peerNumber? id = none) :
      Fails e (.disconnect id) [] ("peer id '" ++ id ++ "' is not a node id")
  | fault {o : Control} {r : Request} {came : List (Option (Except Trouble Response))} {f : Fault}
      (h : request? o = some r) (hends : Ends e r came (some (.error f))) : Fails e o came f.message

theorem Grants.unique {w : Value} (h : Grants reply v) (h' : Grants reply w) : v = w :=
  Except.ok.inj ((answer_of_grants h .listPeers).symm.trans (answer_of_grants h' .listPeers))

theorem Ends.granted_iff (h : Ends e r came (some result)) :
    (∃ v, result = .ok v) ↔ ∃ reply v, came = [some (.ok reply)] ∧ Grants reply v := by
  cases h with
  | granted hpost hreply => exact ⟨fun _ => ⟨_, _, rfl, hreply⟩, fun _ => ⟨_, rfl⟩⟩
  | denied hpost hreply =>
    refine iff_of_false (by simp) ?_
    rintro ⟨reply, v, hcame, hgrants⟩
    cases hcame
    cases (answer_of_grants hgrants r).symm.trans (answer_of_denies hreply r)
  | unpostable => exact iff_of_false (by simp) (by simp)
  | troubled => exact iff_of_false (by simp) (by simp)

theorem Ends.grants (h : Ends e r came (some (.ok v))) :
    ∃ reply, came = [some (.ok reply)] ∧ Grants reply v := by
  cases h with
  | granted _ hreply => exact ⟨_, rfl, hreply⟩

/-- Once there is a reply, the result is what the request comes to with it. -/
theorem Ends.answer_eq (h : Ends e r [some (.ok reply)] (some result)) :
    r.answer reply = result := by
  cases h with
  | granted _ hreply => exact answer_of_grants hreply r
  | denied _ hreply => exact answer_of_denies hreply r

theorem listing_cases {result : Except Fault (List Peer)} (hr : (listPeers e).Runs xs result) :
    (∃ f, result = .error f ∧ Ends e .listPeers (replies xs) (some (.error f))) ∨
      ∃ reply v, replies xs = [some (.ok reply)] ∧ Grants reply v ∧ result = listed v := by
  obtain ⟨front, back, answer, rfl, hcall, hdone⟩ := Plan.runs_bind_iff.1 hr
  obtain ⟨rfl, rfl⟩ := Plan.runs_done_iff.1 hdone
  rw [List.append_nil]
  have hends := ends_of_call hcall
  cases answer with
  | error f => exact .inl ⟨f, rfl, hends⟩
  | ok v =>
    obtain ⟨reply, hreplies, hgrants⟩ := hends.grants
    exact .inr ⟨reply, v, hreplies, hgrants, rfl⟩

theorem order_cases {done : String} {answer : Option (Except Fault Outcome)}
    (hr : (order e limitMs r done).Runs xs answer) :
    (answer = none ∧ replies xs = [none]) ∨ ∃ result,
      answer = some (.ok (ordered done result)) ∧ Ends e r (replies xs) (some result) := by
  obtain ⟨front, back, answer', rfl, hcall, hdone⟩ := Plan.runs_bind_iff.1 hr
  obtain ⟨rfl, rfl⟩ := Plan.runs_done_iff.1 hdone
  rw [List.append_nil]
  have hends := ends_of_callWithin hcall
  cases answer' with
  | none =>
    cases hcame : replies front with
    | nil => rw [hcame] at hends; cases hends
    | cons came rest =>
      rw [hcame] at hends
      cases hends
      exact .inl ⟨rfl, rfl⟩
  | some result => exact .inr ⟨result, rfl, hends⟩

theorem listed_peers_iff {result : Except Fault (List Peer)} (hr : (listPeers e).Runs xs result)
    (ps : List Peer) : result = .ok ps ↔ ∃ reply, replies xs = [some (.ok reply)] ∧
      Grants reply (.array (ps.map Peer.snapshot)) := by
  rcases listing_cases hr with ⟨f, rfl, hends⟩ | ⟨reply, v, hreplies, hgrants, rfl⟩
  · refine iff_of_false nofun ?_
    rintro ⟨reply, hreplies, hgrants⟩
    obtain ⟨_, hv⟩ := hends.granted_iff.2 ⟨reply, _, hreplies, hgrants⟩
    cases hv
  · rw [listed_ok_iff]
    constructor
    · rintro rfl
      exact ⟨reply, hreplies, hgrants⟩
    · rintro ⟨reply', hreplies', hgrants'⟩
      cases hreplies.symm.trans hreplies'
      exact hgrants.unique hgrants'

theorem listing_fault {result : Except Fault (List Peer)} (hr : (listPeers e).Runs xs result)
    (hf : result = .error f) : Ends e .listPeers (replies xs) (some (.error f)) ∨
      ∃ reply v, replies xs = [some (.ok reply)] ∧ Grants reply v ∧ NotPeers v f := by
  rcases listing_cases hr with ⟨g, rfl, hends⟩ | ⟨reply, v, hreplies, hgrants, rfl⟩
  · cases hf
    exact .inl hends
  · exact .inr ⟨reply, v, hreplies, hgrants, notPeers_of_listed hf⟩

/-- One item that is no object makes the whole listing fail. -/
theorem listing_fails_of_item {result : Except Fault (List Peer)}
    (hr : (listPeers e).Runs xs result) {items : List Value}
    (hreplies : replies xs = [some (.ok reply)]) (hgrants : Grants reply (.array items))
    {item : Value} (hitem : item ∈ items) (hobject : ∀ members, item ≠ .object members) :
    ∃ f, result = .error f := by
  cases hresult : result with
  | error f => exact ⟨f, rfl⟩
  | ok ps =>
    obtain ⟨reply', hreplies', hgrants'⟩ := (listed_peers_iff hr ps).1 hresult
    cases hreplies.symm.trans hreplies'
    cases hgrants.unique hgrants'
    obtain ⟨q, -, rfl⟩ := List.mem_map.1 hitem
    exact absurd rfl (hobject q.attributes)

theorem control_told {o : Control} {answer : Option (Except Fault Outcome)}
    (hr : (control e o limitMs).Runs xs answer) :
    (answer = none ∧ replies xs = [none]) ∨ ∃ outcome, answer = some (.ok outcome) ∧
      (outcome.success = true ↔ ∃ reply v, replies xs = [some (.ok reply)] ∧ Grants reply v) ∧
      (outcome.success = false → Fails e o (replies xs) outcome.message) := by
  cases hrequest : request? o with
  | none =>
    obtain ⟨id, rfl, hnone, heq⟩ := control_of_none hrequest e limitMs
    rw [heq] at hr
    obtain ⟨rfl, rfl⟩ := Plan.runs_done_iff.1 hr
    exact .inr ⟨_, rfl, iff_of_false Bool.false_ne_true (by rintro ⟨_, _, ⟨⟩, _⟩),
      fun _ => .unnumbered hnone⟩
  | some r =>
    obtain ⟨done, heq⟩ := control_of_request hrequest e limitMs
    rw [heq] at hr
    refine (order_cases hr).imp_right ?_
    rintro ⟨result, rfl, hends⟩
    refine ⟨_, rfl, ordered_success_iff.trans hends.granted_iff, fun hfails => ?_⟩
    cases result with
    | ok v => cases hfails
    | error f => exact .fault hrequest hends

/-- **No failure is told as a success, and no peer is lost.** Whatever the node's endpoint and
whatever comes back for the posts. A listing gives peers just if the reply grants it an array of
objects, and gives just these, in their order; else it fails, and one item that is no object is
enough for that. An order that is not given up in time is answered with an outcome and never fails
otherwise; it is a success just if the reply grants it, and else the outcome tells what went wrong.
And anything can come back for a post: every reply, whatever its status and its text, or none. -/
theorem failures_told (e : Endpoint) :
    (∀ xs result, (listPeers e).Runs xs result →
      (∀ ps, result = .ok ps ↔ ∃ reply, replies xs = [some (.ok reply)] ∧
        Grants reply (.array (ps.map Peer.snapshot))) ∧
      (∀ f, result = .error f → Ends e .listPeers (replies xs) (some (.error f)) ∨
        ∃ reply v, replies xs = [some (.ok reply)] ∧ Grants reply v ∧ NotPeers v f) ∧
      ∀ reply items item, replies xs = [some (.ok reply)] → Grants reply (.array items) →
        item ∈ items → (∀ members, item ≠ .object members) → ∃ f, result = .error f) ∧
    (∀ o limitMs xs answer, (control e o limitMs).Runs xs answer →
      (answer = none ∧ replies xs = [none]) ∨ ∃ outcome, answer = some (.ok outcome) ∧
        (outcome.success = true ↔ ∃ reply v, replies xs = [some (.ok reply)] ∧ Grants reply v) ∧
        (outcome.success = false → Fails e o (replies xs) outcome.message)) ∧
    (∀ p, Request.listPeers.post e = .ok p → ∀ back, ∃ xs result,
      (listPeers e).Runs xs result ∧ replies xs = [some back]) ∧
    ∀ o r p, request? o = some r → r.post e = .ok p → ∀ limitMs back, ∃ xs answer,
      (control e o limitMs).Runs xs answer ∧ replies xs = [back] := by
  refine ⟨fun xs result hr => ⟨listed_peers_iff hr, fun f => listing_fault hr,
    fun reply items item hreplies hgrants hitem => listing_fails_of_item hr hreplies hgrants hitem⟩,
    fun o limitMs xs answer => control_told,
    fun p hpost back => ?_, fun o r p hrequest hpost limitMs back => ?_⟩
  · obtain ⟨xs, result, hr, hreplies⟩ := exists_call hpost back
    exact ⟨xs ++ [], _, Plan.runs_bind_iff.2 ⟨xs, [], result, rfl, hr, .done _⟩,
      by simpa using hreplies⟩
  · obtain ⟨xs, result, hr, hreplies⟩ := exists_callWithin hpost limitMs back
    obtain ⟨done, heq⟩ := control_of_request hrequest e limitMs
    rw [heq]
    exact ⟨xs ++ [], _, Plan.runs_bind_iff.2 ⟨xs, [], result, rfl, hr, .done _⟩,
      by simpa using hreplies⟩

/-! ### A refusal, a success, and a listing with an item that is no object -/

def localNode : Endpoint := ⟨"http://[::1]:8332", none⟩

def badAddress : Response :=
  ⟨⟨500⟩, "\x7b\"result\":null,\"error\":\x7b\"code\":-23,\"message\":\"no address\"\x7d\x7d"⟩

def carriedOut : Response := ⟨⟨200⟩, "\x7b\"result\":null,\"error\":null\x7d"⟩

/-- Behind a peer stands a number. -/
def peerAndNumber : Response := ⟨⟨200⟩, "\x7b\"result\":[\x7b\"id\":4\x7d,5]\x7d"⟩

theorem exists_post (h : (r.post e).toBool = true) : ∃ p, r.post e = .ok p := by
  cases hpost : r.post e with
  | error reason =>
    rw [hpost] at h
    cases h
  | ok p => exact ⟨p, rfl⟩

theorem grants_carriedOut : ∃ v, Grants carriedOut v := by
  rcases grants_or_denies carriedOut with hgrants | ⟨text, hdenies⟩
  · exact hgrants
  · have hresult : (Request.listPeers.answer carriedOut).toBool = true := by decide +kernel
    rw [answer_of_denies hdenies] at hresult
    cases hresult

theorem failures_told_badAddress :
    (∃ xs outcome, (control localNode (.ban "[::1]:8333" 60) 10000).Runs xs (some (.ok outcome)) ∧
      replies xs = [some (.ok badAddress)] ∧ outcome.success = false ∧
      outcome.message = "internal error: node RPC 'setban' error -23: no address") ∧
    (∃ xs outcome, (control localNode (.disconnect " 7") 10000).Runs xs (some (.ok outcome)) ∧
      replies xs = [some (.ok carriedOut)] ∧ outcome.success = true) ∧
    ∃ xs f, (listPeers localNode).Runs xs (.error f) ∧
      replies xs = [some (.ok peerAndNumber)] := by
  obtain ⟨hlisting, horder, hanyListing, hanyOrder⟩ := failures_told localNode
  refine ⟨?_, ?_, ?_⟩
  · obtain ⟨p, hpost⟩ : ∃ p, (Request.ban "::1" 60).post localNode = .ok p :=
      exists_post (by decide +kernel)
    have hrequest : request? (.ban "[::1]:8333" 60) = some (.ban "::1" 60) := by
      have hhost : Address.host "[::1]:8333" = "::1" := by decide +kernel
      rw [request?, hhost]
    obtain ⟨xs, answer, hr, hreplies⟩ :=
      hanyOrder _ _ p hrequest hpost 10000 (some (.ok badAddress))
    obtain ⟨-, hnone⟩ | ⟨outcome, rfl, hsuccess, hfails⟩ := horder _ _ _ _ hr
    · cases hreplies.symm.trans hnone
    · have hfail : outcome.success = false := by
        refine Bool.eq_false_iff.2 fun h => ?_
        obtain ⟨reply, v, hcame, hgrants⟩ := hsuccess.1 h
        cases hreplies.symm.trans hcame
        exact absurd hgrants.success (by decide)
      have hanswer : (ordered "" ((Request.ban "::1" 60).answer badAddress)).message =
          "internal error: node RPC 'setban' error -23: no address" := by
        decide +kernel
      have htold := hfails hfail
      rw [hreplies] at htold
      generalize hmessage : outcome.message = message at htold
      cases htold with
      | fault h hends =>
        cases hrequest.symm.trans h
        rw [hends.answer_eq] at hanswer
        exact ⟨xs, outcome, hr, hreplies, hfail, hmessage.trans hanswer⟩
  · obtain ⟨p, hpost⟩ : ∃ p, (Request.disconnect 7).post localNode = .ok p :=
      exists_post (by decide +kernel)
    have hrequest : request? (.disconnect " 7") = some (.disconnect 7) := by
      have hnumber : peerNumber? " 7" = some 7 := by decide +kernel
      rw [request?, hnumber]
      rfl
    obtain ⟨xs, answer, hr, hreplies⟩ :=
      hanyOrder _ _ p hrequest hpost 10000 (some (.ok carriedOut))
    obtain ⟨-, hnone⟩ | ⟨outcome, rfl, hsuccess, -⟩ := horder _ _ _ _ hr
    · cases hreplies.symm.trans hnone
    · obtain ⟨v, hv⟩ := grants_carriedOut
      exact ⟨xs, outcome, hr, hreplies, hsuccess.2 ⟨carriedOut, v, hreplies, hv⟩⟩
  · obtain ⟨p, hpost⟩ : ∃ p, Request.listPeers.post localNode = .ok p :=
      exists_post (by decide +kernel)
    obtain ⟨xs, result, hr, hreplies⟩ := hanyListing p hpost (.ok peerAndNumber)
    cases result with
    | error f => exact ⟨xs, f, hr, hreplies⟩
    | ok ps =>
      obtain ⟨reply, hcame, hgrants⟩ := ((hlisting _ _ hr).1 ps).1 rfl
      cases hreplies.symm.trans hcame
      have hfails : ((Request.listPeers.answer peerAndNumber).bind listed).toBool = false := by
        decide +kernel
      have hlisted : listed (.array (ps.map Peer.snapshot)) = .ok ps := listed_ok_iff.2 rfl
      rw [answer_of_grants hgrants, Except.bind, hlisted] at hfails
      cases hfails

end Node

end PeerRules

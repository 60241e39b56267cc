import PeerRules.Proofs.Deadlines
import PeerRules.Proofs.Numerals
import PeerRules.Proofs.Performing
import PeerRules.Proofs.Trimming
import PeerRules.Rehearsal.Tape

/-!
# The peer that is disconnected

A peer is named to the node by an integer of 64 bits. On the way there it is the identifier in the
peer's attributes, a number or a text, then the text of an order, and a number again in the body of
a post. `Peer.KnownBy` says by which attributes a peer is known by an integer; that one goes into
the post, and no post is made about a peer that is known by none.

* `Node.peerNumber?_eq_some_iff`: the text of an order, as an integer.
* `Peer.knownBy_iff`: the integer of a peer, by way of the text of its order.
* `Node.post_spec`: whether an endpoint can be posted to does not depend on the request.
* `Parties.posts_disconnect`: what a worker posts when it disconnects a peer.
* `Parties.disconnects_known_peer`: the right peer is disconnected, and no other.
-/
namespace PeerRules

open Json Text.Numeral

/-! ## The integer of a peer -/

namespace Text.Numeral

theorem Denotes.trimList_eq {cs : List Char} {n : Int} (h : Denotes cs n) : trimList cs = cs := by
  refine trimList_of_forall fun c hc => ?_
  rcases h.mem hc with hdigit | rfl | rfl
  · exact isBlank_of_isDigit hdigit
  · rfl
  · rfl

/-- The text of a float denotes no integer, trimmed or not. -/
theorem not_denotes_text_float (f : Binary64) (n : Int) :
    ¬ Denotes (trimList (Json.Number.text (.float f)).toList) n := by
  intro h
  obtain ⟨c, hc, hmark⟩ := Json.Number.exists_mem_text_float f
  -- A point or an exponent is not blank, so it is still there when the text is trimmed.
  have hblank : isBlank c = false := by rcases hmark with rfl | rfl <;> rfl
  have hmem := h.mem (mem_trimList hc hblank)
  rcases hmark with rfl | rfl <;> simp at hmem

theorem Denotes.says {s : String} {n : Int} (h : Denotes (trimList s.toList) n) :
    Rule.Submission.Says s.toList := by
  by_contra hblank
  have hempty : trimList s.toList = [] := by
    rw [← List.nil_append s.toList, trimList_append_blank hblank]
    rfl
  rw [hempty] at h
  cases h with
  | unsigned h => exact h.nonempty rfl

end Text.Numeral

theorem Node.peerNumber?_eq_some_iff {id : String} {n : Int} :
    Node.peerNumber? id = some n ↔ Denotes (Text.trimList id.toList) n ∧ IsSigned n := by
  rw [← signed?_eq_ok_iff, Node.peerNumber?]
  cases signed? (Text.trimList id.toList) <;> simp [Except.toOption]

namespace Peer

variable {p : Peer} {n : Int}

/-- The integer by which the node knows a peer: the identifier among the peer's attributes, if it is
that number, or a text that denotes it between blanks. -/
inductive KnownBy (p : Peer) (n : Int) : Prop where
  | number (h : p.attributes.find? "id" = some (.number (.int n))) (hn : IsSigned n)
  | text {s : String} (h : p.attributes.find? "id" = some (.string s))
      (hs : Denotes (Text.trimList s.toList) n) (hn : IsSigned n)

theorem knownBy_iff : p.KnownBy n ↔ ∃ id, p.id? = some id ∧ Node.peerNumber? id = some n := by
  simp only [Node.peerNumber?_eq_some_iff]
  constructor
  · rintro (⟨h, hn⟩ | ⟨h, hs, hn⟩)
    · have hdenotes := Number.denotes_text_int n
      exact ⟨_, id?_eq_some_iff.2 (.inl ⟨_, h, rfl⟩), hdenotes.trimList_eq.symm ▸ hdenotes, hn⟩
    · exact ⟨_, id?_eq_some_iff.2 (.inr ⟨h, hs.says⟩), hs, hn⟩
  · rintro ⟨id, hid, hdenotes, hn⟩
    obtain ⟨number, hnumber, rfl⟩ | ⟨htext, -⟩ := id?_eq_some_iff.1 hid
    · cases number with
      | int m =>
        have hm := Number.denotes_text_int m
        rw [hm.trimList_eq] at hdenotes
        exact .number (hm.unique hdenotes ▸ hnumber) hn
      | float f => exact absurd hdenotes (not_denotes_text_float f n)
    · exact .text htext hdenotes hn

theorem KnownBy.unique {m : Int} (h : p.KnownBy n) (h' : p.KnownBy m) : n = m := by
  obtain ⟨id, hid, hn⟩ := knownBy_iff.1 h
  obtain ⟨id', hid', hm⟩ := knownBy_iff.1 h'
  obtain rfl := Option.some.inj (hid.symm.trans hid')
  exact Option.some.inj (hn.symm.trans hm)

end Peer

/-! ## What is posted -/

def Wire.posts (xs : List (Exchange Wire.Call.signature)) : List Node.Post :=
  xs.filterMap fun x => match x.call with
    | .post p | .postWithin p _ => some p
    | _ => none

open Wire

@[simp] theorem Wire.posts_append (xs ys : List (Exchange Wire.Call.signature)) :
    posts (xs ++ ys) = posts xs ++ posts ys := List.filterMap_append

namespace Node

variable {e : Endpoint} {xs : List (Exchange Wire.Call.signature)}

/-- An endpoint takes every request, and then it is the body of the post, or it takes none. -/
theorem post_spec (e : Endpoint) :
    (∃ address authorization, ∀ r, Request.post e r = .ok ⟨address, authorization, r.body⟩) ∨
      ∃ reason, ∀ r, Request.post e r = .error reason := by
  unfold Request.post
  split
  · exact .inr ⟨_, fun _ => rfl⟩
  · next u hu =>
    cases hpost : isPostable (shown u).1 with
    | false => exact .inr ⟨_, fun _ => by simp only [hpost]; rfl⟩
    | true => exact .inl ⟨_, _, fun _ => by simp only [hpost]; rfl⟩

theorem post_body {r : Request} {post : Post} (h : r.post e = .ok post) : post.body = r.body := by
  obtain ⟨address, authorization, hok⟩ | ⟨reason, herror⟩ := post_spec e
  · cases (hok r).symm.trans h
    rfl
  · cases (herror r).symm.trans h

theorem post_eq_ok {r : Request} {post : Post} (h : (r.post e).toOption.toList = [post]) :
    r.post e = .ok post := by
  cases hpost : r.post e with
  | error reason =>
    rw [hpost] at h
    cases h
  | ok post' =>
    rw [hpost] at h
    cases h
    rfl

/-- Requests about different numbers have different bodies. -/
theorem disconnect_injective : Function.Injective fun n => (Request.disconnect n).body := by
  intro n m h
  simpa [Request.disconnect, Request.body] using h

theorem posts_received {r : Request} {p : Post} {reply : Except Trouble Response}
    {result : Except Fault Value} (h : (received r p reply).Runs xs result) : posts xs = [] := by
  cases reply with
  | error t =>
    obtain ⟨rfl, -⟩ := Plan.runs_done_iff.1 h
    rfl
  | ok answer =>
    obtain ⟨⟨⟩, ys, rfl, hrest⟩ := Plan.runs_call_iff.1 h
    obtain ⟨rfl, -⟩ := Plan.runs_done_iff.1 hrest
    rfl

theorem posts_callWithin {limitMs : Nat} {r : Request} {result : Option (Except Fault Value)}
    (h : (callWithin e limitMs r).Runs xs result) : posts xs = (r.post e).toOption.toList := by
  unfold callWithin at h
  cases hpost : r.post e with
  | error reason =>
    rw [hpost] at h
    obtain ⟨rfl, -⟩ := Plan.runs_done_iff.1 h
    rfl
  | ok p =>
    rw [hpost] at h
    obtain ⟨reply, ys, rfl, hrest⟩ := Plan.runs_call_iff.1 h
    cases reply with
    | none =>
      obtain ⟨rfl, -⟩ := Plan.runs_done_iff.1 hrest
      rfl
    | some answer =>
      change ((received r p answer).bind fun v => .done (some v)).Runs ys result at hrest
      obtain ⟨front, back, v, rfl, hreceived, hdone⟩ := Plan.runs_bind_iff.1 hrest
      obtain ⟨rfl, -⟩ := Plan.runs_done_iff.1 hdone
      rw [List.append_nil]
      exact congrArg (p :: ·) (posts_received hreceived)

theorem posts_order {limitMs : Nat} {r : Request} {done : String}
    {reply : Option (Except Fault Outcome)} (h : (order e limitMs r done).Runs xs reply) :
    posts xs = (r.post e).toOption.toList := by
  obtain ⟨front, back, v, rfl, hcall, hdone⟩ := Plan.runs_bind_iff.1 h
  obtain ⟨rfl, -⟩ := Plan.runs_done_iff.1 hdone
  rw [List.append_nil]
  exact posts_callWithin hcall

/-- A disconnection is one request, or none and a failure. -/
theorem posts_disconnect {id : String} {limitMs : Nat} {reply : Option (Except Fault Outcome)}
    (h : (control e (.disconnect id) limitMs).Runs xs reply) :
    (∃ n, peerNumber? id = some n ∧ posts xs = ((Request.disconnect n).post e).toOption.toList) ∨
      peerNumber? id = none ∧ posts xs = [] ∧ ∃ reason, reply = some (.ok (.failed reason)) := by
  unfold control at h
  dsimp only at h
  split at h
  · next n hn => exact .inl ⟨n, hn, posts_order h⟩
  · next hnone =>
    obtain ⟨rfl, rfl⟩ := Plan.runs_done_iff.1 h
    exact .inr ⟨hnone, rfl, _, rfl⟩

end Node

namespace Worker.Parties

variable {p : Parties} {limitMs : Nat} {peer : Peer} {ys : List (Exchange Wire.Call.signature)}
  {result : Except Fault Outcome}

open Dispatch

theorem order_disconnect {c : Control} (h : order peer .disconnect = .ok c) :
    ∃ id, peer.id? = some id ∧ c = .disconnect id := by
  cases hid : peer.id? with
  | none => simp [order, hid] at h
  | some id =>
    simp only [order, hid] at h
    cases h
    exact ⟨id, rfl, rfl⟩

/-- A disconnection posts the request about the integer of the peer, if there is one, and fails
without a post if there is none. -/
theorem posts_disconnect (h : (p.perform (toNode limitMs peer .disconnect)).Runs ys result) :
    (∃ n, peer.KnownBy n ∧
      posts ys = ((Node.Request.disconnect n).post p.node).toOption.toList) ∨
    (∀ n, ¬ peer.KnownBy n) ∧ posts ys = [] ∧ ∃ reason, result = .ok (.failed reason) := by
  obtain ⟨es, m, hruns, hcarries⟩ := runs_perform_iff.1 h
  obtain ⟨reason, horder, rfl, rfl⟩ | ⟨c, reply, horder, rfl, rfl⟩ := runs_toNode_iff.1 hruns
  · obtain ⟨rfl, -⟩ := carries_nil_iff.1 hcarries
    refine .inr ⟨fun n hn => ?_, rfl, reason, rfl⟩
    obtain ⟨id, hid, -⟩ := Peer.knownBy_iff.1 hn
    simp [order, hid] at horder
  · obtain ⟨id, hid, rfl⟩ := order_disconnect horder
    obtain ⟨front, ys₁, rfl, hlog, hcarries₁⟩ := (carries_cons_ofWire_iff rfl).1 hcarries
    obtain ⟨middle, ys₂, rfl, hcontrol, hcarries₂⟩ := (carries_cons_ofWire_iff rfl).1 hcarries₁
    obtain ⟨rfl, -⟩ := carries_nil_iff.1 hcarries₂
    have hfront : posts front = [] := by
      obtain ⟨⟨⟩, rest, rfl, hrest⟩ := Plan.runs_call_iff.1 hlog
      obtain ⟨rfl, -⟩ := Plan.runs_done_iff.1 hrest
      rfl
    rw [List.append_nil, posts_append, hfront, List.nil_append]
    obtain ⟨n, hn, hposts⟩ | ⟨hnone, hposts, reason, rfl⟩ := Node.posts_disconnect hcontrol
    · exact .inl ⟨n, Peer.knownBy_iff.2 ⟨id, hid, hn⟩, hposts⟩
    · refine .inr ⟨fun n hn => ?_, hposts, reason, rfl⟩
      obtain ⟨id', hid', hn⟩ := Peer.knownBy_iff.1 hn
      cases hid.symm.trans hid'
      cases hnone.symm.trans hn

/-- **The right peer is disconnected.** Whatever the peer, the other parties of the worker and all
replies: a node that can be posted to is asked, once, to disconnect the peer with a number, and for
nothing else, just if the peer is known by that number. About a peer that is known by no integer of
64 bits nothing is posted, and that is a failure. -/
theorem disconnects_known_peer
    (h : (p.perform (toNode limitMs peer .disconnect)).Runs ys result) :
    let request (n : Int) : Node.Request := ⟨"disconnectnode", [.string "", .number (.int n)]⟩
    (∀ n post, (request n).post p.node = .ok post →
      post.body = (request n).body ∧ (posts ys = [post] ↔ peer.KnownBy n)) ∧
    (∀ n, peer.KnownBy n → posts ys = ((request n).post p.node).toOption.toList) ∧
    ((∀ n, ¬ peer.KnownBy n) → posts ys = [] ∧ ∃ reason, result = .ok (.failed reason)) := by
  intro request
  have hknown : ∀ n, peer.KnownBy n → posts ys = ((request n).post p.node).toOption.toList := by
    intro n hn
    obtain ⟨m, hm, hposts⟩ | ⟨hnone, -⟩ := posts_disconnect h
    · rw [hn.unique hm]
      exact hposts
    · exact absurd hn (hnone n)
  have hunknown : (∀ n, ¬ peer.KnownBy n) →
      posts ys = [] ∧ ∃ reason, result = .ok (.failed reason) := by
    intro hnone
    obtain ⟨n, hn, -⟩ | ⟨-, hposts, hreason⟩ := posts_disconnect h
    · exact absurd hn (hnone n)
    · exact ⟨hposts, hreason⟩
  refine ⟨fun n post hpost => ⟨Node.post_body hpost, fun hposts => ?_, fun hn => ?_⟩, hknown,
    hunknown⟩
  · obtain ⟨m, hm, hposts'⟩ | ⟨-, hposts', -⟩ := posts_disconnect h
    · -- Both requests are in the one post, so they are about one number.
      have hpost' := Node.post_eq_ok (hposts'.symm.trans hposts)
      have hbody := (Node.post_body hpost).symm.trans (Node.post_body hpost')
      rwa [Node.disconnect_injective hbody]
    · rw [hposts] at hposts'
      cases hposts'
  · rw [hknown n hn, hpost]
    rfl

/-- A worker with a node on its own machine, and everything else in memory. -/
def nodeOnly : Parties := ⟨⟨"http://[::1]:8332", none⟩, 10000, false, none⟩

/-- A peer whose identifier is a text with a sign, zeros and blanks. -/
def spelledPeer : Peer := ⟨[("id", .string " +007\n")]⟩

theorem disconnects_known_peer_spelled :
    ∃ ys result post, (nodeOnly.perform (toNode 1000 spelledPeer .disconnect)).Runs ys result ∧
      posts ys = [post] ∧ post.body = (Node.Request.disconnect 7).body := by
  obtain ⟨ys, result, hruns⟩ := Plan.exists_runs
    (fun c => (Rehearsal.Tape.reply c (.start [] [] [])).1)
    (nodeOnly.perform (toNode 1000 spelledPeer .disconnect))
  have hknown : spelledPeer.KnownBy 7 :=
    Peer.knownBy_iff.2 ⟨" +007\n", by decide +kernel, by decide +kernel⟩
  have htaken : ((Node.Request.disconnect 7).post nodeOnly.node).toBool = true := by decide +kernel
  cases hpost : (Node.Request.disconnect 7).post nodeOnly.node with
  | error reason =>
    rw [hpost] at htaken
    cases htaken
  | ok post =>
    obtain ⟨hbody, hiff⟩ := (disconnects_known_peer hruns).1 7 post hpost
    exact ⟨ys, result, post, hruns, hiff.2 hknown, hbody⟩

end Worker.Parties

end PeerRules

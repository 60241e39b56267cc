import PeerRules.Guard
import PeerRules.Rehearsal.Script
import PeerRules.Store

/-!
# A world for rehearsals

The parties of a rehearsal are a store and a guard in memory, a fixed list of peers and a script.
The clock of the script starts at zero and stands still unless somebody waits; the calendar clock
moves with every look at it, so that no two readings are equal.

A call is answered in two steps: `send` notes it and says when the answer is due, `receive` gives
the answer, and only then touches the store. A control call that is not answered by its limit is
given up.
-/
namespace PeerRules.Rehearsal

open Json

/-- What the parties saw. -/
inductive Seen where
  | listPeers
  | ban (address : String) (seconds : UInt64)
  | disconnect (peerId : String)
  | append (ruleId : RuleId) (action result : String)
  | acquire (scope : String)
  | renew (scope : String)
  | release (scope : String)

/-- A record that cannot be loaded, and its place in the listing; the end when absent. -/
structure Corrupt where
  record : Record
  place : Option Nat

/-- The state of a rehearsal. -/
structure World where
  /-- Milliseconds on the clock of the script. -/
  clock : Nat
  /-- The last reading of the calendar clock. -/
  calendar : Instant
  /-- How many identifiers have been drawn. -/
  drawn : Nat
  store : Store
  guard : Guard
  /-- What the node says about its peers. -/
  peers : List Value
  corrupt : List Corrupt
  script : List Line
  counts : Channel → Nat
  seen : List Seen
  log : List Log.Event
  /-- Every entry that was ever stored. -/
  recorded : List Audit.EntryId

/-- A call under way: the line for it, when it was made and when its answer is due. -/
structure Flight where
  line : Option Line
  sentAt : Nat
  due : Nat

namespace World

/-- What the identifiers of a rehearsal have in front of the turn at which they were drawn. -/
def idFront : Nat := 0xA5C3_96E1_7B2D_48F0_0000_0000_0000_0000

def drawnId (turn : Nat) : RuleId := RuleId.ofRandom (idFront + turn + 1)

def start (script : List Line) (peers : List Value) : World where
  clock := 0
  calendar := ⟨1750000000000⟩
  drawn := 0
  store := .empty
  guard := .free
  peers := peers
  corrupt := []
  script := script
  counts := fun _ => 0
  seen := []
  log := []
  recorded := []

def draw (w : World) : RuleId × World := (drawnId w.drawn, { w with drawn := w.drawn + 1 })

/-- Looks at the calendar clock. -/
def read (w : World) : Instant × World :=
  let t : Instant := ⟨w.calendar.millis + 1⟩
  (t, { w with calendar := t })

/-- What a party sees of a call. -/
def sight : Call → Option Seen
  | .listPeers => some .listPeers
  | .control (.ban address seconds) _ => some (.ban address seconds)
  | .control (.disconnect id) _ => some (.disconnect id)
  | .append e => some (.append e.ruleId e.actionTaken e.result)
  | .acquire scope => some (.acquire scope)
  | .renew p => some (.renew p.scope)
  | .release p => some (.release p.scope)
  | _ => none

/-- The time after which a call is given up. -/
def limit? : Call → Option Nat
  | .control _ limitMs => some limitMs
  | _ => none

def send (w : World) (c : Call) : Flight × World :=
  match Channel.ofCall? c with
  | none => (⟨none, w.clock, w.clock⟩, w)
  | some channel =>
    let count := w.counts channel + 1
    let line := lineFor w.script channel count
    let delay := (line.map (·.delayMs)).getD 0
    let wait := match limit? c with
      | some limit => min delay limit
      | none => delay
    (⟨line, w.clock, w.clock + wait⟩,
      { w with
        counts := fun x => if x = channel then count else w.counts x
        seen := w.seen ++ (sight c).toList })

/-- The outcome of an order that the script has no fault for. -/
def obeyed (line : Option Line) (order : Control) : Outcome :=
  let usual := match order with
    | .ban address seconds =>
      "Banned " ++ address ++ " for " ++ toString seconds.toNat ++ " seconds"
    | .disconnect id => "Disconnected peer " ++ id
  ⟨(line.map (·.good)).getD true, (line.bind (·.message)).getD usual⟩

/-- Puts a record at its place in a listing. -/
def insertCorrupt (records : List Record) (c : Corrupt) : List Record :=
  let place := min (c.place.getD records.length) records.length
  records.take place ++ c.record :: records.drop place

/-- The records of the active rules, with those that cannot be loaded. -/
def activeRecords (w : World) : List Record := w.corrupt.foldl insertCorrupt w.store.active

/-- Keeps the result of a store's operation, and the new store if there is one. -/
def stored {α : Type} (w : World) (done : Except Fault (α × Store)) : Except Fault α × World :=
  let (reply, store) := w.store.kept done
  (reply, { w with store })

/-- There are no files in a rehearsal. -/
def noFile : String := "No such file or directory (os error 2)"

/-- The reply of the real party to a call that the script has no fault for. -/
def reply (w : World) (line : Option Line) : (c : Call) → c.Reply × World
  | .listPeers => (w.peers.mapM Peer.ofValue, w)
  | .dispatch _ _ => (.ok (.succeeded ""), w)
  | .control order _ => (some (.ok (obeyed line order)), w)
  | .append e =>
    let (id, w) := w.draw
    match w.store.append id e with
    | .ok (entry, s) => (.ok entry, { w with store := s, recorded := w.recorded ++ [id] })
    | .error f => (.error f, w)
  | .listEntries q => (.ok (w.store.page q), w)
  | .insertRule r =>
    let (t, w) := w.read
    w.stored (w.store.insert t r)
  | .updateRule r =>
    let (t, w) := w.read
    w.stored (w.store.update t r)
  | .findRule id => (.ok (w.store.find? id), w)
  | .listRules => (.ok w.store.rules, w)
  | .listActive => (.ok w.activeRecords, w)
  | .deleteRule id => w.stored (w.store.delete id)
  | .acquire scope =>
    let (token, w) := w.draw
    let (p, g) := w.guard.acquire token.text scope
    (.ok p, { w with guard := g })
  | .renew p => (.ok ((line.map (·.good)).getD true && w.guard.owns p), w)
  | .release p => (.ok (), { w with guard := w.guard.release p })
  | .readText _ => (.error noFile, w)
  | .log e => ((), { w with log := w.log ++ [e] })
  | .freshId => w.draw
  | .now => w.read

def refusal? (f : Fault) : (c : Call) → Option c.Reply
  | .listPeers => some (.error f)
  | .dispatch _ _ => some (.error f)
  | .control _ _ => some (some (.error f))
  | .append _ => some (.error f)
  | .listEntries _ => some (.error f)
  | .insertRule _ => some (.error f)
  | .updateRule _ => some (.error f)
  | .findRule _ => some (.error f)
  | .listRules => some (.error f)
  | .listActive => some (.error f)
  | .deleteRule _ => some (.error f)
  | .acquire _ => some (.error f)
  | .renew _ => some (.error f)
  | .release _ => some (.error f)
  | .readText _ | .log _ | .freshId | .now => none

/-- Nothing, as the reply to a call that was given up. -/
def silence? : (c : Call) → Option c.Reply
  | .control _ _ => some (none : Option (Except Fault Outcome))
  | _ => none

/-- Whether the answer to a call is there. -/
def arrived (w : World) (f : Flight) : Bool :=
  f.sentAt + (f.line.map (·.delayMs)).getD 0 ≤ w.clock

/-- Takes the answer to a call whose time has come. -/
def receive (w : World) (c : Call) (f : Flight) : c.Reply × World :=
  match (if w.arrived f then none else silence? c) with
  | some r => (r, w)
  | none =>
    match (f.line.bind (·.fault)).bind fun fault => refusal? fault c with
    | some r => (r, w)
    | none => w.reply f.line c

end World

end PeerRules.Rehearsal

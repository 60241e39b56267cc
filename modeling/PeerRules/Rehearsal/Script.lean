import PeerRules.Call

/-!
# Scripts

A script says how the parties behave in a rehearsal: which call of which channel takes how long, and
what it is answered with. A line may be for one call of its channel, counted from one, or for all of
them; the first line that fits a call applies to it.
-/
namespace PeerRules.Rehearsal

/-- The kinds of calls that are scripted and counted. -/
inductive Channel where
  | listPeers
  | control
  | dispatch
  | insert
  | update
  | find
  | list
  | listActive
  | delete
  | append
  | listEntries
  | acquire
  | renew
  | release
  deriving DecidableEq, Repr

namespace Channel

def all : List Channel :=
  [.listPeers, .control, .dispatch, .insert, .update, .find, .list, .listActive, .delete, .append,
    .listEntries, .acquire, .renew, .release]

def name : Channel → String
  | .listPeers => "listPeers"
  | .control => "control"
  | .dispatch => "dispatch"
  | .insert => "insert"
  | .update => "update"
  | .find => "find"
  | .list => "list"
  | .listActive => "listActive"
  | .delete => "delete"
  | .append => "append"
  | .listEntries => "listEntries"
  | .acquire => "acquire"
  | .renew => "renew"
  | .release => "release"

def ofName? (name : String) : Option Channel := all.find? (·.name = name)

/-- The channel of a call; files, the log, the clock and fresh identifiers have none. -/
def ofCall? : Call → Option Channel
  | .listPeers => some .listPeers
  | .dispatch _ _ => some .dispatch
  | .control _ _ => some .control
  | .append _ => some .append
  | .listEntries _ => some .listEntries
  | .insertRule _ => some .insert
  | .updateRule _ => some .update
  | .findRule _ => some .find
  | .listRules => some .list
  | .listActive => some .listActive
  | .deleteRule _ => some .delete
  | .acquire _ => some .acquire
  | .renew _ => some .renew
  | .release _ => some .release
  | .readText _ | .log _ | .freshId | .now => none

end Channel

structure Line where
  channel : Channel
  /-- The call it is for; every call when absent. -/
  call : Option Nat
  delayMs : Nat
  /-- The fault to answer with, in place of the real call. -/
  fault : Option Fault
  /-- Whether the answer is a good one. -/
  good : Bool
  /-- The text of an outcome. -/
  message : Option String

def lineFor (script : List Line) (channel : Channel) (count : Nat) : Option Line :=
  script.find? fun l => l.channel = channel && l.call.all (· = count)

end PeerRules.Rehearsal

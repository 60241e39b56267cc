import PeerRules.Fault
import PeerRules.Json.Printer

/-!
# Actions

What a rule does to every peer that meets its conditions: ban its address for a time, or disconnect
it. An action is stored as an object with its name. Loading keeps a name that is not known, so that
what was stored can be written back; `validate` refuses it before writing.

* `ofValue_toValue_disconnect`, `ofValue_toValue_unsupported`: what was loaded survives being stored
  and loaded again.
-/
namespace PeerRules

open Json

/-- What is done to a peer (`RuleAction`). -/
inductive Action where
  /-- The address is banned, for a number of seconds or for the usual time. -/
  | ban (seconds : Option UInt64)
  | disconnect
  /-- An action that is not known. -/
  | unsupported (name : String)
  deriving DecidableEq

namespace Action

/-- The usual time of a ban: one day. -/
def defaultBanSeconds : UInt64 := 86400

def name : Action → String
  | .ban _ => "ban"
  | .disconnect => "disconnect"
  | .unsupported name => name

/-- How long a ban lasts (`effective_ban_time_seconds`). -/
def banSeconds? : Action → Option UInt64
  | .ban seconds => some (seconds.getD defaultBanSeconds)
  | .disconnect | .unsupported _ => none

/-- The time given with a ban (`parse_ban_time`); `null` is as good as none. -/
def parseBanTime : Option Value → Except Fault (Option UInt64)
  | none | some .null => .ok none
  | some v =>
    match v.natural? with
    | some (n + 1) => .ok (some (UInt64.ofNat (n + 1)))
    | _ =>
      .error (.validation
        ("ban action banTime must be a positive integer number of seconds, got " ++ v.text))

/-- The action with a name, given the other members of the object that names it. -/
def ofName (name : String) (members : Members) : Except Fault Action :=
  if name = "ban" then (parseBanTime (members.find? "banTime")).map .ban
  else if name = "disconnect" then .ok .disconnect
  else .ok (.unsupported name)

/-- The action that a document stands for (`RuleAction.from_value`). -/
def ofValue : Value → Except Fault Action
  | .object members =>
    match Members.find? "action" members with
    | some (.string name) => ofName name members
    | _ => .error (.validation "rule actions require string field 'action'")
  | _ => .error (.validation "rule actions must be a JSON object")

/-- The stored form of an action (`RuleAction.to_value`). -/
def toValue (a : Action) : Value :=
  .object (("action", .string a.name) ::
    match a with
    | .ban (some seconds) => [("banTime", .ofNat seconds.toNat)]
    | _ => [])

/-- The check before writing (`RuleAction.validate`). -/
def validate : Action → Except Fault Unit
  | .ban _ | .disconnect => .ok ()
  | .unsupported name =>
    .error (.validation ("unknown rule action '" ++ name ++ "'; expected 'ban' or 'disconnect'"))

theorem ofValue_toValue_disconnect : ofValue (toValue .disconnect) = .ok .disconnect := by
  simp [toValue, ofValue, name, Members.find?, ofName]

theorem ofValue_toValue_unsupported {n : String} (hb : n ≠ "ban") (hd : n ≠ "disconnect") :
    ofValue (toValue (.unsupported n)) = .ok (.unsupported n) := by
  simp [toValue, ofValue, name, Members.find?, ofName, hb, hd]

end Action

end PeerRules

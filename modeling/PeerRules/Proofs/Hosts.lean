import PeerRules.Proofs.Disconnecting

/-!
# The host that is banned

A ban is of a host, and nodes are told of peers by addresses in which there is more: a port behind
the host, brackets around a host that has colons of its own, blanks around all of it. `Address.host`
takes all that off, and nothing else.

* `host_name`, `host_port`: a host without colons, alone or with a port.
* `host_colons`, `host_bracketed`: a host with colons, alone or in brackets.
* `ban_is_of_host`: two addresses of one host are banned by one request.
-/
namespace PeerRules.Node.Address

open Rule.Submission Text Wire

/-! ## Hosts -/

/-- Neither end is blank, and there is no bracket in front. -/
structure IsBare (host : String) : Prop where
  first : BeginsWithText host.toList
  last : BeginsWithText host.toList.reverse
  noBracket : host.toList.head? ≠ some '['

structure IsName (host : String) : Prop extends IsBare host where
  noColon : ':' ∉ host.toList

/-- A host with colons of its own, which stands in brackets if anything follows. -/
structure HasColons (host : String) : Prop extends IsBare host where
  colons : 2 ≤ host.toList.count ':'
  noClosing : ']' ∉ host.toList

variable {h : String} {cs q : List Char}

theorem hostOf_of_not_mem (hopen : cs.head? ≠ some '[') (hcolon : ':' ∉ cs) : hostOf cs = cs := by
  unfold hostOf
  split
  · simp at hopen
  · rw [splitOnce_of_not_mem hcolon]

theorem hostOf_port (hopen : cs.head? ≠ some '[') (hcolon : ':' ∉ cs) (hq : ':' ∉ q) :
    hostOf (cs ++ ':' :: q) = cs := by
  have hsplit := splitOnce_append (b := q) hcolon
  generalize hall : cs ++ ':' :: q = all at hsplit
  unfold hostOf
  split
  · cases cs <;> simp_all
  · simp [hsplit, hq]

theorem hostOf_colons (hopen : cs.head? ≠ some '[') (hcolons : 2 ≤ cs.count ':') :
    hostOf cs = cs := by
  obtain ⟨front, rest, rfl, hfront⟩ :=
    List.eq_append_cons_of_mem (List.count_pos_iff.1 (Nat.lt_of_lt_of_le Nat.zero_lt_two hcolons))
  -- There is a second colon, so what stands in front of the first one is not taken for a host.
  have hrest : ':' ∈ rest := by
    have hnone : front.count ':' = 0 := List.count_eq_zero.2 hfront
    rw [List.count_append, List.count_cons_self] at hcolons
    exact List.count_pos_iff.1 (by omega)
  obtain ⟨middle, behind, rfl, -⟩ := List.eq_append_cons_of_mem hrest
  exact host_many hfront hopen

theorem IsBare.trimList_eq (hh : IsBare h) : trimList h.toList = h.toList :=
  Rule.trimList_of_beginsWithText hh.first hh.last

theorem host_name (hh : IsName h) : host h = h := by
  rw [host, hh.trimList_eq, hostOf_of_not_mem hh.noBracket hh.noColon, String.ofList_toList]

theorem host_port (hh : IsName h) {q : String} (hq : ':' ∉ q.toList) :
    host (h ++ ":" ++ q) = h := by
  -- Blanks may be trimmed off the port, but nothing in front of its colon.
  obtain ⟨kept, hkept, htrim⟩ :=
    trimList_append_mark (beginsWithText_append hh.first [':']) (by decide) q.toList
  have hcolon : ':' ∉ kept := fun hmem => hq (hkept.subset hmem)
  have hlist : (h ++ ":" ++ q).toList = h.toList ++ ':' :: q.toList := by simp
  rw [host, hlist, htrim, hostOf_port hh.noBracket hh.noColon hcolon, String.ofList_toList]

theorem host_colons (hh : HasColons h) : host h = h := by
  rw [host, hh.trimList_eq, hostOf_colons hh.noBracket hh.colons, String.ofList_toList]

theorem host_bracketed (hclosing : ']' ∉ h.toList) (s : String) :
    host ("[" ++ h ++ "]" ++ s) = h := by
  have hfirst : BeginsWithText ('[' :: h.toList ++ [']']) := ⟨'[', rfl, by decide⟩
  obtain ⟨kept, -, htrim⟩ := trimList_append_mark hfirst (by decide) s.toList
  have hlist : ("[" ++ h ++ "]" ++ s).toList = '[' :: h.toList ++ ']' :: s.toList := by simp
  rw [host, hlist, htrim, List.cons_append, host_bracket kept hclosing, String.ofList_toList]

theorem host_surrounded {w w' : String} (hw : allBlank w = true) (hw' : allBlank w' = true)
    (x : String) : host (w ++ x ++ w') = host x := by
  rw [host, String.toList_append, String.toList_append,
    trimList_surrounded ((not_says_iff _).2 hw) ((not_says_iff _).2 hw'), host]

/-! ## Bans -/

/-- **A ban is of the host and of nothing else.** A port behind a host without colons, brackets
around a host with colons and whatever follows them, and blanks around an address are taken off. A
ban posts one request, about the host; so two addresses of one host make the same request, with the
same words about it. -/
theorem ban_is_of_host (e : Endpoint) (seconds : UInt64) (limitMs : Nat) :
    (∀ h, IsName h → host h = h ∧
      ∀ q : String, ':' ∉ q.toList → host (h ++ ":" ++ q) = h) ∧
    (∀ a, HasColons a → host a = a ∧ host ("[" ++ a ++ "]") = a ∧
      ∀ s, host ("[" ++ a ++ "]" ++ s) = a) ∧
    (∀ w x w' : String, allBlank w = true → allBlank w' = true → host (w ++ x ++ w') = host x) ∧
    (∀ x xs reply, (control e (.ban x seconds) limitMs).Runs xs reply → posts xs =
      (Request.post e ⟨"setban",
        [.string (host x), .string "add", .ofNat seconds.toNat]⟩).toOption.toList) ∧
    (∀ h, IsName h → ∀ q q' : String, ':' ∉ q.toList → ':' ∉ q'.toList →
      control e (.ban (h ++ ":" ++ q) seconds) limitMs =
        control e (.ban (h ++ ":" ++ q') seconds) limitMs) ∧
    ∀ a, HasColons a → ∀ s, control e (.ban a seconds) limitMs =
      control e (.ban ("[" ++ a ++ "]" ++ s) seconds) limitMs := by
  have hsame : ∀ x y, host x = host y →
      control e (.ban x seconds) limitMs = control e (.ban y seconds) limitMs := by
    intro x y hxy
    simp only [control, hxy]
  refine ⟨fun h hh => ⟨host_name hh, fun q hq => host_port hh hq⟩, fun a ha => ?_,
    fun w x w' hw hw' => host_surrounded hw hw' x, fun x xs reply hruns => posts_order hruns,
    fun h hh q q' hq hq' => ?_, fun a ha s => ?_⟩
  · have hbrackets := host_bracketed ha.noClosing ""
    rw [String.append_empty] at hbrackets
    exact ⟨host_colons ha, hbrackets, host_bracketed ha.noClosing⟩
  · exact hsame _ _ ((host_port hh hq).trans (host_port hh hq').symm)
  · exact hsame _ _ ((host_colons ha).trans (host_bracketed ha.noClosing s).symm)

def localNode : Endpoint := ⟨"http://127.0.0.1:8332", none⟩

/-- A host without colons with a port, among blanks, and a host with colons in and out of
brackets. -/
theorem ban_is_of_host_dotted :
    host (" " ++ ("203.0.113.7" ++ ":" ++ "8333") ++ "\n") = "203.0.113.7" ∧
      control localNode (.ban "2001:db8::1" 60) 5 =
        control localNode (.ban ("[" ++ "2001:db8::1" ++ "]" ++ ":8333") 60) 5 := by
  obtain ⟨hname, -, hsurrounded, -, -, hcolons⟩ := ban_is_of_host localNode 60 5
  have hdotted : IsName "203.0.113.7" := {
    first := ⟨'2', by decide, by decide⟩
    last := ⟨'7', by decide, by decide⟩
    noBracket := by decide
    noColon := by decide }
  have hgroups : HasColons "2001:db8::1" := {
    first := ⟨'2', by decide, by decide⟩
    last := ⟨'1', by decide, by decide⟩
    noBracket := by decide
    colons := by decide
    noClosing := by decide }
  refine ⟨?_, hcolons _ hgroups _⟩
  rw [hsurrounded _ _ _ (by decide) (by decide)]
  exact (hname _ hdotted).2 _ (by decide)

end PeerRules.Node.Address

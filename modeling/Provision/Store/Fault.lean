import Provision.Engine.Host

/-!
# Injected faults

Rules that make calls on a host fail, or succeed without being made.  A rule names
a call and perhaps its key, and may fire only at some of the calls it matches,
counted from zero.

Main results:

- `FaultRule.fire_rules`: the rules stay the same, but for the calls that they counted.
- `FaultRule.answer_cases`: either the host answers a call, or a rule that is about it.
-/

namespace Provision

/-! ## Names and keys of calls -/

namespace StoreCall

/-- The name by which rules refer to a call. -/
def method : StoreCall → String
  | .isMounted _ => "is_mounted"
  | .mount _ _ => "mount"
  | .unmount _ => "unmount"
  | .pageCount _ => "page_count"
  | .setPageCount _ _ => "set_page_count"
  | .moduleState _ => "module_state"
  | .loadModule _ => "load_module"
  | .unloadModule _ => "unload_module"
  | .boundDriver _ => "bound_driver"
  | .unbind _ _ => "unbind_driver"
  | .bind _ _ => "bind_driver"
  | .listDevices _ => "list_devices"
  | .homeDriver _ => "original_driver"
  | .setHome _ _ => "set_original_driver"
  | .clearHome _ => "clear_original_driver"
  | .recordedDevices => "recorded_devices"

/-- The key of a pool: its page size, and its node after an at sign. -/
def poolKey (p : Pool) : String :=
  match p.node with
  | some n => toString p.pageKb ++ "@" ++ toString n
  | none => toString p.pageKb

/-- What a call is about, as rules name it. -/
def key : StoreCall → String
  | .isMounted path | .mount path _ | .unmount path => path.text
  | .pageCount pool | .setPageCount pool _ => poolKey pool
  | .moduleState name | .unloadModule name => name
  | .loadModule request => request.name
  | .boundDriver a | .homeDriver a | .setHome a _ | .clearHome a => toString a
  | .unbind a driver | .bind a driver => toString a ++ " " ++ driver
  | .listDevices _ | .recordedDevices => ""

end StoreCall

/-! ## Rules -/

/-- A rule that makes calls fail. -/
structure FaultRule where
  method : String
  /-- The key of the calls that the rule matches; all keys when it is not set. -/
  key : Option String := none
  /-- The matching calls at which the rule fires; all of them when it is not set. -/
  places : Option (List Nat) := none
  message : String := "injected"
  /-- Whether a changing call succeeds without being made, instead of failing. -/
  skip : Bool := false
  /-- The number of matching calls so far. -/
  count : Nat := 0
  deriving DecidableEq, Inhabited

namespace FaultRule

/-- Whether a rule is about a call. -/
def covers (r : FaultRule) (c : StoreCall) : Bool :=
  r.method == c.method && r.key.all (· == c.key)

/-- Whether a rule fires at the next call that it matches. -/
def isDue (r : FaultRule) : Bool := r.places.all (·.contains r.count)

/-- What a rule answers in place of the host. -/
def verdict (r : FaultRule) (c : StoreCall) : c.Reply :=
  let failure : c.Reply := .error (.store c.method c.key r.message)
  if r.skip then c.done?.getD failure else failure

/-- The answer of the first rule that fires at a call, and the rules afterwards. -/
def fire (c : StoreCall) : List FaultRule → Option c.Reply × List FaultRule
  | [] => (none, [])
  | r :: rs =>
    if r.covers c then
      let counted := { r with count := r.count + 1 }
      if r.isDue then (some (r.verdict c), counted :: rs)
      else
        let (reply, rs) := fire c rs
        (reply, counted :: rs)
    else
      let (reply, rs) := fire c rs
      (reply, r :: rs)

/-- What is answered in place of the host is the verdict of a rule about the call. -/
theorem exists_of_fire_eq_some {c : StoreCall} {rules : List FaultRule} {reply : c.Reply}
    (h : (fire c rules).1 = some reply) : ∃ r ∈ rules, r.covers c ∧ reply = r.verdict c := by
  fun_induction fire c rules with
  | case1 => cases h
  | case2 r rs covers =>
    cases h
    exact ⟨r, List.mem_cons_self, covers, rfl⟩
  -- the rule does not fire, and one behind it does
  | case3 r rs _ _ _ _ _ fired ih | case4 r rs _ _ _ fired ih =>
    obtain ⟨other, there, fires⟩ := ih ((congrArg Prod.fst fired).trans h)
    exact ⟨other, List.mem_cons_of_mem r there, fires⟩

/-- The rules stay the same, but for the calls that they counted. -/
theorem fire_rules (c : StoreCall) (rules : List FaultRule) :
    (fire c rules).2.map ({ · with count := 0 }) = rules.map ({ · with count := 0 }) := by
  fun_induction fire c rules with
  | case1 => rfl
  | case2 => rfl
  | case3 r rs _ _ _ _ _ fired ih | case4 r rs _ _ _ fired ih =>
    rw [fired] at ih
    exact congrArg (_ :: ·) ih

/-- A host with rules answers a call itself only when no rule fires. -/
def answer {σ : Type} (store : StoreHandler σ) : StoreHandler (σ × List FaultRule)
  | c, (host, rules) =>
    match fire c rules with
    | (some reply, rules) => (reply, host, rules)
    | (none, rules) =>
      let (reply, host) := store c host
      (reply, host, rules)

/-- A host with rules answers a call itself, or a rule answers and the host stays as it is. -/
theorem answer_cases {σ : Type} (store : StoreHandler σ) (c : StoreCall) (host : σ)
    (rules : List FaultRule) :
    store c host = ((answer store c (host, rules)).1, (answer store c (host, rules)).2.1) ∨
      ∃ r ∈ rules, r.covers c ∧ (answer store c (host, rules)).1 = r.verdict c ∧
        (answer store c (host, rules)).2.1 = host := by
  unfold answer
  rcases hfire : fire c rules with ⟨fired, others⟩
  cases fired with
  | none =>
    left
    simp [hfire]
  | some reply =>
    right
    obtain ⟨r, there, covers, same⟩ := exists_of_fire_eq_some (congrArg Prod.fst hfire)
    exact ⟨r, there, covers, by simp [hfire, same], by simp [hfire]⟩

end FaultRule

end Provision

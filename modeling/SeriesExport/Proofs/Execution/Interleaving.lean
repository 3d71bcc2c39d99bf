import Mathlib.Logic.Function.Basic
import SeriesExport.Proofs.Execution.Outputs
import SeriesExport.Proofs.Plan.Books
import SeriesExport.Proofs.Traversal

/-! The domains of a plan run side by side: each step of the plan is a step of one domain, in any order.
Main statement: `asAlone_interleave`, that the result is what the domains come to when each runs alone,
and that there is a result once every domain has had its steps. -/
namespace SeriesExport
set_option autoImplicit false

/-! ## Executors -/

/-- An executor sees every call, whichever domain it is from, and answers it after those before it. -/
abbrev Executor := (before : List Call) → Call → Except ExecuteError Answer

def callsOf (domain : String) (calls : List Call) : List Call :=
  calls.filter fun c => c.domain = domain

/-- The answer to a call hangs on the call and its turn in its own domain. -/
def Executor.Serves (executor : Executor) (store : Store) : Prop :=
  ∀ before c, executor before c = store (callsOf c.domain before).length c

/-! ## Domains step by step -/

/-- How far a domain has come: nothing done, between two calls, with a call under way, or at an end. -/
inductive Progress where
  | idle
  | ready (outputs : DomainOutput) (qs : List NamedQuery)
  | waiting (answer : Except ExecuteError Answer) (outputs : DomainOutput) (q : NamedQuery)
      (qs : List NamedQuery)
  | ended (result : Except ExecuteError DomainOutput)

namespace Progress

variable (results : List (Except QueryError NamedQuery)) (domain : String)

/-- One step of a domain, and the call that it makes, if any. All queries are compiled in the first
step; after that a step makes a call, or files what came back. -/
def next (ask : Call → Except ExecuteError Answer) : Progress → Progress × List Call
  | idle =>
    match compileAll results with
    | .error e => (ended (.error (.query e)), [])
    | .ok qs => (ready .empty qs, [])
  | ready outputs [] => (ended (.ok outputs), [])
  | ready outputs (q :: qs) => (waiting (ask (callOf domain q)) outputs q qs, [callOf domain q])
  | waiting answer outputs q qs =>
    match answer.bind (outputOf q) with
    | .error e => (ended (.error e), [])
    | .ok output => (ready (outputs.insert q.name output) qs, [])
  | ended result => (ended result, [])

/-- The run that a domain has still before it, its next call being the `turn`-th. -/
def rest (store : Store) (turn : Nat) : Progress → Run DomainOutput
  | idle =>
    match compileAll results with
    | .error e => ⟨.error (.query e), []⟩
    | .ok qs => runQueries store domain turn .empty qs
  | ready outputs qs => runQueries store domain turn outputs qs
  | waiting answer outputs q qs =>
    match answer.bind (outputOf q) with
    | .error e => ⟨.error e, []⟩
    | .ok output => runQueries store domain turn (outputs.insert q.name output) qs
  | ended result => ⟨result, []⟩

/-- The steps that a domain has before it at most. -/
def stepsLeft : Progress → Nat
  | idle => 2 * results.length + 2
  | ready _ qs => 2 * qs.length + 1
  | waiting _ _ _ qs => 2 * qs.length + 2
  | ended _ => 0

end Progress

/-- A run that goes on after the given calls. -/
def Run.after {α : Type} (calls : List Call) (run : Run α) : Run α :=
  ⟨run.result, calls ++ run.calls⟩

theorem Run.after_append {α : Type} (first second : List Call) (run : Run α) :
    run.after (first ++ second) = (run.after second).after first := by
  unfold after
  rw [List.append_assoc]

namespace Progress

variable {results : List (Except QueryError NamedQuery)} {domain : String}

theorem domain_of_mem_next {ask : Call → Except ExecuteError Answer} {s : Progress} {c : Call}
    (h : c ∈ (s.next results domain ask).2) : c.domain = domain := by
  cases s with
  | idle =>
    rw [next] at h
    cases hc : compileAll results <;> rw [hc] at h <;> cases h
  | ready outputs qs =>
    cases qs with
    | nil => cases h
    | cons q qs =>
      rw [List.mem_singleton.1 h]
      rfl
  | waiting answer outputs q qs =>
    rw [next] at h
    cases ha : answer.bind (outputOf q) <;> rw [ha] at h <;> cases h
  | ended result => cases h

/-- A step takes the first call, if it is one, off the run that is left. -/
theorem rest_next {ask : Call → Except ExecuteError Answer} {store : Store} {turn : Nat}
    (hask : ∀ q, ask (callOf domain q) = store turn (callOf domain q)) (s : Progress) :
    ((s.next results domain ask).1.rest results domain store
      (turn + (s.next results domain ask).2.length)).after (s.next results domain ask).2 =
      s.rest results domain store turn := by
  cases s with
  | idle =>
    rw [next, rest]
    cases hc : compileAll results <;> rfl
  | ready outputs qs =>
    cases qs with
    | nil => rfl
    | cons q qs =>
      change ((waiting (ask (callOf domain q)) outputs q qs).rest results domain store
        (turn + 1)).after [callOf domain q] = runQueries store domain turn outputs (q :: qs)
      rw [hask, rest, runQueries]
      cases ha : (store turn (callOf domain q)).bind (outputOf q) <;> rfl
  | waiting answer outputs q qs =>
    rw [next, rest]
    cases ha : answer.bind (outputOf q) <;> rfl
  | ended result => rfl

theorem stepsLeft_next (ask : Call → Except ExecuteError Answer) (s : Progress) :
    (s.next results domain ask).1.stepsLeft results ≤ s.stepsLeft results - 1 := by
  cases s with
  | idle =>
    rw [next]
    cases hc : compileAll results with
    | error e => exact Nat.zero_le _
    | ok qs =>
      change 2 * qs.length + 1 ≤ 2 * results.length + 1
      have hlength : qs.length = results.length := length_of_mapM hc
      omega
  | ready outputs qs =>
    cases qs with
    | nil => exact Nat.zero_le _
    | cons q qs => exact Nat.le_refl _
  | waiting answer outputs q qs =>
    rw [next]
    cases ha : answer.bind (outputOf q) with
    | error e => exact Nat.zero_le _
    | ok output => exact Nat.le_refl _
  | ended result => exact Nat.le_refl _

theorem ended_of_stepsLeft_eq_zero {s : Progress} (h : s.stepsLeft results = 0) :
    ∃ result, s = ended result := by
  cases s with
  | ended result => exact ⟨result, rfl⟩
  | idle => cases h
  | ready outputs qs => cases h
  | waiting answer outputs q qs => cases h

end Progress

/-! ## All domains together -/

/-- A plan under way: the calls made so far, in the order they were made, and how far each domain is. -/
structure JointRun where
  calls : List Call
  progress : String → Progress

/-- The result of a plan: all outputs once every domain has its own, or the error of a domain. Which
error is open where several domains have failed, and the others need not have ended. -/
inductive JointRun.Gives (domains : List String) (s : JointRun) :
    Except ExecuteError PlanOutput → Prop
  | outputs (o : String → DomainOutput) (h : ∀ d ∈ domains, s.progress d = .ended (.ok (o d))) :
    s.Gives domains (.ok (.ofList (domains.map fun d => (d, o d))))
  | error {d : String} {e : ExecuteError} (hd : d ∈ domains)
    (h : s.progress d = .ended (.error e)) : s.Gives domains (.error e)

namespace Plan

variable (p : Plan) (buckets : Buckets) (executor : Executor)

def step (s : JointRun) (domain : String) : JointRun :=
  let moved := (s.progress domain).next (p.queries buckets domain) domain (executor s.calls)
  ⟨s.calls ++ moved.2, Function.update s.progress domain moved.1⟩

/-- Runs the domains in the steps of a schedule, which says whose turn it is. -/
def interleave (schedule : List String) : JointRun :=
  schedule.foldl (p.step buckets executor) ⟨[], fun _ => .idle⟩

variable {p buckets executor}

/-- What a domain has done and what it has left make up the run that it makes alone. -/
def OnCourse (p : Plan) (buckets : Buckets) (store : Store) (s : JointRun) (domain : String) : Prop :=
  ((s.progress domain).rest (p.queries buckets domain) domain store
    (callsOf domain s.calls).length).after (callsOf domain s.calls) =
    p.executeDomain buckets store domain

theorem callsOf_step (s : JointRun) (d e : String) :
    callsOf e (p.step buckets executor s d).calls = callsOf e s.calls ++
      callsOf e ((s.progress d).next (p.queries buckets d) d (executor s.calls)).2 :=
  List.filter_append s.calls _

theorem callsOf_step_self (s : JointRun) (d : String) :
    callsOf d (p.step buckets executor s d).calls = callsOf d s.calls ++
      ((s.progress d).next (p.queries buckets d) d (executor s.calls)).2 := by
  have hown : callsOf d ((s.progress d).next (p.queries buckets d) d (executor s.calls)).2 =
      ((s.progress d).next (p.queries buckets d) d (executor s.calls)).2 :=
    List.filter_eq_self.2 fun c hc => decide_eq_true (Progress.domain_of_mem_next hc)
  rw [callsOf_step, hown]

theorem callsOf_step_of_ne {d e : String} (h : e ≠ d) (s : JointRun) :
    callsOf e (p.step buckets executor s d).calls = callsOf e s.calls := by
  have hnone : callsOf e ((s.progress d).next (p.queries buckets d) d (executor s.calls)).2 = [] := by
    refine List.filter_eq_nil_iff.2 fun c hc hce => h ?_
    rw [← of_decide_eq_true hce]
    exact Progress.domain_of_mem_next hc
  rw [callsOf_step, hnone, List.append_nil]

theorem progress_step_self (s : JointRun) (d : String) : (p.step buckets executor s d).progress d =
    ((s.progress d).next (p.queries buckets d) d (executor s.calls)).1 :=
  Function.update_self d _ s.progress

theorem progress_step_of_ne {d e : String} (h : e ≠ d) (s : JointRun) :
    (p.step buckets executor s d).progress e = s.progress e :=
  Function.update_of_ne h _ s.progress

theorem OnCourse.step {store : Store} (hserves : executor.Serves store) {s : JointRun} {e : String}
    (h : p.OnCourse buckets store s e) (d : String) :
    p.OnCourse buckets store (p.step buckets executor s d) e := by
  unfold OnCourse at h ⊢
  by_cases hd : e = d
  · subst hd
    have hask : ∀ q, executor s.calls (callOf e q) =
        store (callsOf e s.calls).length (callOf e q) := fun q => hserves s.calls (callOf e q)
    rw [progress_step_self, callsOf_step_self, List.length_append, Run.after_append,
      Progress.rest_next hask]
    exact h
  · -- A step of another domain changes nothing here.
    rw [progress_step_of_ne hd, callsOf_step_of_ne hd]
    exact h

theorem onCourse_interleave {store : Store} (hserves : executor.Serves store)
    (schedule : List String) (d : String) :
    p.OnCourse buckets store (p.interleave buckets executor schedule) d := by
  have hrun : ∀ s, p.OnCourse buckets store s d →
      p.OnCourse buckets store (schedule.foldl (p.step buckets executor) s) d := by
    induction schedule with
    | nil => exact fun s h => h
    | cons e schedule ih => exact fun s h => ih _ (h.step hserves e)
  exact hrun _ rfl

/-- No domain makes a call that it does not make alone. -/
theorem callsOf_interleave {store : Store} (hserves : executor.Serves store)
    (schedule : List String) (d : String) :
    callsOf d (p.interleave buckets executor schedule).calls <+:
      (p.executeDomain buckets store d).calls := by
  have h : p.OnCourse buckets store (p.interleave buckets executor schedule) d :=
    onCourse_interleave hserves schedule d
  rw [← h]
  exact List.prefix_append _ _

theorem result_of_ended {store : Store} {s : JointRun} {d : String}
    {result : Except ExecuteError DomainOutput} (h : p.OnCourse buckets store s d)
    (hended : s.progress d = .ended result) : (p.executeDomain buckets store d).result = result := by
  unfold OnCourse at h
  rw [hended] at h
  rw [← h]
  rfl

/-! ## Schedules that leave no domain out -/

theorem stepsLeft_interleave (schedule : List String) (d : String) :
    ((p.interleave buckets executor schedule).progress d).stepsLeft (p.queries buckets d) ≤
      2 * (p.queries buckets d).length + 2 - schedule.count d := by
  have hrun : ∀ s : JointRun, ((schedule.foldl (p.step buckets executor) s).progress d).stepsLeft
      (p.queries buckets d) ≤ (s.progress d).stepsLeft (p.queries buckets d) - schedule.count d := by
    induction schedule with
    | nil => exact fun s => Nat.le_refl _
    | cons e schedule ih =>
      intro s
      refine Nat.le_trans (ih (p.step buckets executor s e)) ?_
      by_cases he : d = e
      · subst he
        have hnext : ((s.progress d).next (p.queries buckets d) d (executor s.calls)).1.stepsLeft
            (p.queries buckets d) ≤ (s.progress d).stepsLeft (p.queries buckets d) - 1 :=
          Progress.stepsLeft_next (executor s.calls) (s.progress d)
        rw [progress_step_self, List.count_cons_self]
        omega
      · have hcount : (e :: schedule).count d = schedule.count d :=
          List.count_cons_of_ne (Ne.symm he)
        exact Nat.le_of_eq (by rw [progress_step_of_ne he, hcount])
  exact hrun _

theorem gives_of_ended {domains : List String} {s : JointRun}
    (h : ∀ d ∈ domains, ∃ result, s.progress d = .ended result) :
    ∃ result, s.Gives domains result := by
  by_cases hfailed : ∃ d ∈ domains, ∃ e, s.progress d = .ended (.error e)
  · obtain ⟨d, hd, e, he⟩ := hfailed
    exact ⟨_, .error hd he⟩
  · have hok : ∀ d, ∃ o, d ∈ domains → s.progress d = .ended (.ok o) := by
      intro d
      by_cases hd : d ∈ domains
      · obtain ⟨result, hresult⟩ := h d hd
        cases result with
        | ok o => exact ⟨o, fun _ => hresult⟩
        | error e => exact absurd ⟨d, hd, e, hresult⟩ hfailed
      · exact ⟨.empty, fun h => absurd h hd⟩
    obtain ⟨o, ho⟩ := Classical.skolem.1 hok
    exact ⟨_, .outputs o ho⟩

/-! ## Domains one after another -/

theorem executeDomains_of_ok {store : Store} {o : String → DomainOutput} {domains : List String}
    (h : ∀ d ∈ domains, (p.executeDomain buckets store d).result = .ok (o d)) (outputs : PlanOutput) :
    (p.executeDomains buckets store outputs domains).result =
      .ok (outputs.insertAll (domains.map fun d => (d, o d))) := by
  induction domains generalizing outputs with
  | nil => rfl
  | cons d domains ih =>
    have hrest := ih (fun d' hd' => h d' (List.mem_cons_of_mem d hd')) (outputs.insert d (o d))
    rw [executeDomains]
    dsimp only
    rw [h d List.mem_cons_self]
    exact hrest

theorem ok_of_executeDomains {store : Store} {domains : List String} {outputs out : PlanOutput}
    (h : (p.executeDomains buckets store outputs domains).result = .ok out) :
    ∀ d ∈ domains, ∃ o, (p.executeDomain buckets store d).result = .ok o := by
  induction domains generalizing outputs with
  | nil => exact fun d hd => absurd hd List.not_mem_nil
  | cons d domains ih =>
    rw [executeDomains] at h
    dsimp only at h
    cases hd : (p.executeDomain buckets store d).result with
    | error e =>
      rw [hd] at h
      cases h
    | ok o =>
      rw [hd] at h
      intro d' hd'
      rcases List.mem_cons.1 hd' with rfl | hd'
      · exact ⟨o, hd⟩
      · exact ih h d' hd'

/-! ## Results -/

/-- The result of a plan, as the runs of its domains alone have it: all outputs, or the error of a
domain that fails. A plan that runs one domain after another ends well with the same outputs. -/
structure AsAlone (p : Plan) (buckets : Buckets) (store : Store) (items : List Item)
    (result : Except ExecuteError PlanOutput) : Prop where
  ok_iff : (∃ out, result = .ok out) ↔
    ∀ d ∈ p.domains, ∃ o, (p.executeDomain buckets store d).result = .ok o
  keys_eq : ∀ out, result = .ok out → out.keys = p.domains
  mem_keys_iff : ∀ out, result = .ok out → ∀ d, d ∈ out.keys ↔ ∃ i ∈ items, i.domain = d
  get?_eq : ∀ out, result = .ok out → ∀ d ∈ p.domains,
    ∃ o, out.get? d = some o ∧ (p.executeDomain buckets store d).result = .ok o
  error : ∀ e, result = .error e → ∃ d ∈ p.domains,
    (p.executeDomain buckets store d).result = .error e
  execute_iff : ∀ out, result = .ok out ↔ (p.execute buckets store).result = .ok out

theorem names_of_outputs (domains : List String) (o : String → DomainOutput) :
    (domains.map fun d => (d, o d)).map Prod.fst = domains := by
  rw [List.map_map]
  exact List.map_id _

theorem keys_of_outputs (p : Plan) (o : String → DomainOutput) :
    (SortedMap.ofList (p.domains.map fun d => (d, o d))).keys = p.domains := by
  have hincreasing : KeysIncrease (p.domains.map fun d => (d, o d)) :=
    List.pairwise_map.2 p.groups.nodup_keys
  have hentries : (SortedMap.ofList (p.domains.map fun d => (d, o d))).entries =
      p.domains.map fun d => (d, o d) := SortedMap.entries_insertAll .empty hincreasing
  rw [SortedMap.keys, hentries, names_of_outputs]

theorem get?_of_outputs (p : Plan) (o : String → DomainOutput) {d : String} (hd : d ∈ p.domains) :
    (SortedMap.ofList (p.domains.map fun d => (d, o d))).get? d = some (o d) := by
  have hnodup : ((p.domains.map fun d => (d, o d)).map Prod.fst).Nodup := by
    rw [names_of_outputs]
    exact p.groups.nodup_keys.imp ne_of_compare_lt
  exact SortedMap.get?_insertAll .empty hnodup (List.mem_map.2 ⟨d, hd, rfl⟩)

theorem asAlone_outputs {store : Store} {items : List Item} {o : String → DomainOutput}
    (hp : p.Keeps items)
    (hok : ∀ d ∈ p.domains, (p.executeDomain buckets store d).result = .ok (o d)) :
    p.AsAlone buckets store items (.ok (.ofList (p.domains.map fun d => (d, o d)))) := by
  have hexecute : (p.execute buckets store).result =
      .ok (.ofList (p.domains.map fun d => (d, o d))) := executeDomains_of_ok hok .empty
  exact {
    ok_iff := ⟨fun _ d hd => ⟨o d, hok d hd⟩, fun _ => ⟨_, rfl⟩⟩
    keys_eq := by
      rintro out ⟨⟩
      exact p.keys_of_outputs o
    mem_keys_iff := by
      rintro out ⟨⟩ d
      rw [p.keys_of_outputs o]
      exact hp.mem_domains_iff d
    get?_eq := by
      rintro out ⟨⟩ d hd
      exact ⟨o d, p.get?_of_outputs o hd, hok d hd⟩
    error := by
      intro e h
      cases h
    execute_iff := fun out => by rw [hexecute] }

theorem asAlone_error {store : Store} {d : String} {e : ExecuteError} (items : List Item)
    (hd : d ∈ p.domains) (hfails : (p.executeDomain buckets store d).result = .error e) :
    p.AsAlone buckets store items (.error e) := by
  have hnot : ¬ ∀ d ∈ p.domains, ∃ o, (p.executeDomain buckets store d).result = .ok o := by
    intro hall
    obtain ⟨o, ho⟩ := hall d hd
    rw [hfails] at ho
    cases ho
  exact {
    ok_iff := ⟨nofun, fun hall => absurd hall hnot⟩
    keys_eq := nofun
    mem_keys_iff := nofun
    get?_eq := nofun
    error := by
      rintro e' ⟨⟩
      exact ⟨d, hd, hfails⟩
    execute_iff := fun out => ⟨nofun, fun h => absurd (ok_of_executeDomains h) hnot⟩ }

theorem asAlone_of_gives {store : Store} {items : List Item} {s : JointRun}
    {result : Except ExecuteError PlanOutput} (hp : p.Keeps items)
    (hcourse : ∀ d, p.OnCourse buckets store s d) (h : s.Gives p.domains result) :
    p.AsAlone buckets store items result := by
  cases h with
  | outputs o hended =>
    exact asAlone_outputs hp fun d hd => result_of_ended (hcourse d) (hended d hd)
  | @error d e hd hended =>
    exact asAlone_error items hd (result_of_ended (hcourse d) hended)

/-- Whatever the order of the steps, the result is what the domains come to alone; and where no domain
is left out for ever, there is one. -/
theorem asAlone_interleave {store : Store} (hserves : executor.Serves store) (buckets : Buckets)
    (offered : List Item) (schedule : List String) :
    (∀ result, ((empty.offerAll offered).interleave buckets executor schedule).Gives
        (empty.offerAll offered).domains result →
      (empty.offerAll offered).AsAlone buckets store (empty.accepted offered) result) ∧
    ((∀ d ∈ (empty.offerAll offered).domains,
        2 * ((empty.offerAll offered).queries buckets d).length + 2 ≤ schedule.count d) →
      ∃ result, ((empty.offerAll offered).interleave buckets executor schedule).Gives
        (empty.offerAll offered).domains result) := by
  constructor
  · intro result h
    exact asAlone_of_gives (offerAll_induction Keeps.add offered keeps_empty)
      (fun d => onCourse_interleave hserves schedule d) h
  · intro hcount
    refine gives_of_ended fun d hd => ?_
    have hleft : (((empty.offerAll offered).interleave buckets executor schedule).progress d).stepsLeft
        ((empty.offerAll offered).queries buckets d) ≤
        2 * ((empty.offerAll offered).queries buckets d).length + 2 - schedule.count d :=
      stepsLeft_interleave schedule d
    rw [Nat.sub_eq_zero_of_le (hcount d hd)] at hleft
    exact Progress.ended_of_stepsLeft_eq_zero (Nat.le_zero.1 hleft)

/-! ## A plant and its office -/

/-- Two queries of the plant and one of the office. -/
def officeItems : List Item := powerItems "p" ++ [{ powerItem "lights" .raw with domain := "office" }]

/-- Every point is at the turn of the call that asked for it. -/
def turnStore : Store := fun turn _ =>
  .ok (.records [⟨["_time", "power", "a"], [[.integer (.ofNat turn), .integer 5, .integer 7]]⟩])

def turnExecutor : Executor := fun before c => turnStore (callsOf c.domain before).length c

def officeSchedule : List String :=
  ["plant", "office", "plant", "office", "office", "plant", "plant", "office", "plant", "plant"]

theorem office_asAlone : turnExecutor.Serves turnStore ∧
    (∀ d ∈ (empty.offerAll officeItems).domains,
      2 * ((empty.offerAll officeItems).queries (fun _ => some "b") d).length + 2 ≤
        officeSchedule.count d) ∧
    ∃ out, ((empty.offerAll officeItems).interleave (fun _ => some "b") turnExecutor
        officeSchedule).Gives (empty.offerAll officeItems).domains (.ok out) ∧
      (empty.offerAll officeItems).AsAlone (fun _ => some "b") turnStore
        (empty.accepted officeItems) (.ok out) ∧ out.keys = ["office", "plant"] := by
  have hserves : turnExecutor.Serves turnStore := fun _ _ => rfl
  have hdomains : (empty.offerAll officeItems).domains = ["office", "plant"] := rfl
  have hcount : ∀ d ∈ (empty.offerAll officeItems).domains,
      2 * ((empty.offerAll officeItems).queries (fun _ => some "b") d).length + 2 ≤
        officeSchedule.count d := by
    rw [hdomains]
    decide +kernel
  have hok : ∀ d ∈ (empty.offerAll officeItems).domains, ∃ o,
      ((empty.offerAll officeItems).executeDomain (fun _ => some "b") turnStore d).result = .ok o := by
    rw [hdomains]
    intro d hd
    rcases List.mem_pair.1 hd with rfl | rfl
    · exact ⟨_, rfl⟩
    · exact ⟨_, rfl⟩
  obtain ⟨halone, hexists⟩ :=
    asAlone_interleave hserves (fun _ => some "b") officeItems officeSchedule
  obtain ⟨result, hresult⟩ := hexists hcount
  obtain ⟨out, rfl⟩ := (halone result hresult).ok_iff.2 hok
  exact ⟨hserves, hcount, out, hresult, halone _ hresult, (halone _ hresult).keys_eq out rfl⟩

end Plan
end SeriesExport

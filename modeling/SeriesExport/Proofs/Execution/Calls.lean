import SeriesExport.Proofs.Execution.Interleaving

/-! The calls of one domain. All its queries are compiled before the first call, and they are called in
order up to the first that fails. Main statement: `executeDomain_calls`, that the result and the calls
of every domain are one of three kinds of run. -/
namespace SeriesExport
set_option autoImplicit false

/-! ## Answered and failing queries -/

variable (store : Store) (domain : String)

/-- A query gets no rows in its turn: its call fails, or it makes none of the answer. -/
inductive Fails (turn : Nat) (q : NamedQuery) : ExecuteError → Prop
  | call {e : ExecuteError}
      (h : store turn ⟨domain, q.query.program.text, q.query.wantsFrame⟩ = .error e) : Fails turn q e
  | rows {a : Answer} {e : QueryError}
      (ha : store turn ⟨domain, q.query.program.text, q.query.wantsFrame⟩ = .ok a)
      (h : q.query.repack a = .error e) : Fails turn q (.query e)

def AllAnswered (qs : List NamedQuery) : Prop :=
  ∀ k q, qs[k]? = some q → ∃ data, Answers store domain k q data

/-- Under each name are the rows that the last query of this name made of the answer to its own call. -/
def DomainOutput.FiledBy (outputs : DomainOutput) (qs : List NamedQuery) : Prop :=
  ∀ name o, outputs.get? name = some o ↔ ∃ k q data, qs[k]? = some q ∧ q.name = name ∧
    (∀ j r, k < j → qs[j]? = some r → r.name ≠ name) ∧
    Answers store domain k q data ∧ o = q.output data

/-- The runs of a domain whose queries compile to the given results. Each call has the domain, the
program of its query and the form that the query wants the answer in. -/
inductive DomainRun : List (Except QueryError NamedQuery) → Run DomainOutput → Prop
  /-- The first error among the results ends the run before any call. -/
  | refused (before : List NamedQuery) (e : QueryError) (after : List (Except QueryError NamedQuery)) :
      DomainRun (before.map .ok ++ .error e :: after) ⟨.error (.query e), []⟩
  /-- The first query that fails is the last that is called. -/
  | stopped {before : List NamedQuery} {q : NamedQuery} {e : ExecuteError} (after : List NamedQuery)
      (hbefore : AllAnswered store domain before) (hq : Fails store domain before.length q e) :
      DomainRun ((before ++ q :: after).map .ok) ⟨.error e, (before ++ [q]).map fun r =>
        ⟨domain, r.query.program.text, r.query.wantsFrame⟩⟩
  /-- Without an error every query is called, and its rows are filed. -/
  | finished {qs : List NamedQuery} {outputs : DomainOutput} (hqs : AllAnswered store domain qs)
      (hfiled : outputs.FiledBy store domain qs) :
      DomainRun (qs.map .ok) ⟨.ok outputs, qs.map fun r =>
        ⟨domain, r.query.program.text, r.query.wantsFrame⟩⟩

variable {store domain}

theorem answers_or_fails (store : Store) (domain : String) (turn : Nat) (q : NamedQuery) :
    (∃ data, Answers store domain turn q data) ∨ ∃ e, Fails store domain turn q e := by
  cases hcall : store turn (callOf domain q) with
  | error e => exact Or.inr ⟨e, .call hcall⟩
  | ok a =>
    cases hrows : q.query.repack a with
    | error e => exact Or.inr ⟨.query e, .rows hcall hrows⟩
    | ok data => exact Or.inl ⟨data, a, hcall, hrows⟩

theorem Answers.unique {turn : Nat} {q : NamedQuery} {data data' : List Row}
    (h : Answers store domain turn q data) (h' : Answers store domain turn q data') :
    data = data' := by
  obtain ⟨a, ha, hrows⟩ := h
  obtain ⟨a', ha', hrows'⟩ := h'
  cases Except.ok.inj (ha.symm.trans ha')
  exact Except.ok.inj (hrows.symm.trans hrows')

theorem Fails.output_eq {turn : Nat} {q : NamedQuery} {e : ExecuteError}
    (h : Fails store domain turn q e) :
    (store turn (callOf domain q)).bind (outputOf q) = .error e := by
  cases h with
  | call h =>
    rw [callOf, h]
    rfl
  | rows ha h =>
    rw [callOf, ha]
    change outputOf q _ = _
    rw [outputOf, h]

/-! ## One more query -/

theorem getElem?_snoc_eq_some_iff {α : Type} {xs : List α} {x y : α} {k : Nat} :
    (xs ++ [x])[k]? = some y ↔ xs[k]? = some y ∨ k = xs.length ∧ x = y := by
  rcases Nat.lt_trichotomy k xs.length with hk | rfl | hk
  · rw [List.getElem?_append_left hk]
    simp [Nat.ne_of_lt hk]
  · simp
  · have hlong : (xs ++ [x]).length ≤ k := by
      rw [List.length_append, List.length_singleton]
      exact hk
    rw [List.getElem?_eq_none hlong, List.getElem?_eq_none (Nat.le_of_lt hk)]
    simp [Nat.ne_of_gt hk]

variable {qs : List NamedQuery} {q : NamedQuery} {outputs : DomainOutput} {data : List Row}

theorem allAnswered_nil : AllAnswered store domain [] := by
  intro k q hk
  cases hk

theorem AllAnswered.snoc (h : AllAnswered store domain qs)
    (hq : Answers store domain qs.length q data) : AllAnswered store domain (qs ++ [q]) := by
  intro k r hr
  rcases getElem?_snoc_eq_some_iff.1 hr with hr | ⟨rfl, rfl⟩
  · exact h k r hr
  · exact ⟨data, hq⟩

theorem DomainOutput.filedBy_nil : DomainOutput.FiledBy store domain .empty [] := by
  intro name o
  constructor
  · nofun
  · rintro ⟨k, q, data, hk, _⟩
    cases hk

/-- Filing the output of a further query takes the place of what had its name. -/
theorem DomainOutput.FiledBy.snoc (h : outputs.FiledBy store domain qs)
    (hq : Answers store domain qs.length q data) :
    DomainOutput.FiledBy store domain (outputs.insert q.name (q.output data)) (qs ++ [q]) := by
  intro name o
  have hlast : (qs ++ [q])[qs.length]? = some q := getElem?_snoc_eq_some_iff.2 (Or.inr ⟨rfl, rfl⟩)
  by_cases hname : name = q.name
  · subst hname
    rw [SortedMap.get?_insert_self]
    constructor
    · intro ho
      refine ⟨qs.length, q, data, hlast, rfl, ?_, hq, (Option.some.inj ho).symm⟩
      intro j r hj hr
      rcases getElem?_snoc_eq_some_iff.1 hr with hr | ⟨rfl, _⟩
      · exact absurd (List.getElem?_eq_some_iff.1 hr).1 (Nat.not_lt_of_gt hj)
      · exact absurd hj (Nat.lt_irrefl _)
    · rintro ⟨k, r, data', hr, hsame, hlater, hanswers, rfl⟩
      rcases getElem?_snoc_eq_some_iff.1 hr with hr | ⟨rfl, rfl⟩
      · exact absurd rfl (hlater qs.length q (List.getElem?_eq_some_iff.1 hr).1 hlast)
      · rw [hanswers.unique hq]
  · rw [SortedMap.get?_insert_of_ne outputs hname, h name o]
    constructor
    · rintro ⟨k, r, data', hr, hsame, hlater, hrest⟩
      refine ⟨k, r, data', getElem?_snoc_eq_some_iff.2 (Or.inl hr), hsame, ?_, hrest⟩
      intro j other hj hother
      rcases getElem?_snoc_eq_some_iff.1 hother with hother | ⟨_, rfl⟩
      · exact hlater j other hj hother
      · exact Ne.symm hname
    · rintro ⟨k, r, data', hr, hsame, hlater, hrest⟩
      rcases getElem?_snoc_eq_some_iff.1 hr with hr | ⟨_, rfl⟩
      · refine ⟨k, r, data', hr, hsame, ?_, hrest⟩
        exact fun j other hj hother =>
          hlater j other hj (getElem?_snoc_eq_some_iff.2 (Or.inl hother))
      · exact absurd hsame.symm hname

/-! ## Whole runs -/

/-- After queries that are all answered, the run goes on as if it had begun with the others. -/
theorem domainRun_runQueries {done : List NamedQuery} (hdone : AllAnswered store domain done)
    (hfiled : outputs.FiledBy store domain done) (qs : List NamedQuery) :
    DomainRun store domain ((done ++ qs).map .ok)
      ((runQueries store domain done.length outputs qs).after (done.map (callOf domain))) := by
  induction qs generalizing done outputs with
  | nil =>
    rw [List.append_nil, runQueries, Run.after, List.append_nil]
    exact .finished hdone hfiled
  | cons q qs ih =>
    rw [runQueries]
    obtain ⟨data, hq⟩ | ⟨e, hq⟩ := answers_or_fails store domain done.length q
    · have hrest := ih (hdone.snoc hq) (hfiled.snoc hq)
      have hcalls : (done ++ [q]).map (callOf domain) =
          done.map (callOf domain) ++ [callOf domain q] := List.map_append
      rw [List.append_assoc, List.length_append, List.length_singleton, hcalls,
        Run.after_append] at hrest
      rw [hq.output_eq]
      exact hrest
    · rw [hq.output_eq, Run.after]
      dsimp only
      rw [← List.map_singleton, ← List.map_append]
      exact .stopped qs hdone hq

theorem compileAll_cases (rs : List (Except QueryError NamedQuery)) :
    (∃ qs : List NamedQuery, rs = qs.map .ok) ∨
      ∃ (before : List NamedQuery) (e : QueryError) (after : List (Except QueryError NamedQuery)),
        rs = before.map .ok ++ .error e :: after := by
  induction rs with
  | nil => exact Or.inl ⟨[], rfl⟩
  | cons r rs ih =>
    cases r with
    | error e => exact Or.inr ⟨[], e, rs, rfl⟩
    | ok q =>
      obtain ⟨qs, rfl⟩ | ⟨before, e, after, rfl⟩ := ih
      · exact Or.inl ⟨q :: qs, rfl⟩
      · exact Or.inr ⟨q :: before, e, after, rfl⟩

theorem compileAll_error (before : List NamedQuery) (e : QueryError)
    (after : List (Except QueryError NamedQuery)) :
    compileAll (before.map .ok ++ .error e :: after) = .error e := by
  refine mapM_eq_error_iff.2 ⟨before.map .ok, .error e, after, rfl, ?_, rfl⟩
  intro r hr
  obtain ⟨q, _, rfl⟩ := List.mem_map.1 hr
  exact ⟨q, rfl⟩

/-- Whichever run it is, the calls are the first few that the compiled queries stand for. -/
theorem DomainRun.isPrefix_calls {results : List (Except QueryError NamedQuery)}
    {run : Run DomainOutput} (h : DomainRun store domain results run) :
    run.calls <+: (results.filterMap Except.toOption).map (callOf domain) := by
  have hqueries : ∀ qs : List NamedQuery,
      (qs.map .ok : List (Except QueryError NamedQuery)).filterMap Except.toOption = qs := by
    intro qs
    rw [List.filterMap_map]
    exact List.filterMap_some
  cases h with
  | refused before e after => exact List.nil_prefix
  | @stopped before q e after hbefore hq =>
    rw [hqueries, List.append_cons before q after]
    exact (List.prefix_append (before ++ [q]) after).map (callOf domain)
  | finished hqs hfiled =>
    rw [hqueries]
    exact List.prefix_refl _

/-! ## Executors -/

/-- To each of the calls, the store says what the executor says to it after the calls before it. -/
def Executor.Backs (executor : Executor) (store : Store) (calls : List Call) : Prop :=
  ∀ k c, calls[k]? = some c → store k c = executor (calls.take k) c

namespace Plan

theorem domainRun_executeDomain (p : Plan) (buckets : Buckets) (store : Store) (domain : String) :
    DomainRun store domain (p.queries buckets domain) (p.executeDomain buckets store domain) := by
  obtain ⟨qs, hqs⟩ | ⟨before, e, after, hresults⟩ := compileAll_cases (p.queries buckets domain)
  · rw [executeDomain, hqs, compileAll_ok]
    exact domainRun_runQueries allAnswered_nil DomainOutput.filedBy_nil qs
  · rw [executeDomain, hresults, compileAll_error]
    exact .refused before e after

/-- Some store answers the calls of a domain as a given executor does. -/
theorem exists_backed (p : Plan) (buckets : Buckets) (domain : String) (executor : Executor) :
    ∃ store, executor.Backs store (p.executeDomain buckets store domain).calls := by
  -- The calls before a call can be told without knowing any answer.
  let all := ((p.queries buckets domain).filterMap Except.toOption).map (callOf domain)
  let store : Store := fun turn c => executor (all.take turn) c
  refine ⟨store, fun k c hc => ?_⟩
  obtain ⟨later, hlater⟩ := (p.domainRun_executeDomain buckets store domain).isPrefix_calls
  have hk := Nat.le_of_lt (List.getElem?_eq_some_iff.1 hc).1
  have htake : all.take k = (p.executeDomain buckets store domain).calls.take k := by
    rw [← List.take_append_of_le_length hk, hlater]
  exact congrArg (executor · c) htake

/-- The calls of a domain and what comes of them, for every plan and whatever the answers. An executor
may answer a call as it likes after those before it. -/
theorem executeDomain_calls (p : Plan) (buckets : Buckets) (domain : String) :
    ∃ results, (p.generator buckets domain).Drains results ∧
      (∀ store, DomainRun store domain results (p.executeDomain buckets store domain)) ∧
      ∀ executor : Executor, ∃ store,
        executor.Backs store (p.executeDomain buckets store domain).calls :=
  ⟨p.queries buckets domain, p.drains_queries buckets domain,
    fun store => p.domainRun_executeDomain buckets store domain, p.exists_backed buckets domain⟩

end Plan
end SeriesExport

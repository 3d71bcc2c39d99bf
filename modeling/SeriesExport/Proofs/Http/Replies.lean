import SeriesExport.Http.Exchange
import SeriesExport.Proofs.Execution.Calls
import SeriesExport.Proofs.Query.Repacking

/-! Replies of a store that is reached through connections, and what a run of a domain makes of them.
Main statements: replies with the points of every query end in their rows, and a store error of a run
is the one that the reply to its last call reports. -/
namespace SeriesExport.Http
set_option autoImplicit false

/-! ## Replies to calls -/

/-- What comes back for a call in its turn, over a connection that is not refused. -/
def Replied (connections : String → Option Connection) (network : Network) (turn : Nat) (call : Call)
    (r : Reply) : Prop :=
  ∃ c, connections call.domain = some c ∧ refusal? c = none ∧
    network call.domain turn (post c call.program) = some r

/-- An error that a reply reports: without success in its body as a whole, with success in a table of
errors, which has no status of its own. -/
inductive Reply.Reports (r : Reply) : Nat → String → Prop
  | status (h : r.isSuccess = false) : Reports r r.status r.body
  | table {message : String} (h : r.isSuccess = true)
      (hbody : Csv.decode r.body = .error (.reported message)) : Reports r 200 message

theorem Reply.tables_of_isSuccess {r : Reply} (h : r.isSuccess = true) :
    r.tables = (Csv.decode r.body).mapError .ofDecode := if_pos h

theorem Reply.tables_eq_store_error_iff {r : Reply} {status : Nat} {message : String} :
    r.tables = .error (.store status message) ↔ r.Reports status message := by
  cases hs : r.isSuccess with
  | false =>
    have htables : r.tables = .error (.store r.status r.body) := if_neg (by rw [hs]; exact nofun)
    rw [htables]
    constructor
    · intro h
      cases h
      exact .status hs
    · rintro (_ | ⟨hsuccess, _⟩)
      · rfl
      · cases hs.symm.trans hsuccess
  | true =>
    rw [Reply.tables_of_isSuccess hs]
    constructor
    · intro h
      cases hbody : Csv.decode r.body with
      | ok ts =>
        rw [hbody] at h
        cases h
      | error e =>
        rw [hbody] at h
        cases e with
        | badCell type cell => cases h
        | reported text =>
          cases h
          exact .table hs hbody
    · rintro (hfails | ⟨_, hbody⟩)
      · cases hs.symm.trans hfails
      · rw [hbody]
        rfl

section
variable {connections : String → Option Connection} {network : Network} {turn : Nat} {call : Call}
  {r : Reply}

theorem store_of_replied (h : Replied connections network turn call r) :
    store connections network turn call = r.tables.map fun ts => .ofTables ts call.tabular := by
  obtain ⟨c, hc, hfit, hreply⟩ := h
  unfold store
  rw [hc]
  dsimp only
  rw [hfit]
  dsimp only
  rw [hreply]

/-- Without a reply there is an error of another kind. -/
theorem store_cases (connections : String → Option Connection) (network : Network) (turn : Nat)
    (call : Call) : (∃ r, Replied connections network turn call r) ∨
      store connections network turn call = .error (.noConnection call.domain) ∨
      store connections network turn call = .error .http := by
  unfold store
  cases hc : connections call.domain with
  | none => exact Or.inr (Or.inl rfl)
  | some c =>
    dsimp only
    cases hfit : refusal? c with
    | some refusal => exact Or.inr (Or.inr rfl)
    | none =>
      dsimp only
      cases hreply : network call.domain turn (post c call.program) with
      | none => exact Or.inr (Or.inr rfl)
      | some r => exact Or.inl ⟨r, c, hc, hfit, hreply⟩

theorem store_eq_store_error_iff {status : Nat} {message : String} :
    store connections network turn call = .error (.store status message) ↔
      ∃ r, Replied connections network turn call r ∧ r.Reports status message := by
  constructor
  · intro h
    rcases store_cases connections network turn call with ⟨r, hr⟩ | hnone | hhttp
    · refine ⟨r, hr, Reply.tables_eq_store_error_iff.1 ?_⟩
      rw [store_of_replied hr] at h
      cases htables : r.tables with
      | ok ts =>
        rw [htables] at h
        cases h
      | error e =>
        rw [htables] at h
        cases h
        rfl
    · cases hnone.symm.trans h
    · cases hhttp.symm.trans h
  · rintro ⟨r, hr, hreports⟩
    rw [store_of_replied hr, Reply.tables_eq_store_error_iff.2 hreports]
    rfl

end

/-! ## Points in replies -/

/-- The columns whose values make the rows of a query, where it takes them as they come. -/
def valueNames? : Query → Option (List String)
  | .series q =>
    match q.keep with
    | .all => some [q.item.measurement]
    | _ => none
  | .aggregate q => some q.sourceColumns.tail
  | .windowed q => some (q.channels.map fun c => c.item.exportName)
  | .tagValues _ => none

theorem repack_of_valueNames {q : Query} {names : List String} (h : valueNames? q = some names) :
    q.repack = fun a => orMissing (a.project ("_time" :: names)) := by
  cases q with
  | series q =>
    unfold valueNames? at h
    dsimp only at h
    split at h
    · rename_i hkeep
      cases h
      funext a
      show q.repack a = _
      unfold SeriesQuery.repack
      rw [hkeep]
      rfl
    · cases h
  | aggregate q =>
    cases h
    rfl
  | windowed q =>
    cases h
    rfl
  | tagValues q => cases h

section
variable {connections : String → Option Connection} {network : Network} {domain : String}
  {buckets : Buckets} {p : Plan}

/-- The reply to a query in its turn shows points in the columns that the query takes its values from,
none of which has a meaning of its own. -/
def Shown (connections : String → Option Connection) (network : Network) (domain : String)
    (turn : Nat) (q : NamedQuery) (names : List String) (points : List Point) : Prop :=
  valueNames? q.query = some names ∧ (∀ name ∈ names, name ∉ givenNames) ∧
    ∃ r columns,
      Replied connections network turn ⟨domain, q.query.program.text, q.query.wantsFrame⟩ r ∧
        r.isSuccess = true ∧ columns.Perm names ∧ Csv.Presents r.body columns points

theorem answers_of_shown {turn : Nat} {q : NamedQuery} {names : List String} {points : List Point}
    (h : Shown connections network domain turn q names points) :
    Answers (store connections network) domain turn q (points.map fun point => point.cells names) := by
  obtain ⟨hnames, hfree, r, columns, hr, hs, hperm, hbody⟩ := h
  obtain ⟨ts, hdecode, hrows⟩ := recovers_of_free hfree columns r.body points hperm hbody
    q.query.wantsFrame
  rw [← repack_of_valueNames hnames] at hrows
  refine ⟨_, ?_, hrows⟩
  rw [store_of_replied hr, Reply.tables_of_isSuccess hs, hdecode]
  rfl

/-! ## Runs of a domain -/

/-- Every query gets back the points that its reply shows, and they are filed under its name. -/
theorem executeDomain_of_shown {qs : List NamedQuery} {names : Nat → List String}
    {points : Nat → List Point} (hqs : p.queries buckets domain = qs.map .ok)
    (hshown : ∀ k (hk : k < qs.length),
      Shown connections network domain k qs[k] (names k) (points k)) :
    (p.executeDomain buckets (store connections network) domain).result =
      .ok (SortedMap.empty.insertAll
        (entriesFrom (fun k => (points k).map fun point => point.cells (names k)) 0 qs)) :=
  Plan.executeDomain_result hqs fun k hk => answers_of_shown (hshown k hk)

/-- A run that ends with an error of the store has called its queries in order up to one whose reply
reports this error, and those before it were answered. -/
theorem executeDomain_store_error {status : Nat} {message : String}
    (h : (p.executeDomain buckets (store connections network) domain).result =
      .error (.store status message)) :
    ∃ before q after r, p.queries buckets domain = (before ++ q :: after).map .ok ∧
      (p.executeDomain buckets (store connections network) domain).calls =
        (before ++ [q]).map (fun q => ⟨domain, q.query.program.text, q.query.wantsFrame⟩) ∧
      AllAnswered (store connections network) domain before ∧
      Replied connections network before.length ⟨domain, q.query.program.text, q.query.wantsFrame⟩ r ∧
      r.Reports status message := by
  have hrun := Plan.domainRun_executeDomain p buckets (store connections network) domain
  revert h hrun
  generalize p.executeDomain buckets (store connections network) domain = run
  generalize p.queries buckets domain = results
  rintro h (_ | ⟨after, hbefore, hq⟩ | _)
  · cases h
  · rename_i before q e
    cases h
    cases hq with
    | call hcall =>
      obtain ⟨r, hr, hreports⟩ := store_eq_store_error_iff.1 hcall
      exact ⟨before, q, after, r, rfl, rfl, hbefore, hr, hreports⟩
  · cases h

end

end SeriesExport.Http

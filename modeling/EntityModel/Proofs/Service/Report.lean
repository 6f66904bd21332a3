import EntityModel.Proofs.Counters.Request
import EntityModel.Service.Routing

/-!
# What the service reports about its requests

The report of the service shows the counters. A request is counted once it has been answered, unless its answer is
trouble: trouble is made known under its name alone, and neither the total nor the counter of the path and the status
sees the request. So a report tells the requests before it that were answered without trouble, and it tells all of
them exactly if there has been no trouble (`reports_iff`). Only a compilation brings trouble (`route_of_isTrouble`).

The counters of requests are told apart from those of events by their keys, which begin with another letter.
-/

namespace EntityModel

/-- A counter in a report; one that is not shown is at zero. -/
def Json.countAt (key : String) (report : Json) : Int :=
  match report.get? key with
  | some (.int n) => n
  | _ => 0

namespace Service

open Counters (totalKey pathKey normalizePath)

/-! ## Runs -/

section Runs

/-- The requests with their responses. -/
def exchanges (c : Counters) : List Request → List (Request × Response)
  | [] => []
  | r :: rs => (r, (respond c r).1) :: exchanges (respond c r).2 rs

/-- The counters after some requests. -/
def serve (c : Counters) (rs : List Request) : Counters := rs.foldl (fun c r => (respond c r).2) c

theorem serve_cons {c : Counters} {r : Request} {rs : List Request} :
    serve c (r :: rs) = serve (respond c r).2 rs := List.foldl_cons ..

/-- A request to a path was answered with a status. -/
def answeredAs (path : String) (status : Nat) (x : Request × Response) : Bool :=
  normalizePath x.1.shownPath = normalizePath path && x.2.answer.status = status

/-- A request was answered without trouble. -/
def isSmooth (x : Request × Response) : Bool := !x.2.answer.isTrouble

end Runs

/-! ## What a request does to the counters -/

section Steps

variable {c c' : Counters} {r : Request}

theorem status_mem (a : Answer) : a.status ∈ [200, 307, 400, 404, 405, 422, 500] := by
  cases a with
  | failed f =>
      rw [Answer.status, FailureClass.status]
      split <;> decide
  | _ => simp [Answer.status]

/-- Every answer has a status of a few digits. -/
theorem isWritable_status (a : Answer) : Counters.isWritable (some (a.status : Int)) = true := by
  have hshort : ∀ n ∈ ([200, 307, 400, 404, 405, 422, 500] : List Nat),
      Counters.isWritable (some (n : Int)) = true := by decide
  exact hshort _ (status_mem a)

theorem countAnswer_of_smooth {a : Answer} (h : a.isTrouble = false) :
    countAnswer r a c = c.addRequest r.method r.shownPath (some (a.status : Int)) := by
  rw [countAnswer, h, Counters.countRequest_of_isWritable (isWritable_status a)]
  rfl

/-- At most an event is counted, under a key that is none of a request. -/
def Noted (c c' : Counters) : Prop :=
  c' = c ∨ ∃ name, name.toList.head? ≠ some 'r' ∧ c' = c.countNamed name 1

theorem noted_compileBody : Noted c (compileBody c r).2 := by
  unfold compileBody
  split
  · exact .inl rfl
  · exact .inl rfl
  · exact .inl rfl
  · exact .inl rfl
  · split
    · exact .inl rfl
    · unfold compileSubmission
      split
      · exact .inl rfl
      · exact .inl rfl
      · dsimp only
        cases Compilation.compile _ _ _ _ with
        | refused f => exact .inl rfl
        | broken cause => exact .inl rfl
        | failed f => exact .inr ⟨"compilations_failed", by decide, rfl⟩
        | compiled x => exact .inr ⟨"compilations_ok", by decide, rfl⟩

theorem noted_answer : Noted c (answer c r).2 := by
  unfold answer
  split
  · exact .inl rfl
  · next route _ =>
      split
      · cases route with
        | health => exact .inl rfl
        | live => exact .inr ⟨"health_live", by decide, rfl⟩
        | ready => exact .inr ⟨"health_ready", by decide, rfl⟩
        | snapshot => exact .inl rfl
        | exposition => exact .inl rfl
        | compile => exact noted_compileBody
        | page => exact .inl rfl
      · exact .inl rfl

theorem answer_respond : (respond c r).1.answer = (answer c r).1 := by
  unfold respond
  cases answer c r
  rfl

theorem bare_respond : (respond c r).1.bare = decide (Text.upper r.method = bareMethod) := by
  unfold respond
  cases answer c r
  rfl

theorem counters_respond : (respond c r).2 = countAnswer r (respond c r).1.answer (answer c r).2 := by
  rw [answer_respond]
  unfold respond
  cases answer c r
  rfl

/-- Only a compilation brings trouble. -/
theorem route_of_isTrouble (h : (respond c r).1.answer.isTrouble = true) :
    Route.ofPath? r.path = some .compile ∧ Text.upper r.method = "POST" := by
  rw [answer_respond] at h
  unfold answer at h
  split at h
  · split at h <;> cases h
  · next route hroute =>
      split at h
      · next hmethod =>
          cases route with
          | compile => exact ⟨hroute, List.mem_singleton.1 hmethod⟩
          | health => cases h
          | live => cases h
          | ready => cases h
          | snapshot => cases h
          | exposition => cases h
          | page => cases h
      · cases h

theorem head?_troubleName {a : Answer} : a.troubleName.toList.head? ≠ some 'r' := by
  unfold Answer.troubleName
  split
  · simp [String.toList_append]
  · decide

end Steps

/-! ## What the counters tell -/

/-- The counters tell the requests in a list. -/
structure Tallies (c : Counters) (xs : List (Request × Response)) : Prop where
  total : Table.count c.requests totalKey = xs.length
  /-- Each status of each path has been counted as often as it was the answer. -/
  path : ∀ path (status : Nat),
    Table.count c.requests (pathKey path (some (status : Int))) = xs.countP (answeredAs path status)
  /-- No event is counted under a key of a request. -/
  apart : ∀ name ∈ Table.keys c.named, name.toList.head? ≠ some 'r'

namespace Tallies

variable {c c' : Counters} {xs : List (Request × Response)} {r : Request} {rs : List Request}

theorem empty : Tallies {} [] where
  total := rfl
  path _ _ := rfl
  apart _ h := absurd h List.not_mem_nil

theorem countNamed {name : String} (h : Tallies c xs) (hname : name.toList.head? ≠ some 'r') :
    Tallies (c.countNamed name 1) xs where
  total := by rw [Counters.requests_countNamed, h.total]
  path path status := by rw [Counters.requests_countNamed, h.path]
  apart other hother := by
    unfold Counters.countNamed at hother
    split at hother
    · exact h.apart other hother
    · rw [Table.bump, Table.keys_put] at hother
      split at hother
      · exact h.apart other hother
      · rcases List.mem_append.1 hother with hother | hother
        · exact h.apart other hother
        · obtain rfl := List.mem_singleton.1 hother
          exact hname

theorem of_noted (h : Tallies c xs) (hnoted : Noted c c') : Tallies c' xs := by
  obtain rfl | ⟨name, hname, rfl⟩ := hnoted
  · exact h
  · exact h.countNamed hname

theorem addRequest {x : Response} (h : Tallies c xs) :
    Tallies (c.addRequest r.method r.shownPath (some (x.answer.status : Int))) (xs ++ [(r, x)]) where
  total := by rw [Counters.total_addRequest, h.total]; simp
  path path status := by
    rw [Counters.count_addRequest, h.path, List.countP_append, List.countP_singleton]
    simp only [answeredAs, Bool.and_eq_true, decide_eq_true_eq]
    split
    · rfl
    · rfl
  apart := h.apart

/-- A request adds itself to what the counters tell, unless its answer is trouble. -/
theorem respond (h : Tallies c xs) :
    Tallies (respond c r).2 (xs ++ [(r, (respond c r).1)].filter isSmooth) := by
  have hanswer : Tallies (answer c r).2 xs := h.of_noted noted_answer
  rw [counters_respond]
  generalize (Service.respond c r).1 = x
  cases htrouble : x.answer.isTrouble with
  | true =>
      rw [countAnswer, htrouble, List.filter_cons_of_neg (by simp [isSmooth, htrouble]), List.filter_nil,
        List.append_nil]
      exact hanswer.countNamed head?_troubleName
  | false =>
      rw [countAnswer_of_smooth htrouble, List.filter_cons_of_pos (by simp [isSmooth, htrouble]), List.filter_nil]
      exact hanswer.addRequest

/-- After a run the counters tell the requests that were answered without trouble. -/
theorem serve (h : Tallies c xs) : Tallies (serve c rs) (xs ++ (exchanges c rs).filter isSmooth) := by
  induction rs generalizing c xs with
  | nil => rwa [exchanges, List.filter_nil, List.append_nil]
  | cons r rs ih =>
      have hrest := ih (h.respond (r := r))
      rw [List.append_assoc, ← List.filter_append, List.singleton_append, ← exchanges, ← serve_cons] at hrest
      exact hrest

end Tallies

/-! ## Reports -/

/-- A report tells the requests in a list. -/
structure Reports (report : Json) (xs : List (Request × Response)) : Prop where
  total : report.countAt totalKey = xs.length
  path : ∀ path (status : Nat),
    ((report.get? "requests").getD .null).countAt (pathKey path (some (status : Int))) =
      xs.countP (answeredAs path status)

section Reports

variable {c : Counters} {xs : List (Request × Response)} {r : Request}

theorem countAt_tableJson {t : Table String Int} {key : String} :
    (Answer.tableJson t).countAt key = Table.count t key := by
  have hlookup : (t.map fun e => (e.1, Json.int e.2)).lookup key = (t.lookup key).map .int := by
    induction t with
    | nil => rfl
    | cons e t ih =>
        rw [List.map_cons, List.lookup_cons, List.lookup_cons, ih]
        split <;> rfl
  rw [Json.countAt, Answer.tableJson, Json.get?, hlookup, Table.count]
  cases t.lookup key with
  | none => rfl
  | some n => rfl

theorem lookup_foldl_put (members : Table String Json) {named : Table String Int} {key : String}
    (h : key ∉ Table.keys named) :
    (named.foldl (fun t e => Table.put e.1 (Json.int e.2) t) members).lookup key = members.lookup key := by
  induction named generalizing members with
  | nil => rfl
  | cons e named ih =>
      obtain ⟨hne, hrest⟩ := not_or.1 (mt List.mem_cons.2 h)
      rw [List.foldl_cons, ih _ hrest, Table.lookup_put_of_ne hne]

/-- The counters are shown as they are. -/
theorem Tallies.reports (h : Tallies c xs) : Reports (Answer.countersJson c) xs := by
  have hnamed : ∀ key : String, key.toList.head? = some 'r' → key ∉ Table.keys c.named :=
    fun key hkey hmem => h.apart key hmem hkey
  have hmember := lookup_foldl_put [("requests", Answer.tableJson c.requests)]
    (hnamed "requests" (by decide))
  have htotal := lookup_foldl_put [("requests", Answer.tableJson c.requests)]
    (hnamed totalKey (by decide))
  constructor
  · rw [← h.total, Table.count, Json.countAt, Answer.countersJson]
    cases hn : c.requests.lookup totalKey with
    | some n => simp only [Json.get?, Table.lookup_put_self, Option.getD_some]
    | none =>
        simp only [Json.get?, htotal]
        rfl
  · intro path status
    have hrequests : (Answer.countersJson c).get? "requests" = some (Answer.tableJson c.requests) := by
      rw [Answer.countersJson]
      split
      · rw [Json.get?, Table.lookup_put_of_ne (by decide), hmember]
        rfl
      · rw [Json.get?, hmember]
        rfl
    rw [hrequests, Option.getD_some, countAt_tableJson, h.path]

/-- A request for a report is answered with the counters. -/
theorem body_of_snapshot (hpath : Route.ofPath? r.path = some .snapshot) (hmethod : Text.upper r.method = "GET")
    (fresh : String) : (respond c r).1.body fresh = some (Answer.countersJson c) := by
  have hanswer : answer c r = (.counters c, c) := by
    unfold answer
    split
    · next hnone =>
        rw [hpath] at hnone
        cases hnone
    · next route hroute =>
        obtain rfl := Option.some.inj (hpath.symm.trans hroute)
        exact if_pos (List.mem_singleton.2 hmethod)
  have hbare : (respond c r).1.bare = false := by
    rw [bare_respond, hmethod]
    decide
  rw [Response.body, hbare, answer_respond, hanswer]
  rfl

/-- A report tells the requests before it that were answered without trouble, and so it tells all of them exactly if
there has been no trouble. -/
theorem reports_iff (rs : List Request) (hpath : Route.ofPath? r.path = some .snapshot)
    (hmethod : Text.upper r.method = "GET") (fresh : String) :
    ∃ report, (respond (serve {} rs) r).1.body fresh = some report ∧
      Reports report ((exchanges {} rs).filter isSmooth) ∧
      (Reports report (exchanges {} rs) ↔ ∀ x ∈ exchanges {} rs, isSmooth x = true) := by
  have hreports : Reports (Answer.countersJson (serve {} rs)) ((exchanges {} rs).filter isSmooth) :=
    Tallies.reports Tallies.empty.serve
  refine ⟨_, body_of_snapshot hpath hmethod fresh, hreports, ?_, ?_⟩
  · intro hall
    have hlength : ((exchanges {} rs).filter isSmooth).length = (exchanges {} rs).length := by
      have := hreports.total.symm.trans hall.total
      exact_mod_cast this
    exact List.filter_eq_self.1 (List.filter_sublist.eq_of_length hlength)
  · intro hsmooth
    rwa [List.filter_eq_self.2 hsmooth] at hreports

/-- A request for the report. -/
def reportRequest : Request := { method := "GET", target := "/api/v1/metrics/snapshot" }

/-- A compilation of nothing. -/
def emptySubmission : Request :=
  { method := "POST", target := "/api/v1/compiler/compile", headers := [("content-type", "application/json")],
    body := [0x7B, 0x7D] }

/-- A run with a path that leads nowhere and a compilation. -/
theorem reports_iff_of_empty :
    Route.ofPath? reportRequest.path = some .snapshot ∧ Text.upper reportRequest.method = "GET" ∧
      ∃ report, (respond (serve {} [{ method := "GET", target := "/7" }, emptySubmission]) reportRequest).1.body "" =
          some report ∧
        Reports report ((exchanges {} [{ method := "GET", target := "/7" }, emptySubmission]).filter isSmooth) ∧
        (Reports report (exchanges {} [{ method := "GET", target := "/7" }, emptySubmission]) ↔
          ∀ x ∈ exchanges {} [{ method := "GET", target := "/7" }, emptySubmission], isSmooth x = true) := by
  have hpath : Route.ofPath? reportRequest.path = some .snapshot := by decide +kernel
  have hmethod : Text.upper reportRequest.method = "GET" := by decide +kernel
  exact ⟨hpath, hmethod, reports_iff _ hpath hmethod ""⟩

/-- A compilation of nothing is answered with a status of its own, and the report shows no request at all. -/
theorem not_reports_of_empty :
    (exchanges {} [emptySubmission]).length = 1 ∧
      (exchanges {} [emptySubmission]).countP (answeredAs "/api/v1/compiler/compile" 422) = 1 ∧
      ∃ report, (respond (serve {} [emptySubmission]) reportRequest).1.body "" = some report ∧
        report.countAt totalKey = 0 ∧ ¬ Reports report (exchanges {} [emptySubmission]) := by
  have htotal : (Answer.countersJson (serve {} [emptySubmission])).countAt totalKey = 0 := by decide +kernel
  refine ⟨rfl, by decide +kernel, _, body_of_snapshot (by decide +kernel) (by decide +kernel) "", htotal, ?_⟩
  intro hreports
  exact absurd (htotal.symm.trans hreports.total) (by decide)

end Reports

end Service

end EntityModel

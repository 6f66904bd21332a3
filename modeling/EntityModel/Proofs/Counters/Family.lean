import EntityModel.Counters.Amount
import EntityModel.Proofs.Counters.Request
import Mathlib.Data.List.Induction
import Mathlib.Data.List.Nodup

/-!
# Families of counters

The counters of requests fall into three families: the total alone, the counters of the methods, and those of the paths
with their statuses. A request has one key in each family, and this key belongs to no other family (`has_key_iff`), so a
request adds one to the counters of each family taken together (`sum_addRequest`). Events leave them as they are, and so
does a call for a request that fails, since it writes the status first. So the counters of each family always add up to
the number of the calls for requests that return (`addsUp_of_calls`).
-/

namespace EntityModel

/-! ## Sums over a table -/

section Sums

variable {t : Table String Int} {key : String} {amount : Int} {p : String → Prop} [DecidablePred p]

/-- The sum of the counters whose keys have a property. -/
def Table.sum (p : String → Prop) [DecidablePred p] : Table String Int → Int
  | [] => 0
  | (k, n) :: rest => (if p k then n else 0) + sum p rest

theorem Table.sum_cons {k : String} {n : Int} : sum p ((k, n) :: t) = (if p k then n else 0) + sum p t := rfl

/-- What is added to a counter is added to every sum that it is a part of. -/
theorem Table.sum_bump : sum p (bump key amount t) = sum p t + if p key then amount else 0 := by
  induction t with
  | nil =>
      rw [bump, put, sum_cons]
      simp [count, sum]
  | cons e rest ih =>
      obtain ⟨k, n⟩ := e
      by_cases hkey : k = key
      · subst hkey
        have hcount : count ((k, n) :: rest) k = n := by simp [count]
        rw [bump, hcount, put, if_pos rfl, sum_cons, sum_cons]
        split <;> omega
      · have hother : (key == k) = false := by simpa using fun h => hkey h.symm
        have hcount : count ((k, n) :: rest) key = count rest key := by simp [count, List.lookup_cons, hother]
        rw [bump, hcount, put, if_neg hkey, sum_cons, sum_cons]
        rw [bump] at ih
        rw [ih]
        omega

theorem Table.nodup_keys_bump (h : (keys t).Nodup) : (keys (bump key amount t)).Nodup := by
  rw [bump, keys_put]
  split
  · exact h
  · next hnew => exact List.concat_eq_append ▸ h.concat hnew

theorem Table.mem_keys_bump {k : String} : k ∈ keys (bump key amount t) ↔ k ∈ keys t ∨ k = key := by
  rw [bump, keys_put]
  split
  · next hold => exact ⟨.inl, fun h => h.elim id fun h => h ▸ hold⟩
  · simp

end Sums

namespace Counters

/-! ## Families -/

/-- What is counted of a request. -/
structure Entry where
  method : String
  path : String
  status : Option Int

/-- The families of the counters of requests. -/
inductive Family where
  /-- The number of all requests. -/
  | all
  /-- The requests with each method. -/
  | methods
  /-- The requests to each path that were answered with each status. -/
  | paths
  deriving DecidableEq

namespace Family

/-- The key under which a request is counted in a family. -/
def key : Family → Entry → String
  | all, _ => totalKey
  | methods, r => methodKey r.method
  | paths, r => pathKey r.path r.status

/-- How the keys of methods begin. -/
def methodsFront : List Char := "requests_".toList

/-- How the keys of paths begin. -/
def pathsFront : List Char := "path_".toList

/-- A key belongs to a family. What the key of a method goes on with is in capitals: it has no small letter of ASCII. -/
def Has : Family → String → Prop
  | all, k => k = totalKey
  | methods, k => methodsFront <+: k.toList ∧ ∀ c ∈ k.toList.drop methodsFront.length, c.isLower = false
  | paths, k => pathsFront <+: k.toList

instance : (family : Family) → DecidablePred family.Has
  | all => fun k => inferInstanceAs (Decidable (k = totalKey))
  | methods => fun _ => inferInstanceAs (Decidable (_ ∧ _))
  | paths => fun k => inferInstanceAs (Decidable (pathsFront <+: k.toList))

variable {family other : Family} {r : Entry} {k : String}

theorem isLower_of_mem_methodLabel {method : String} {c : Char} (h : c ∈ (methodLabel method).toList) :
    c.isLower = false := by
  rw [methodLabel] at h
  split at h
  · have hcapitals : ("UNKNOWN".toList.all fun c => !c.isLower) = true := by decide
    simpa using List.all_eq_true.1 hcapitals c h
  · exact Text.isLower_of_mem_upper h

/-- Each key of a request belongs to its own family. -/
theorem has_key (family : Family) (r : Entry) : family.Has (family.key r) := by
  cases family with
  | all => exact rfl
  | methods =>
      have hkey : (methodKey r.method).toList = methodsFront ++ (methodLabel r.method).toList := String.toList_append
      rw [key, Has, hkey, List.drop_left]
      exact ⟨List.prefix_append _ _, fun _ => isLower_of_mem_methodLabel⟩
  | paths =>
      rw [key, Has, pathKey, String.toList_append, String.toList_append, String.toList_append, List.append_assoc,
        List.append_assoc]
      exact List.prefix_append _ _

/-- The total is no method, since it is in small letters. -/
theorem not_has_methods_totalKey : ¬ methods.Has totalKey := by
  rintro ⟨-, hcapitals⟩
  exact absurd (hcapitals 't' (by decide)) (by decide)

/-- No key begins in both ways. -/
theorem not_has_paths (h : k.toList.head? = some 'r') : ¬ paths.Has k := by
  rintro ⟨rest, hrest⟩
  rw [← hrest] at h
  cases h

theorem head?_of_has_methods (h : methods.Has k) : k.toList.head? = some 'r' := by
  obtain ⟨⟨rest, hrest⟩, -⟩ := h
  rw [← hrest]
  rfl

/-- A key belongs to one family at most. -/
theorem has_unique (h : family.Has k) (h' : other.Has k) : family = other := by
  have htotal : ∀ f : Family, f.Has totalKey → f = all := by
    intro f hf
    cases f with
    | all => rfl
    | methods => exact absurd hf not_has_methods_totalKey
    | paths => exact absurd hf (not_has_paths (by decide))
  cases family with
  | all =>
      obtain rfl : k = totalKey := h
      exact (htotal other h').symm
  | methods =>
      cases other with
      | all =>
          obtain rfl : k = totalKey := h'
          exact htotal methods h
      | methods => rfl
      | paths => exact absurd h' (not_has_paths (head?_of_has_methods h))
  | paths =>
      cases other with
      | all =>
          obtain rfl : k = totalKey := h'
          exact htotal paths h
      | methods => exact absurd h (not_has_paths (head?_of_has_methods h'))
      | paths => rfl

/-- The key of a request in a family belongs to this family and to no other. -/
theorem has_key_iff : family.Has (other.key r) ↔ family = other :=
  ⟨fun h => has_unique h (has_key other r), fun h => h ▸ has_key other r⟩

end Family

/-! ## Runs -/

/-- A call that counts something. -/
inductive Call where
  | request (entry : Entry)
  /-- An event, counted as often as a value says. -/
  | event (name : String) (value : Json)

/-- A call for a request that returns. It fails if the status cannot be written. -/
def Call.isCounted : Call → Bool
  | request r => isWritable r.status
  | event _ _ => false

/-- The counters after a call. A status that cannot be written and a value that is no amount leave them as they are. -/
def record (c : Counters) : Call → Counters
  | .request r => (c.countRequest r.method r.path r.status).toOption.getD c
  | .event name value => (c.countValue name value).toOption.getD c

section Runs

variable {c : Counters} {calls : List Call} {family : Family} {r : Entry} {name : String} {value : Json}

/-- An event changes no counter of requests. -/
theorem requests_record_event : (c.record (.event name value)).requests = c.requests := by
  rw [record, countValue]
  split
  · rfl
  · cases amount value with
    | error fault => rfl
    | ok n => exact requests_countNamed

/-- A call for a request is counted exactly if it returns. -/
theorem isOk_countRequest : (c.countRequest r.method r.path r.status).isOk = (Call.request r).isCounted := by
  rw [countRequest, Call.isCounted]
  cases isWritable r.status <;> rfl

theorem record_of_isWritable (h : isWritable r.status = true) :
    c.record (.request r) = c.addRequest r.method r.path r.status := by
  rw [record, countRequest_of_isWritable h]
  rfl

theorem record_of_not_isWritable (h : isWritable r.status = false) : c.record (.request r) = c := by
  rw [record, countRequest, h]
  rfl

/-- A request adds one to each family. -/
theorem sum_addRequest :
    Table.sum family.Has (c.addRequest r.method r.path r.status).requests = Table.sum family.Has c.requests + 1 := by
  have hone : ∀ other : Family, (if family.Has (other.key r) then (1 : Int) else 0) = if family = other then 1 else 0 := by
    intro other
    simp only [Family.has_key_iff]
  change Table.sum _ (Table.bump (Family.paths.key r) 1 (Table.bump (Family.methods.key r) 1
    (Table.bump (Family.all.key r) 1 c.requests))) = _
  rw [Table.sum_bump, Table.sum_bump, Table.sum_bump, hone, hone, hone]
  cases family <;> simp

end Runs

/-- The counters of requests add up after some calls. -/
structure AddsUp (calls : List Call) (c : Counters) : Prop where
  /-- The total is the number of the calls for requests that return. -/
  total : Table.count c.requests totalKey = calls.countP Call.isCounted
  /-- The counters of each family add up to the total. -/
  family (family : Family) : Table.sum family.Has c.requests = Table.count c.requests totalKey
  /-- Each key stands in the table once. -/
  nodup : (Table.keys c.requests).Nodup
  /-- Each key in the table is one of a request, in one of the families. -/
  written : ∀ k ∈ Table.keys c.requests, ∃ family : Family, ∃ r, .request r ∈ calls ∧ k = family.key r

namespace AddsUp

variable {c : Counters} {calls : List Call}

theorem empty : AddsUp [] {} where
  total := rfl
  family _ := rfl
  nodup := List.nodup_nil
  written _ h := absurd h List.not_mem_nil

/-- A call that changes no counter of requests, and is none that is counted. -/
theorem skip {c' : Counters} {call : Call} (h : AddsUp calls c) (hcall : call.isCounted = false)
    (hrequests : c'.requests = c.requests) : AddsUp (calls ++ [call]) c' where
  total := by
    rw [hrequests, h.total, List.countP_append, List.countP_singleton, hcall]
    rfl
  family family := by rw [hrequests, h.family]
  nodup := hrequests ▸ h.nodup
  written k hk := by
    rw [hrequests] at hk
    obtain ⟨family, r, hr, hkey⟩ := h.written k hk
    exact ⟨family, r, List.mem_append_left _ hr, hkey⟩

theorem addRequest {r : Entry} (h : AddsUp calls c) (hstatus : isWritable r.status = true) :
    AddsUp (calls ++ [.request r]) (c.addRequest r.method r.path r.status) where
  total := by
    have hcounted : Call.isCounted (.request r) = true := hstatus
    rw [total_addRequest, h.total, List.countP_append, List.countP_singleton, hcounted]
    rfl
  family family := by rw [sum_addRequest, h.family, total_addRequest]
  nodup := Table.nodup_keys_bump (Table.nodup_keys_bump (Table.nodup_keys_bump h.nodup))
  written k hk := by
    have hkeys : ((k ∈ Table.keys c.requests ∨ k = Family.all.key r) ∨ k = Family.methods.key r) ∨
        k = Family.paths.key r := by
      rwa [← Table.mem_keys_bump, ← Table.mem_keys_bump, ← Table.mem_keys_bump]
    have hnew : .request r ∈ calls ++ [.request r] := List.mem_append_right _ List.mem_cons_self
    rcases hkeys with ((hk | hk) | hk) | hk
    · obtain ⟨family, old, hold, hkey⟩ := h.written k hk
      exact ⟨family, old, List.mem_append_left _ hold, hkey⟩
    · exact ⟨.all, r, hnew, hk⟩
    · exact ⟨.methods, r, hnew, hk⟩
    · exact ⟨.paths, r, hnew, hk⟩

/-- A call adds itself to what has been counted, if it is counted. -/
theorem record (h : AddsUp calls c) (call : Call) : AddsUp (calls ++ [call]) (c.record call) := by
  cases call with
  | request r =>
      cases hstatus : isWritable r.status with
      | true => exact record_of_isWritable hstatus ▸ h.addRequest hstatus
      | false => exact record_of_not_isWritable hstatus ▸ h.skip hstatus rfl
  | event name value => exact h.skip rfl requests_record_event

theorem foldl_record (calls : List Call) : AddsUp calls (calls.foldl Counters.record {}) := by
  induction calls using List.reverseRecOn with
  | nil => exact .empty
  | append_singleton calls call ih =>
      rw [List.foldl_append]
      exact ih.record call

end AddsUp

/-- However often requests and events are counted from the start, the counters of requests add up to the number of the
calls for requests that return. A request is counted under one key in each family, which belongs to no other family, and
an event changes no counter of requests. -/
theorem addsUp_of_calls :
    (∀ calls, AddsUp calls (calls.foldl record {})) ∧
      (∀ (c : Counters) (r : Entry),
        (c.countRequest r.method r.path r.status).isOk = (Call.request r).isCounted) ∧
      (∀ (family other : Family) (r : Entry), family.Has (other.key r) ↔ family = other) ∧
      ∀ (c : Counters) name value, (c.record (.event name value)).requests = c.requests :=
  ⟨AddsUp.foldl_record, fun _ _ => isOk_countRequest, fun _ _ _ => Family.has_key_iff,
    fun _ _ _ => requests_record_event⟩

end Counters

end EntityModel
